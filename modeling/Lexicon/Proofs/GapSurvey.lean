import Mathlib.Tactic.Choose
import Lexicon.Proofs.LongestMatch
import Lexicon.Proofs.Pattern.Alphabet
import Lexicon.Proofs.Pattern.Keyword
import Lexicon.Proofs.Sweep

/-!
Surveys of the gaps of a language. A survey reads a text along with a pattern for the texts in which
a gap is suspected, and takes note of the matches on the way. Only finitely many surveys come up, so
that a sweep over them tells whether the gaps are where they are suspected.
-/

namespace Lexicon

/-- What is known of the matches so far: whether there was one, whether the last length is one,
whether one was lost for two characters, and whether one came back after that. -/
structure Watch : Type where
  hit : Bool
  now : Bool
  cut : Bool
  late : Bool
  deriving DecidableEq

namespace Watch

def start : Watch := ⟨false, false, false, false⟩

def next (w : Watch) (m : Bool) : Watch :=
  ⟨w.hit || m, m, w.cut || (w.hit && !w.now && !m), w.late || (w.cut && m)⟩

def upTo (M : Nat → Bool) : Nat → Watch
  | 0 => start
  | n + 1 => (upTo M n).next (M (n + 1))

variable {M M' : Nat → Bool} {n : Nat}

theorem upTo_congr (h : ∀ i ≤ n, M i = M' i) : upTo M n = upTo M' n := by
  induction n with
  | zero => rfl
  | succ n ih => rw [upTo, upTo, ih fun i hi => h i (by omega), h (n + 1) (by omega)]

theorem hit_upTo : (upTo M n).hit ↔ ∃ i, 0 < i ∧ i ≤ n ∧ M i := by
  induction n with
  | zero =>
    constructor
    · intro h
      cases h
    · rintro ⟨i, hi, hi0, -⟩
      omega
  | succ n ih =>
    simp only [upTo, next, Bool.or_eq_true, ih]
    constructor
    · rintro (⟨i, hi, hin, hMi⟩ | hM)
      · exact ⟨i, hi, by omega, hMi⟩
      · exact ⟨n + 1, by omega, by omega, hM⟩
    · rintro ⟨i, hi, hin, hMi⟩
      by_cases heq : i = n + 1
      · exact .inr (heq ▸ hMi)
      · exact .inl ⟨i, hi, by omega, hMi⟩

theorem now_upTo (hn : 0 < n) : (upTo M n).now = M n := by
  cases n with
  | zero => omega
  | succ n => rfl

theorem cut_upTo :
    (upTo M n).cut ↔ ∃ i k, 0 < i ∧ i < k ∧ k + 1 ≤ n ∧ M i ∧ ¬ M k ∧ ¬ M (k + 1) := by
  induction n with
  | zero =>
    constructor
    · intro h
      cases h
    · rintro ⟨i, k, -, -, hk, -⟩
      omega
  | succ n ih =>
    simp only [upTo, next, Bool.or_eq_true, Bool.and_eq_true, Bool.not_eq_true', ih, hit_upTo]
    constructor
    · rintro (⟨i, k, hi, hik, hkn, hM⟩ | ⟨⟨⟨i, hi, hin, hMi⟩, hnow⟩, hM⟩)
      · exact ⟨i, k, hi, hik, by omega, hM⟩
      · rw [now_upTo (by omega)] at hnow
        have hne : i ≠ n := by
          rintro rfl
          rw [hMi] at hnow
          cases hnow
        exact ⟨i, n, hi, by omega, by omega, hMi, by simp [hnow], by simp [hM]⟩
    · rintro ⟨i, k, hi, hik, hkn, hMi, hMk, hMk'⟩
      by_cases heq : k = n
      · subst heq
        rw [now_upTo (by omega)]
        exact .inr ⟨⟨⟨i, hi, by omega, hMi⟩, by simpa using hMk⟩, by simpa using hMk'⟩
      · exact .inl ⟨i, k, hi, hik, by omega, hMi, hMk, hMk'⟩

theorem late_upTo :
    (upTo M n).late ↔
      ∃ i k j, 0 < i ∧ i < k ∧ k + 1 < j ∧ j ≤ n ∧ M i ∧ M j ∧ ¬ M k ∧ ¬ M (k + 1) := by
  induction n with
  | zero =>
    constructor
    · intro h
      cases h
    · rintro ⟨i, k, j, -, -, hkj, hj, -⟩
      omega
  | succ n ih =>
    simp only [upTo, next, Bool.or_eq_true, Bool.and_eq_true, ih, cut_upTo]
    constructor
    · rintro (⟨i, k, j, hi, hik, hkj, hjn, hM⟩ | ⟨⟨i, k, hi, hik, hkn, hMi, hMk⟩, hM⟩)
      · exact ⟨i, k, j, hi, hik, hkj, by omega, hM⟩
      · exact ⟨i, k, n + 1, hi, hik, by omega, by omega, hMi, hM, hMk⟩
    · rintro ⟨i, k, j, hi, hik, hkj, hjn, hMi, hMj, hMk⟩
      by_cases heq : j = n + 1
      · exact .inr ⟨⟨i, k, hi, hik, by omega, hMi, hMk⟩, heq ▸ hMj⟩
      · exact .inl ⟨i, k, j, hi, hik, hkj, by omega, hMi, hMj, hMk⟩

end Watch

structure Survey : Type where
  language : Residue
  suspect : Residue
  watch : Watch
  deriving DecidableEq

namespace Survey

def init (t u : Residue) : Survey := ⟨t, u, .start⟩

def step (s : Survey) (c : Char) : Survey :=
  let t := s.language.advance none c
  ⟨t, s.suspect.advance none c, s.watch.next (t.accepts none)⟩

def agrees (s : Survey) : Bool := s.watch.late == s.suspect.accepts none

def reading (t u : Residue) (word : List Char) : Survey :=
  ⟨t.after word, u.after word,
    .upTo (fun n => (t.after (word.take n)).accepts none) word.length⟩

variable {t u : Residue}

theorem reading_concat (word : List Char) (c : Char) :
    reading t u (word ++ [c]) = (reading t u word).step c := by
  have hafter : ∀ v : Residue, v.after (word ++ [c]) = (v.after word).advance none c := by
    simp [Residue.after]
  have hwatch : Watch.upTo (fun n => (t.after ((word ++ [c]).take n)).accepts none) word.length =
      Watch.upTo (fun n => (t.after (word.take n)).accepts none) word.length :=
    Watch.upTo_congr fun i hi => by rw [List.take_append_of_le_length hi]
  have hwhole : (word ++ [c]).take (word.length + 1) = word ++ [c] :=
    List.take_of_length_le (by simp)
  simp only [reading, step, List.length_append, List.length_singleton, Watch.upTo, hwatch, hwhole,
    hafter]

theorem foldl_step (t u : Residue) (word : List Char) :
    word.foldl step (init t u) = reading t u word := by
  suffices h : ∀ seen, word.foldl step (reading t u seen) = reading t u (seen ++ word) from h []
  induction word with
  | nil => simp
  | cons c word ih =>
    intro seen
    rw [List.foldl_cons, ← reading_concat, ih, List.append_assoc, List.singleton_append]

end Survey

namespace Language

def regexes (l : Language) : Residue := l.categories.flatMap fun c => c.patterns.map (·.regex)

theorem run_regexes (l : Language) (word : List Char) : l.regexes.run none word ↔ l.Accepts word := by
  rw [Residue.run_eq_any, List.any_eq_true]
  simp only [regexes, List.mem_flatMap, List.mem_map]
  constructor
  · rintro ⟨_, ⟨c, hc, p, hp, rfl⟩, hrun⟩
    exact ⟨c, hc, p, hp, by rwa [p.isMatch_ofList]⟩
  · rintro ⟨c, hc, p, hp, hmatch⟩
    exact ⟨p.regex, ⟨c, hc, p, hp, rfl⟩, by rwa [← p.isMatch_ofList]⟩

def surveyedSets (l : Language) (p : Pattern) : List CharSet :=
  ((p.regex :: l.regexes.core).flatMap (·.sets)).eraseDups

/-- Does a sweep over texts of the given letters find gaps in the texts that `p` matches and in no
others, with letters that stand for all characters? -/
def gapsIn (l : Language) (p : Pattern) (letters : List Char) (fuel : Nat) : Bool :=
  let start := Survey.init l.regexes.core [p.regex]
  (p.regex :: l.regexes.core).all (·.plain) && (l.surveyedSets p).all (·.simple) &&
    covers (l.surveyedSets p) letters samples &&
    sweep (fun s => letters.map s.step) Survey.agrees fuel [start] [start]

variable {l : Language} {p : Pattern} {letters : List Char} {fuel : Nat}

theorem over_surveyedSets (h : (p.regex :: l.regexes.core).all (·.plain)) :
    ∀ r ∈ p.regex :: l.regexes.core, r.Over (· ∈ l.surveyedSets p) := by
  intro r hr
  refine Regex.over_of_plain (List.all_eq_true.mp h r hr) fun s hs => ?_
  rw [surveyedSets, List.mem_eraseDups, List.mem_flatMap]
  exact ⟨r, hr, hs⟩

theorem gapIn_iff_isMatch (h : l.gapsIn p letters fuel) (text : List Char) :
    l.GapIn text ↔ p.isMatch (.ofList text) := by
  simp only [gapsIn, Bool.and_eq_true] at h
  obtain ⟨⟨⟨hplain, hsimple⟩, hcovers⟩, hsweep⟩ := h
  have hover := over_surveyedSets hplain
  have hp : Residue.Over (· ∈ l.surveyedSets p) [p.regex] := fun r hr =>
    hover r (by simp [List.mem_singleton.mp hr])
  have hcore : Residue.Over (· ∈ l.surveyedSets p) l.regexes.core := fun r hr =>
    hover r (by simp [hr])
  -- Every character is read as a letter that no set tells from it.
  choose f hf hsets using exists_letter hcovers (List.all_eq_true.mp hsimple)
  have hmatches : ∀ n, (l.regexes.core.after ((text.map f).take n)).accepts none ↔
      l.Accepts (text.take n) := by
    intro n
    rw [← List.map_take, ← hcore.run_eq_after_map (fun s hs c => hsets c s hs) (b := none),
      Residue.run_core, run_regexes]
  have hletters : ∀ d ∈ text.map f, d ∈ letters := by simpa using fun c _ => hf c
  have hagrees := ok_of_sweep hsweep hletters
  simp only [Survey.foldl_step, Survey.agrees, Survey.reading, beq_iff_eq] at hagrees
  have hsuspect :
      p.isMatch (.ofList text) = (Residue.after [p.regex] (text.map f)).accepts none := by
    rw [p.isMatch_ofList, hp.run_eq_after_map fun s hs c => hsets c s hs]
  rw [hsuspect, ← hagrees, Watch.late_upTo, List.length_map]
  simp only [hmatches]
  rfl

end Language

end Lexicon
