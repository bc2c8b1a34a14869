import Lexicon.Proofs.Composition
import Lexicon.Proofs.GapSurvey
import Lexicon.Proofs.Likeness
import Lexicon.Proofs.Pattern.Denotation

/-!
Lexemes in front of what may follow them. A word is cut off as a whole, whatever comes behind, if it
never loses its match for two characters on the way and no match goes on with the next character.
Only finitely many trials of such words come up, so that a sweep over them settles the question for
all words of an expression.
-/

namespace Lexicon

theorem run_flatMap_regexes (cs : List Category) (word : List Char) :
    Residue.run none (cs.flatMap Category.regexes) word ↔ ∃ c ∈ cs, c.accepts (.ofList word) := by
  rw [Residue.run_eq_any, List.any_flatMap, List.any_eq_true]
  simp only [Category.accepts_eq_run, String.toList_ofList, ← Residue.run_eq_any]

@[simp] theorem Residue.after_nil (word : List Char) : Residue.after [] word = [] := by
  induction word with
  | nil => rfl
  | cons c word ih => exact ih

theorem Residue.after_append_cons {t : Residue} {word rest : List Char} {c : Char}
    (h : (t.after word).advance none c = []) : t.after (word ++ c :: rest) = [] := by
  rw [after, List.foldl_append, List.foldl_cons]
  exact (congrArg (after · rest) h).trans (after_nil rest)

/-- A word that is read along with an expression for lexemes. The categories of the language are
those before the category in question, that one, and those behind it. -/
structure Trial : Type where
  earlier : Residue
  own : Residue
  later : Residue
  lexeme : Residue
  watch : Watch
  deriving DecidableEq

namespace Trial

def accepts (s : Trial) : Bool :=
  s.earlier.accepts none || s.own.accepts none || s.later.accepts none

def lost : Trial := ⟨[], [], [], [], .start⟩

def settle (s : Trial) : Trial := if s.lexeme = [] then lost else s

def read (s : Trial) (c : Char) : Trial :=
  let t : Trial := ⟨s.earlier.advance none c, s.own.advance none c, s.later.advance none c,
    s.lexeme.advance none c, s.watch⟩
  { t with watch := s.watch.next t.accepts }

def step (s : Trial) (c : Char) : Trial := (s.read c).settle

def ends (s : Trial) (c : Char) : Bool :=
  (s.earlier.advance none c).isEmpty && (s.own.advance none c).isEmpty &&
    (s.later.advance none c).isEmpty

def passes (letters : List Char) (follow : CharSet) (s : Trial) : Bool :=
  !s.lexeme.accepts none ||
    (s.watch.now && !s.watch.cut && s.own.accepts none && !s.earlier.accepts none &&
      letters.all fun c => !follow.contains c || s.ends c)

def along (s : Trial) (word : List Char) : Trial :=
  ⟨s.earlier.after word, s.own.after word, s.later.after word, s.lexeme.after word, .start⟩

def reading (s : Trial) (word : List Char) : Trial :=
  { s.along word with watch := .upTo (fun n => (s.along (word.take n)).accepts) word.length }

theorem settle_of_accepts {s : Trial} (h : s.lexeme.accepts none) : s.settle = s := by
  refine if_neg fun hnil => ?_
  rw [hnil] at h
  cases h

theorem of_passes {s : Trial} {letters : List Char} {follow : CharSet}
    (h : s.passes letters follow) (hs : s.lexeme.accepts none) :
    (s.watch.now ∧ s.watch.cut = false) ∧ (s.own.accepts none ∧ ¬ s.earlier.accepts none) ∧
      ∀ c ∈ letters, follow.contains c → s.ends c := by
  simp only [passes, hs, Bool.not_true, Bool.false_or, Bool.and_eq_true, Bool.not_eq_true',
    List.all_eq_true] at h
  obtain ⟨⟨⟨hwatch, hown⟩, hearlier⟩, hends⟩ := h
  refine ⟨hwatch, ⟨hown, by simp [hearlier]⟩, fun c hc hfollow => ?_⟩
  simpa [hfollow] using hends c hc

theorem step_settle (s : Trial) (c : Char) : s.settle.step c = s.step c := by
  unfold settle
  split
  · rename_i hs
    simp [step, settle, read, hs, lost]
  · rfl

theorem reading_concat (s : Trial) (word : List Char) (c : Char) :
    s.reading (word ++ [c]) = (s.reading word).read c := by
  have hafter : ∀ t : Residue, t.after (word ++ [c]) = (t.after word).advance none c := by
    simp [Residue.after]
  have hwatch : Watch.upTo (fun n => (s.along ((word ++ [c]).take n)).accepts) word.length =
      Watch.upTo (fun n => (s.along (word.take n)).accepts) word.length :=
    Watch.upTo_congr fun i hi => by rw [List.take_append_of_le_length hi]
  have hwhole : (word ++ [c]).take (word.length + 1) = word ++ [c] :=
    List.take_of_length_le (by simp)
  simp only [reading, List.length_append, List.length_singleton, Watch.upTo, hwatch, hwhole]
  simp only [read, along, hafter, accepts]

theorem foldl_step (s : Trial) (word : List Char) :
    word.foldl step (s.reading []).settle = (s.reading word).settle := by
  suffices h : ∀ seen, word.foldl step (s.reading seen).settle =
      (s.reading (seen ++ word)).settle from h []
  induction word with
  | nil => simp
  | cons c word ih =>
    intro seen
    have hstep : (s.reading seen).settle.step c = (s.reading (seen ++ [c])).settle := by
      rw [step_settle, reading_concat, step]
    rw [List.foldl_cons, hstep, ih, List.append_assoc, List.singleton_append]

end Trial

theorem firstCut_of_upTo {M : Nat → Prop} {hits : Nat → Bool} {n : Nat}
    (hM : ∀ i ≤ n, hits i ↔ M i) (hnow : (Watch.upTo hits n).now)
    (hcut : (Watch.upTo hits n).cut = false) (hend : ∀ i, n < i → ¬ M i) : FirstCut M n := by
  have hpos : 0 < n := by
    rcases Nat.eq_zero_or_pos n with rfl | hpos
    · cases hnow
    · exact hpos
  have hhit : M n := by
    rw [Watch.now_upTo hpos] at hnow
    exact (hM n (Nat.le_refl n)).mp hnow
  refine ⟨⟨hpos, hhit, hend _ (by omega), hend _ (by omega)⟩, fun k hk => ?_⟩
  apply Nat.le_of_not_lt
  intro hlt
  have hne : k + 1 ≠ n := by
    rintro rfl
    exact hk.miss hhit
  have hne' : k + 2 ≠ n := by
    rintro rfl
    exact hk.missAgain hhit
  have hlost : (Watch.upTo hits n).cut := Watch.cut_upTo.mpr
    ⟨k, k + 1, hk.pos, by omega, by omega, (hM k (by omega)).mpr hk.hit,
      mt (hM _ (by omega)).mp hk.miss, mt (hM _ (by omega)).mp hk.missAgain⟩
  rw [hcut] at hlost
  cases hlost

namespace Language

/-- Every word of the expression, in front of the end of the text or of one of the followers, is cut
off first and gets the category. -/
def Delimits (l : Language) (r : Regex) (follow : CharSet) (category : String) : Prop :=
  ∀ word rest, r.Denotes word → (∀ c ∈ rest.head?, follow.contains c) →
    FirstCut (l.Matches (word ++ rest)) word.length ∧ l.classify (.ofList word) = some category

def earlier (l : Language) (category : String) : List Category :=
  l.categories.takeWhile (·.name ≠ category)

def others (l : Language) (category : String) : List Category :=
  l.categories.dropWhile (·.name ≠ category)

def trial (l : Language) (category : String) (r : Regex) : Trial :=
  ⟨(l.earlier category).flatMap Category.regexes,
    ((l.others category).take 1).flatMap Category.regexes,
    ((l.others category).drop 1).flatMap Category.regexes, [r], .start⟩

def trialSets (l : Language) (r : Regex) (follow : CharSet) : List CharSet :=
  (follow :: (r :: l.regexes).flatMap (·.sets)).eraseDups

def delimits (l : Language) (r : Regex) (follow : CharSet) (category : String)
    (letters : List Char) (fuel : Nat) : Bool :=
  let start := ((l.trial category r).reading []).settle
  (r :: l.regexes).all (·.plain) &&
    (l.trialSets r follow).all (·.simple) && covers (l.trialSets r follow) letters samples &&
    sweep (fun s => letters.map s.step) (Trial.passes letters follow) fuel [start] [start]

variable {l : Language} {r : Regex} {follow : CharSet} {category : String} {f : Char → Char}
  {word rest : List Char} {c : Char}

/-- Characters may be read as others that the trial does not tell from them. -/
structure Spells (l : Language) (r : Regex) (follow : CharSet) (f : Char → Char) : Prop where
  plain : ∀ q ∈ r :: l.regexes, q.plain
  sets : ∀ s ∈ l.trialSets r follow, ∀ c, s.contains (f c) = s.contains c

theorem Spells.run_eq (h : l.Spells r follow f) {t : Residue}
    (ht : t ⊆ r :: l.regexes) (word : List Char) :
    t.run none word = (t.after (word.map f)).accepts none := by
  have hover : t.Over (· ∈ l.trialSets r follow) := by
    intro q hq
    refine Regex.over_of_plain (h.plain q (ht hq)) fun s hs => ?_
    rw [trialSets, List.mem_eraseDups]
    exact List.mem_cons_of_mem _ (List.mem_flatMap.mpr ⟨q, ht hq, hs⟩)
  exact hover.run_eq_after_map h.sets word

theorem Spells.exists_accepts_iff (h : l.Spells r follow f) {cs : List Category}
    (hcs : cs ⊆ l.categories) (word : List Char) :
    (∃ c ∈ cs, c.accepts (.ofList word)) ↔
      Residue.accepts none (Residue.after (cs.flatMap Category.regexes) (word.map f)) := by
  rw [← run_flatMap_regexes, h.run_eq]
  intro q hq
  obtain ⟨c, hc, hq⟩ := List.mem_flatMap.mp hq
  exact List.mem_cons_of_mem _ (List.mem_flatMap.mpr ⟨c, hcs hc, hq⟩)

theorem categories_eq (l : Language) (category : String) :
    l.categories = l.earlier category ++
      ((l.others category).take 1 ++ (l.others category).drop 1) := by
  rw [List.take_append_drop, earlier, others, List.takeWhile_append_dropWhile]

theorem parts_subset (l : Language) (category : String) :
    l.earlier category ⊆ l.categories ∧ (l.others category).take 1 ⊆ l.categories ∧
      (l.others category).drop 1 ⊆ l.categories := by
  rw [l.categories_eq category]
  refine ⟨?_, ?_, ?_⟩
  all_goals
    intro c hc
    simp only [List.mem_append, hc, true_or, or_true]

theorem Spells.accepts_iff (h : l.Spells r follow f) (category : String) (word : List Char) :
    l.Accepts word ↔ ((l.trial category r).along (word.map f)).accepts := by
  obtain ⟨hearlier, hown, hlater⟩ := l.parts_subset category
  have haccepts : l.Accepts word ↔ ∃ c ∈ l.categories, c.accepts (.ofList word) := by
    simp only [Accepts, Category.accepts, List.any_eq_true]
  rw [haccepts, Trial.accepts, Trial.along, trial, Bool.or_eq_true, Bool.or_eq_true,
    ← h.exists_accepts_iff hearlier, ← h.exists_accepts_iff hown, ← h.exists_accepts_iff hlater,
    l.categories_eq category]
  simp only [List.mem_append, or_and_right, exists_or, or_assoc]

theorem Spells.not_accepts (h : l.Spells r follow f)
    (hends : ((l.trial category r).along (word.map f)).ends (f c)) :
    ¬ l.Accepts (word ++ c :: rest) := by
  simp only [Trial.ends, Trial.along, Bool.and_eq_true, List.isEmpty_iff] at hends
  obtain ⟨⟨hearlier, hown⟩, hlater⟩ := hends
  rw [h.accepts_iff category, List.map_append, List.map_cons, Trial.along,
    Residue.after_append_cons hearlier, Residue.after_append_cons hown,
    Residue.after_append_cons hlater]
  simp [Trial.accepts, Residue.accepts]

theorem Spells.matches_iff (h : l.Spells r follow f) (category : String) {i : Nat}
    (hi : i ≤ word.length) :
    ((l.trial category r).along ((word.map f).take i)).accepts ↔ l.Matches (word ++ rest) i := by
  rw [matches_append_iff hi, Matches, h.accepts_iff category, List.map_take]
  simp [hi]

theorem Spells.not_matches (h : l.Spells r follow f) (category : String) {i : Nat}
    (hends : ∀ c ∈ rest.head?, ((l.trial category r).along (word.map f)).ends (f c))
    (hi : word.length < i) : ¬ l.Matches (word ++ rest) i := by
  rintro ⟨hle, haccepts⟩
  cases rest with
  | nil =>
    rw [List.append_nil] at hle
    omega
  | cons c rest =>
    obtain ⟨k, rfl⟩ := Nat.exists_eq_add_of_lt hi
    rw [List.take_append, List.take_of_length_le (by omega), Nat.add_assoc,
      Nat.add_sub_cancel_left, List.take_succ_cons] at haccepts
    exact h.not_accepts (hends c rfl) haccepts

theorem classify_eq_of_accepts {text : String}
    (hearlier : ¬ ∃ c ∈ l.earlier category, c.accepts text)
    (hown : ∃ c ∈ (l.others category).take 1, c.accepts text) :
    l.classify text = some category := by
  have hnone : (l.earlier category).find? (·.accepts text) = none := by
    rw [List.find?_eq_none]
    exact fun c hc haccepts => hearlier ⟨c, hc, haccepts⟩
  cases hothers : l.others category with
  | nil => simp [hothers] at hown
  | cons c cs =>
    have hname : c.name = category := by
      have hhead := List.head?_dropWhile_not (fun c : Category => decide (c.name ≠ category))
        l.categories
      rw [← others, hothers] at hhead
      simpa using hhead
    have haccepts : c.accepts text := by simpa [hothers] using hown
    rw [classify, l.categories_eq category, List.take_append_drop, List.find?_append, hnone,
      hothers]
    simp [haccepts, hname]

theorem delimits_of_sweep {letters : List Char} {fuel : Nat}
    (h : l.delimits r follow category letters fuel) : l.Delimits r follow category := by
  simp only [delimits, Bool.and_eq_true] at h
  obtain ⟨⟨⟨hplain, hsimple⟩, hcovers⟩, hsweep⟩ := h
  choose f hf hsets using exists_letter hcovers (List.all_eq_true.mp hsimple)
  have hspells : l.Spells r follow f :=
    ⟨List.all_eq_true.mp hplain, fun s hs c => hsets c s hs⟩
  intro word rest hword hrest
  have hlexeme : ((l.trial category r).reading (word.map f)).lexeme.accepts none := by
    have hrun := hword.run (Regex.over_of_plain (hspells.plain r (by simp)) fun _ _ => trivial) none
    rwa [hspells.run_eq (by simp)] at hrun
  have hletters : ∀ d ∈ word.map f, d ∈ letters := by simpa using fun c _ => hf c
  have hpasses := ok_of_sweep hsweep hletters
  rw [Trial.foldl_step, Trial.settle_of_accepts hlexeme] at hpasses
  obtain ⟨⟨hnow, hcut⟩, ⟨hown, hearlier⟩, hends⟩ := Trial.of_passes hpasses hlexeme
  have hfollow : ∀ c ∈ rest.head?, follow.contains (f c) := by
    intro c hc
    rw [hspells.sets follow (List.mem_eraseDups.mpr List.mem_cons_self) c]
    exact hrest c hc
  obtain ⟨hsubset, hsubset', -⟩ := l.parts_subset category
  constructor
  · refine firstCut_of_upTo (fun i hi => hspells.matches_iff category hi) ?_ ?_
      fun i => hspells.not_matches category fun c hc => hends _ (hf c) (hfollow c hc)
    · simpa [Trial.reading] using hnow
    · simpa [Trial.reading] using hcut
  · refine classify_eq_of_accepts ?_ ?_
    · rwa [hspells.exists_accepts_iff hsubset]
    · rwa [hspells.exists_accepts_iff hsubset']

end Language

theorem Segmentation.of_delimits {l : Language} {discard : List String} {start : Nat} {r : Regex}
    {follow : CharSet} {category : String} {word rest : List Char} {tokens : List Token}
    (hr : l.Delimits r follow category) (hright : l.isWrong category = false)
    (hword : r.Denotes word) (hfollow : ∀ c ∈ rest.head?, follow.contains c)
    (hrest : Segmentation l discard (start + (String.ofList word).utf8ByteSize) rest (.ok tokens)) :
    Segmentation l discard start (word ++ rest)
      (.ok (if category ∈ discard then tokens else ⟨category, .ofList word, start⟩ :: tokens)) := by
  obtain ⟨hcut, hclass⟩ := hr word rest hword hfollow
  have hbehind : Segmentation l discard
      (start + (String.ofList ((word ++ rest).take word.length)).utf8ByteSize)
      ((word ++ rest).drop word.length) (.ok tokens) := by
    rwa [List.take_left, List.drop_left]
  have hseg := Segmentation.word hcut (by rwa [List.take_left]) hright hbehind
  rw [List.take_left] at hseg
  by_cases hd : category ∈ discard
  · rwa [if_pos hd] at hseg ⊢
  · rwa [if_neg hd] at hseg ⊢

end Lexicon
