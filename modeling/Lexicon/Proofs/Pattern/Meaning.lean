import Lexicon.Proofs.Pattern.Denotation

/-!
What an expression matches in a text, conditions included. A word is matched between two places of
the text, of which a condition sees the characters next to it, and all that is matched is put
together from the parts of the expression. Reading along the residuals comes to the same, if no
repetition asks for more rounds than it allows.
-/

namespace Lexicon.Regex

abbrev Matching : Type := Option Char → List Char → Option Char → Prop

namespace Matching

def followedBy (P Q : Matching) : Matching := fun before word after =>
  ∃ v w, word = v ++ w ∧ P before v (w.head?.or after) ∧ Q (v.getLast?.or before) w after

def rounds (P : Matching) : Nat → Matching
  | 0 => fun _ word _ => word = []
  | n + 1 => P.followedBy (P.rounds n)

end Matching

def Fits : Regex → Matching
  | empty => fun _ word _ => word = []
  | chars s => fun _ word _ => ∃ c, s.contains c ∧ word = [c]
  | look l => fun before word after => l.holds before after ∧ word = []
  | seq r s => r.Fits.followedBy s.Fits
  | alt r s => fun before word after => r.Fits before word after ∨ s.Fits before word after
  | rep r lo hi => fun before word after =>
    ∃ n, lo ≤ n ∧ (∀ m ∈ hi, n ≤ m) ∧ r.Fits.rounds n before word after

def Proper : Regex → Prop
  | empty => True
  | chars _ => True
  | look _ => True
  | seq r s => r.Proper ∧ s.Proper
  | alt r s => r.Proper ∧ s.Proper
  | rep r lo hi => r.Proper ∧ ∀ m ∈ hi, lo ≤ m

/-- Reads a word along the residuals, up to the character behind it. -/
def Reads : Regex → Matching
  | r, before, [], after => r.nullable before after
  | r, before, c :: word, after => ∃ q ∈ r.residuals before c, q.Reads (some c) word after

variable {P : Matching} {b a : Option Char} {c : Char} {r s q : Regex} {v w : List Char} {n : Nat}
  {lo : Nat} {hi : Option Nat}

theorem getLast?_cons_or (c : Char) (v : List Char) (b : Option Char) :
    (c :: v).getLast?.or b = v.getLast?.or (some c) := by
  cases hv : v.getLast? <;> simp [List.getLast?_cons, hv]

theorem forall_succ_le_iff :
    (∀ m ∈ hi, n + 1 ≤ m) ↔ hi ≠ some 0 ∧ ∀ m ∈ hi.map (· - 1), n ≤ m := by
  cases hi with
  | none => simp
  | some m =>
    simp only [Option.mem_def, Option.some.injEq, Option.map_some, forall_eq', ne_eq]
    omega

theorem Matching.rounds_add (hP : P b [] (w.head?.or a)) (h : P.rounds n b w a) (k : Nat) :
    P.rounds (n + k) b w a := by
  induction k with
  | zero => exact h
  | succ k ih => exact ⟨[], w, rfl, hP, ih⟩

theorem reads_followedBy : (q.followedBy s).Reads b w a ↔ (seq q s).Reads b w a := by
  cases q with
  | empty => cases w <;> simp [followedBy, Reads, nullable, residuals]
  | _ => rfl

theorem reads_alt : (alt r s).Reads b w a ↔ r.Reads b w a ∨ s.Reads b w a := by
  cases w with
  | nil => simp [Reads, nullable]
  | cons c w => simp only [Reads, residuals, List.mem_append, or_and_right, exists_or]

theorem reads_seq : (seq r s).Reads b w a ↔ Matching.followedBy r.Reads s.Reads b w a := by
  induction w generalizing r b with
  | nil =>
    constructor
    · intro h
      have hnull : r.nullable b a ∧ s.nullable b a := by simpa [Reads, nullable] using h
      exact ⟨[], [], rfl, hnull⟩
    · rintro ⟨v, w, heq, hr, hs⟩
      obtain ⟨rfl, rfl⟩ := List.append_eq_nil_iff.mp heq.symm
      simpa [Reads, nullable] using ⟨hr, hs⟩
  | cons c w ih =>
    constructor
    · rintro ⟨q, hq, hread⟩
      simp only [residuals, List.mem_append, List.mem_map] at hq
      rcases hq with ⟨q, hq, rfl⟩ | hq
      · obtain ⟨v, w, rfl, hv, hw⟩ := ih.mp (reads_followedBy.mp hread)
        exact ⟨c :: v, w, rfl, ⟨q, hq, hv⟩, by rwa [getLast?_cons_or]⟩
      · split at hq
        · rename_i hnull
          exact ⟨[], c :: w, rfl, hnull, q, hq, hread⟩
        · cases hq
    · rintro ⟨v, u, heq, hv, hu⟩
      cases v with
      | nil =>
        subst heq
        obtain ⟨q, hq, hread⟩ := hu
        have hnull : r.nullable b (some c) := hv
        exact ⟨q, by simpa [residuals, hnull] using .inr hq, hread⟩
      | cons d v =>
        obtain ⟨rfl, rfl⟩ : c = d ∧ w = v ++ u := by simpa using heq
        obtain ⟨q, hq, hread⟩ := hv
        have hrest : (seq q s).Reads (some c) (v ++ u) a :=
          ih.mpr ⟨v, u, rfl, hread, by rwa [← getLast?_cons_or c v b]⟩
        refine ⟨q.followedBy s, ?_, reads_followedBy.mpr hrest⟩
        simp only [residuals, List.mem_append, List.mem_map]
        exact .inl ⟨q, hq, rfl⟩

theorem reads_rep_cons : (rep r lo hi).Reads b (c :: w) a ↔ hi ≠ some 0 ∧
    ∃ v u, w = v ++ u ∧ r.Reads b (c :: v) (u.head?.or a) ∧
      (rep r (if r.nullable b (some c) then 0 else lo - 1) (hi.map (· - 1))).Reads
        ((c :: v).getLast?.or b) u a := by
  constructor
  · rintro ⟨p, hp, hread⟩
    simp only [residuals] at hp
    split at hp
    · cases hp
    · rename_i hne
      obtain ⟨q, hq, rfl⟩ := List.mem_map.mp hp
      obtain ⟨v, u, rfl, hv, hu⟩ := reads_seq.mp (reads_followedBy.mp hread)
      exact ⟨hne, v, u, rfl, ⟨q, hq, hv⟩, by rwa [getLast?_cons_or]⟩
  · rintro ⟨hne, v, u, rfl, ⟨q, hq, hv⟩, hu⟩
    rw [getLast?_cons_or] at hu
    refine ⟨_, ?_, reads_followedBy.mpr (reads_seq.mpr ⟨v, u, rfl, hv, hu⟩)⟩
    simp only [residuals, if_neg hne, List.mem_map]
    exact ⟨q, hq, rfl⟩

theorem reads_rep_of_rounds (hlo : lo ≤ n) (hhi : ∀ m ∈ hi, n ≤ m)
    (h : Matching.rounds r.Reads n b w a) : (rep r lo hi).Reads b w a := by
  induction n generalizing lo hi b w with
  | zero =>
    obtain rfl : w = [] := h
    simp [Reads, nullable, Nat.le_zero.mp hlo]
  | succ n ih =>
    obtain ⟨v, u, rfl, hv, hu⟩ := h
    cases v with
    | cons c v =>
      obtain ⟨hne, hpred⟩ := forall_succ_le_iff.mp hhi
      exact reads_rep_cons.mpr ⟨hne, v, u, rfl, hv, ih (by split <;> omega) hpred hu⟩
    | nil =>
      have hnull : r.nullable b (u.head?.or a) := hv
      have hrest : (rep r (min lo n) hi).Reads b u a :=
        ih (Nat.min_le_right lo n) (fun m hm => Nat.le_of_succ_le (hhi m hm)) hu
      cases u with
      | nil =>
        have hnull : r.nullable b a := hnull
        simp [Reads, nullable, hnull]
      | cons c u =>
        -- An empty round in front makes up for those that are still required.
        have hnull : r.nullable b (some c) := hnull
        simp only [List.nil_append, reads_rep_cons, if_pos hnull] at hrest ⊢
        exact hrest

theorem exists_rounds_of_reads_rep (hle : ∀ m ∈ hi, lo ≤ m) (h : (rep r lo hi).Reads b w a) :
    ∃ n, lo ≤ n ∧ (∀ m ∈ hi, n ≤ m) ∧ Matching.rounds r.Reads n b w a := by
  induction hk : w.length using Nat.strongRecOn generalizing lo hi b w with
  | _ k ih =>
    subst hk
    cases w with
    | nil =>
      have hnull : lo = 0 ∨ r.nullable b a := by simpa [Reads, nullable] using h
      rcases hnull with rfl | hnull
      · exact ⟨0, Nat.le_refl 0, fun m _ => Nat.zero_le m, rfl⟩
      · have hrounds : Matching.rounds r.Reads (0 + lo) b [] a :=
          Matching.rounds_add (n := 0) hnull rfl lo
        rw [Nat.zero_add] at hrounds
        exact ⟨lo, Nat.le_refl lo, hle, hrounds⟩
    | cons c w =>
      obtain ⟨hne, v, u, rfl, hv, hu⟩ := reads_rep_cons.mp h
      have hleft : ∀ m ∈ hi.map (· - 1), (if r.nullable b (some c) then 0 else lo - 1) ≤ m := by
        intro m hm
        cases lo with
        | zero => simp
        | succ lo =>
          have := (forall_succ_le_iff.mp hle).2 m hm
          split <;> omega
      have hlt : u.length < (c :: (v ++ u)).length := by
        rw [List.length_cons, List.length_append]
        omega
      obtain ⟨n, hlo, hhi, hrounds⟩ := ih u.length hlt hleft hu rfl
      have hfirst : Matching.rounds r.Reads (n + 1) b (c :: v ++ u) a :=
        ⟨c :: v, u, rfl, hv, hrounds⟩
      have hbound := forall_succ_le_iff.mpr ⟨hne, hhi⟩
      by_cases hnull : r.nullable b (some c)
      · -- Empty rounds in front make up the number that is required.
        refine ⟨_, ?_, fun m hm => ?_, Matching.rounds_add hnull hfirst (lo - (n + 1))⟩
        · omega
        · have := hle m hm
          have := hbound m hm
          omega
      · rw [if_neg hnull] at hlo
        exact ⟨n + 1, by omega, hbound, hfirst⟩

/-- Reading along the residuals matches what the expression says. -/
theorem reads_eq_fits (hr : r.Proper) : r.Reads = r.Fits := by
  induction r with
  | empty =>
    funext b w a
    cases w <;> simp [Reads, Fits, nullable, residuals]
  | chars s =>
    funext b w a
    cases w with
    | nil => simp [Reads, Fits, nullable]
    | cons c w =>
      by_cases hc : s.contains c
      · cases w <;> simp [Reads, Fits, nullable, residuals, hc]
      · have hnot : ¬ (chars s).Fits b (c :: w) a := by
          rintro ⟨d, hd, heq⟩
          cases heq
          exact hc hd
        simp [Reads, residuals, hc, hnot]
  | look l =>
    funext b w a
    cases w <;> simp [Reads, Fits, nullable, residuals]
  | seq r s ihr ihs =>
    funext b w a
    rw [Fits, ← ihr hr.1, ← ihs hr.2]
    exact propext reads_seq
  | alt r s ihr ihs =>
    funext b w a
    rw [Fits, ← ihr hr.1, ← ihs hr.2]
    exact propext reads_alt
  | rep r lo hi ih =>
    funext b w a
    rw [Fits, ← ih hr.1]
    refine propext ⟨exists_rounds_of_reads_rep hr.2, ?_⟩
    rintro ⟨n, hlo, hhi, hrounds⟩
    exact reads_rep_of_rounds hlo hhi hrounds

theorem run_iff_reads : Residue.run b [r] w ↔ r.Reads b w none := by
  induction w generalizing r b with
  | nil => simp [Residue.run, Residue.accepts, Reads]
  | cons c w ih => simp only [Residue.run_cons_iff, Reads, ih]

theorem isMatch_iff_fits (hr : r.Proper) : r.isMatch w ↔ r.Fits none w none := by
  rw [isMatch, run_iff_reads, reads_eq_fits hr]

end Lexicon.Regex
