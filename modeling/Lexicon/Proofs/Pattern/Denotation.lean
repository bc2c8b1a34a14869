import Lexicon.Proofs.Pattern.Residue

/-!
The words that an expression stands for, told by rules. A plain expression matches all of them,
whatever stands before them.
-/

namespace Lexicon

namespace CharSet

def anyOf : List Char → CharSet
  | [] => none
  | c :: cs => union (single c) (anyOf cs)

theorem contains_anyOf {cs : List Char} {c : Char} : (anyOf cs).contains c ↔ c ∈ cs := by
  induction cs with
  | nil => simp [anyOf, contains]
  | cons d cs ih => simp [anyOf, contains, ih, @eq_comm _ d c]

end CharSet

namespace Regex

/-- The words of an expression, with no condition in it to look at what stands around them. -/
inductive Denotes : Regex → List Char → Prop
  | empty : Denotes empty []
  | chars {s : CharSet} {c : Char} : s.contains c → Denotes (chars s) [c]
  | seq {r s : Regex} {v w : List Char} : Denotes r v → Denotes s w → Denotes (seq r s) (v ++ w)
  | left {r s : Regex} {w : List Char} : Denotes r w → Denotes (alt r s) w
  | right {r s : Regex} {w : List Char} : Denotes s w → Denotes (alt r s) w
  | none {r : Regex} {hi : Option Nat} : Denotes (rep r 0 hi) []
  | more {r : Regex} {lo : Nat} {hi : Option Nat} {v w : List Char} :
      hi ≠ some 0 → v ≠ [] → Denotes r v → Denotes (rep r (lo - 1) (hi.map (· - 1))) w →
      Denotes (rep r lo hi) (v ++ w)

theorem denotes_cons {s : CharSet} {r : Regex} {c : Char} {w : List Char} (hc : s.contains c)
    (hw : r.Denotes w) : (seq (chars s) r).Denotes (c :: w) :=
  .seq (.chars hc) hw

theorem denotes_option {r : Regex} {w : List Char} (hne : w ≠ []) (hr : r.Denotes w) :
    (rep r 0 (some 1)).Denotes w := by
  rw [← List.append_nil w]
  exact .more (by simp) hne hr .none

theorem denotes_rep_chars {s : CharSet} {w : List Char} (h : ∀ c ∈ w, s.contains c) :
    (rep (chars s) 0 none).Denotes w := by
  induction w with
  | nil => exact .none
  | cons c w ih =>
    simp only [List.forall_mem_cons] at h
    exact Denotes.more (v := [c]) (by simp) (by simp) (.chars h.1) (ih h.2)

theorem denotes_rep_one_chars {s : CharSet} {c : Char} {w : List Char} (hc : s.contains c)
    (h : ∀ d ∈ w, s.contains d) : (rep (chars s) 1 none).Denotes (c :: w) :=
  Denotes.more (v := [c]) (by simp) (by simp) (.chars hc) (denotes_rep_chars h)

def word (w : List Char) : Regex := w.foldr (fun c r => .seq (.chars (.single c)) r) .empty

theorem denotes_word (w : List Char) : (word w).Denotes w := by
  induction w with
  | nil => exact .empty
  | cons c w ih => exact denotes_cons (by simp) ih

end Regex

namespace Residue

open Regex

variable {b : Option Char} {c : Char} {r s : Regex} {v w : List Char} {lo : Nat} {hi : Option Nat}

theorem run_cons_iff : run b [r] (c :: w) ↔ ∃ q ∈ r.residuals b c, run (some c) [q] w := by
  rw [run, run_eq_any, List.any_eq_true]
  simp [mem_advance]

theorem run_followedBy (r s : Regex) (w : List Char) :
    run b [r.followedBy s] w = run b [seq r s] w := by
  cases r with
  | empty => cases w <;> simp [followedBy, run, accepts, nullable, advance, residuals]
  | _ => rfl

theorem run_alt : run b [alt r s] w ↔ run b [r] w ∨ run b [s] w := by
  cases w with
  | nil => simp [run, accepts, nullable]
  | cons c w => simp only [run_cons_iff, residuals, List.mem_append, or_and_right, exists_or]

theorem run_seq (hr : r.Over fun _ => True) (hv : run b [r] v) (hw : ∀ b, run b [s] w) :
    run b [seq r s] (v ++ w) := by
  induction v generalizing r b with
  | nil =>
    have hnull : r.nullable b none := by simpa [run, accepts] using hv
    cases w with
    | nil => simpa [run, accepts, nullable, hnull] using hw b
    | cons c w =>
      -- The first part is used up, and `c` belongs to the second one.
      obtain ⟨q, hq, hrun⟩ := run_cons_iff.mp (hw b)
      have hnull' : r.nullable b (some c) := by rwa [nullable_congr hr b (some c) b none]
      exact run_cons_iff.mpr ⟨q, by simp [residuals, hnull', hq], hrun⟩
  | cons c v ih =>
    obtain ⟨q, hq, hrun⟩ := run_cons_iff.mp hv
    have hrest := ih (of_mem_residuals hr hq).1 hrun
    rw [← run_followedBy] at hrest
    refine run_cons_iff.mpr ⟨q.followedBy s, ?_, hrest⟩
    simp only [residuals, List.mem_append, List.mem_map]
    exact .inl ⟨q, hq, rfl⟩

theorem run_rep_of_nullable (hr : r.Over fun _ => True) (hnull : r.nullable none none)
    (h : run b [rep r lo hi] w) : run b [rep r 0 hi] w := by
  cases w with
  | nil => simp [run, accepts, nullable]
  | cons c w =>
    have hnull' : r.nullable b (some c) := by rwa [nullable_congr hr b (some c) none none]
    obtain ⟨q, hq, hrun⟩ := run_cons_iff.mp h
    exact run_cons_iff.mpr ⟨q, by simpa [residuals, hnull'] using hq, hrun⟩

theorem run_rep (hr : r.Over fun _ => True) (hhi : hi ≠ some 0) (hv : run b [r] v) (hne : v ≠ [])
    (hw : ∀ b, run b [rep r (lo - 1) (hi.map (· - 1))] w) : run b [rep r lo hi] (v ++ w) := by
  cases v with
  | nil => exact absurd rfl hne
  | cons c v =>
    obtain ⟨q, hq, hrun⟩ := run_cons_iff.mp hv
    have hrest : ∀ b', run b' [rep r (if r.nullable b (some c) then 0 else lo - 1)
        (hi.map (· - 1))] w := by
      intro b'
      split
      · rename_i hnull
        rw [nullable_congr hr b (some c) none none] at hnull
        exact run_rep_of_nullable hr hnull (hw b')
      · exact hw b'
    have hround := run_seq (of_mem_residuals hr hq).1 hrun hrest
    rw [← run_followedBy] at hround
    refine run_cons_iff.mpr ⟨_, ?_, hround⟩
    simp only [residuals, if_neg hhi, List.mem_map]
    exact ⟨q, hq, rfl⟩

end Residue

theorem Regex.Denotes.run {r : Regex} {w : List Char} (h : r.Denotes w) (hr : r.Over fun _ => True)
    (b : Option Char) : Residue.run b [r] w := by
  induction h generalizing b with
  | empty => rfl
  | chars hc => exact Residue.run_cons_iff.mpr ⟨.empty, by simp [residuals, hc], rfl⟩
  | seq _ _ ihv ihw => exact Residue.run_seq hr.1 (ihv hr.1 b) (ihw hr.2)
  | left _ ih => exact Residue.run_alt.mpr (.inl (ih hr.1 b))
  | right _ ih => exact Residue.run_alt.mpr (.inr (ih hr.2 b))
  | none => rfl
  | more hhi hne _ _ ihv ihw => exact Residue.run_rep hr hhi (ihv hr b) hne (ihw hr)

end Lexicon
