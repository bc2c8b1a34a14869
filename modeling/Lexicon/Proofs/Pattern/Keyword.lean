import Lexicon.Proofs.Pattern.Residue

namespace Lexicon

namespace Regex

def nameSets? : Regex → Option (CharSet × CharSet)
  | seq (chars s) (rep (chars u) 0 none) => some (s, u)
  | _ => none

/-- Is `k` spelt with single characters that may stand anywhere in a name of `r`? -/
def swallows (r k : Regex) : Bool :=
  match r.nameSets? with
  | some (s, u) => k.plain && !k.nullable none none && k.sets.all (spelt s u)
  | none => false
where
  spelt (s u : CharSet) : CharSet → Bool
    | .range lo hi => lo == hi && s.contains lo && u.contains lo
    | _ => false

theorem eq_of_nameSets? {r : Regex} {s u : CharSet} (h : r.nameSets? = some (s, u)) :
    r = seq (chars s) (rep (chars u) 0 none) := by
  unfold nameSets? at h
  split at h
  · cases h
    rfl
  · cases h

theorem contains_of_spelt {s u v : CharSet} {c : Char} (h : swallows.spelt s u v)
    (hc : v.contains c) : s.contains c ∧ u.contains c := by
  unfold swallows.spelt at h
  split at h
  · rename_i lo hi
    simp only [Bool.and_eq_true, beq_iff_eq] at h
    obtain ⟨⟨rfl, hs⟩, hu⟩ := h
    have hlo : lo = c := by simpa using (CharSet.contains_single lo c).symm.trans hc
    exact hlo ▸ ⟨hs, hu⟩
  · cases h

end Regex

namespace Residue

open Regex

variable {b : Option Char}

theorem run_rep_chars (u : CharSet) (word : List Char) :
    run b [rep (chars u) 0 none] word = word.all u.contains := by
  induction word generalizing b with
  | nil => rfl
  | cons c word ih =>
    rw [run, List.all_cons]
    cases hc : u.contains c with
    | true =>
      have hadv : advance b c [rep (chars u) 0 none] = [rep (chars u) 0 none] := by
        simp [advance, residuals, hc, followedBy, nullable, List.eraseDups_cons]
      rw [hadv, ih, Bool.true_and]
    | false =>
      have hadv : advance b c [rep (chars u) 0 none] = [] := by
        simp [advance, residuals, hc]
      rw [hadv, run_nil, Bool.false_and]

theorem run_name (s u : CharSet) (c : Char) (word : List Char) :
    run b [seq (chars s) (rep (chars u) 0 none)] (c :: word) =
      (s.contains c && word.all u.contains) := by
  rw [run]
  cases hc : s.contains c with
  | true =>
    have hadv : advance b c [seq (chars s) (rep (chars u) 0 none)] = [rep (chars u) 0 none] := by
      simp [advance, residuals, hc, followedBy, nullable, List.eraseDups_cons]
    rw [hadv, run_rep_chars, Bool.true_and]
  | false =>
    have hadv : advance b c [seq (chars s) (rep (chars u) 0 none)] = [] := by
      simp [advance, residuals, hc, nullable]
    rw [hadv, run_nil, Bool.false_and]

theorem run_of_swallows {r k : Regex} (h : r.swallows k) {word : List Char}
    (hk : run b [k] word) : run b [r] word := by
  unfold swallows at h
  split at h
  · rename_i s u hr
    simp only [Bool.and_eq_true, Bool.not_eq_true'] at h
    obtain ⟨⟨hplain, hnull⟩, hsets⟩ := h
    have hover : Over (fun v => swallows.spelt s u v) [k] := by
      intro q hq
      rw [List.mem_singleton.mp hq]
      exact over_of_plain hplain (List.all_eq_true.mp hsets)
    have hchars : ∀ c ∈ word, s.contains c ∧ u.contains c := by
      intro c hc
      obtain ⟨v, hv, hvc⟩ := hover.exists_contains_of_run hk hc
      exact contains_of_spelt hv hvc
    rw [eq_of_nameSets? hr]
    cases word with
    | nil =>
      have hkb : k.nullable b none = true := by simpa [run, accepts] using hk
      rw [nullable_congr (hover k (by simp)) b none none none, hnull] at hkb
      cases hkb
    | cons c word =>
      rw [run_name, Bool.and_eq_true, List.all_eq_true]
      exact ⟨(hchars c (by simp)).1, fun d hd => (hchars d (by simp [hd])).2⟩
  · cases h

def core (t : Residue) : Residue :=
  t.filter fun k => !t.any fun r => r.swallows k && !t.any (·.swallows r)

theorem run_core (t : Residue) (word : List Char) : t.core.run b word = t.run b word := by
  rw [run_eq_any, run_eq_any t, Bool.eq_iff_iff, List.any_eq_true, List.any_eq_true]
  constructor
  · rintro ⟨k, hk, hrun⟩
    exact ⟨k, (List.mem_filter.mp hk).1, hrun⟩
  · rintro ⟨k, hk, hrun⟩
    by_cases hcore : k ∈ t.core
    · exact ⟨k, hcore, hrun⟩
    · -- What swallows `k` is not swallowed itself, so it stays.
      have hany : (t.any fun r => r.swallows k && !t.any (·.swallows r)) = true := by
        simpa only [core, List.mem_filter, hk, true_and, Bool.not_eq_true', Bool.not_eq_false]
          using hcore
      obtain ⟨r, hr, hsw⟩ := List.any_eq_true.mp hany
      simp only [Bool.and_eq_true, Bool.not_eq_true'] at hsw
      refine ⟨r, List.mem_filter.mpr ⟨hr, ?_⟩, run_of_swallows hsw.1 hrun⟩
      rw [Bool.not_eq_true', ← Bool.not_eq_true, List.any_eq_true]
      rintro ⟨q, hq, hqr⟩
      have hnone := List.any_eq_false.mp hsw.2 q hq
      simp only [Bool.and_eq_true] at hqr
      exact hnone hqr.1

end Residue

end Lexicon
