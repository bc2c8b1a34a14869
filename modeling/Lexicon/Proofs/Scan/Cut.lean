import Lexicon.Scan

/-!
Where a text is cut, told from the lengths at which it matches alone.

A cut stands behind a match that is lost for two characters. Every match has a cut at or behind it,
and the first cut is the longest match exactly when no match comes back behind such a loss.
-/

namespace Lexicon

structure Cut (M : Nat → Prop) (n : Nat) : Prop where
  pos : 0 < n
  hit : M n
  miss : ¬ M (n + 1)
  missAgain : ¬ M (n + 2)

structure FirstCut (M : Nat → Prop) (n : Nat) : Prop extends Cut M n where
  least : ∀ k, Cut M k → n ≤ k

/-- A match that comes back after it was lost for two characters or more. -/
def Gap (M : Nat → Prop) : Prop :=
  ∃ i k j, 0 < i ∧ i < k ∧ k + 1 < j ∧ M i ∧ ¬ M k ∧ ¬ M (k + 1) ∧ M j

section

variable {M : Nat → Prop} {i k n : Nat}

theorem exists_cut_between (hi : 0 < i) (hM : M i) (hik : i < k) (hk : ¬ M k)
    (hk' : ¬ M (k + 1)) : ∃ n, Cut M n ∧ i ≤ n ∧ n < k := by
  induction k with
  | zero => omega
  | succ k ih =>
    by_cases h : M k
    · exact ⟨k, ⟨by omega, h, hk, hk'⟩, by omega, by omega⟩
    · have hne : i ≠ k := by rintro rfl; exact h hM
      obtain ⟨n, hn, hin, hnk⟩ := ih (by omega) h hk
      exact ⟨n, hn, hin, by omega⟩

theorem exists_cut {bound : Nat} (hb : ∀ n, M n → n ≤ bound) (hi : 0 < i) (hM : M i) :
    ∃ n, Cut M n := by
  have miss : ∀ k, bound < k → ¬ M k := fun k hk h => absurd (hb k h) (by omega)
  obtain ⟨n, hn, -⟩ :=
    exists_cut_between (k := bound + 1) hi hM (Nat.lt_succ_of_le (hb i hM)) (miss _ (by omega))
      (miss _ (by omega))
  exact ⟨n, hn⟩

theorem Cut.congr {N : Nat → Prop} (h : Cut M n)
    (hMN : ∀ i, 0 < i → i ≤ n + 2 → (M i ↔ N i)) : Cut N n where
  pos := h.pos
  hit := (hMN n h.pos (by omega)).mp h.hit
  miss := mt (hMN (n + 1) (by omega) (by omega)).mpr h.miss
  missAgain := mt (hMN (n + 2) (by omega) (by omega)).mpr h.missAgain

theorem FirstCut.congr {N : Nat → Prop} (h : FirstCut M n)
    (hMN : ∀ i, 0 < i → i ≤ n + 2 → (M i ↔ N i)) : FirstCut N n where
  toCut := h.toCut.congr hMN
  least k hk := by
    apply Nat.le_of_not_lt
    intro hlt
    have hcut : Cut M k := hk.congr fun i hi hik => (hMN i hi (by omega)).symm
    exact absurd (h.least k hcut) (by omega)

theorem FirstCut.unique (hn : FirstCut M n) (hk : FirstCut M k) : n = k :=
  Nat.le_antisymm (hn.least k hk.toCut) (hk.least n hn.toCut)

theorem FirstCut.longest_iff (h : FirstCut M n) : (∀ j, M j → j ≤ n) ↔ ¬ Gap M := by
  constructor
  · rintro hl ⟨i, k, j, hi, hik, hkj, hMi, hk, hk', hMj⟩
    obtain ⟨c, hc, -, hck⟩ := exists_cut_between hi hMi hik hk hk'
    have hnc := h.least c hc
    have hjn := hl j hMj
    omega
  · intro hg j hj
    by_cases hjn : j ≤ n
    · exact hjn
    · have h1 : j ≠ n + 1 := by rintro rfl; exact h.miss hj
      have h2 : j ≠ n + 2 := by rintro rfl; exact h.missAgain hj
      exact absurd
        ⟨n, n + 1, j, h.pos, by omega, by omega, h.hit, h.miss, h.missAgain, hj⟩ hg

end

end Lexicon
