import Lexicon.Proofs.Stage.Relabel

namespace Lexicon.Merge

/-- The second list is the first with one token for each maximal run of the category, which has the
texts of the run in a row and starts where the run does. -/
inductive Grouped (category : String) : List Token → List Token → Prop
  | nil : Grouped category [] []
  | other {t : Token} {tokens result : List Token} :
      t.category ≠ category → Grouped category tokens result →
      Grouped category (t :: tokens) (t :: result)
  | run {first : Token} {others tokens result : List Token} :
      (∀ t ∈ first :: others, t.category = category) →
      (∀ t ∈ tokens.head?, t.category ≠ category) →
      Grouped category tokens result →
      Grouped category (first :: others ++ tokens)
        (⟨category, String.join ((first :: others).map (·.text)), first.start⟩ :: result)

variable {category : String} {first last t : Token} {others tokens result : List Token}

theorem grouped_self
    (h : tokens.IsChain fun t u => ¬ (t.category = category ∧ u.category = category)) :
    Grouped category tokens tokens := by
  induction tokens with
  | nil => exact .nil
  | cons t tokens ih =>
    rw [List.isChain_cons] at h
    by_cases ht : t.category = category
    · have hstop : ∀ u ∈ tokens.head?, u.category ≠ category :=
        fun u hu hcategory => h.1 u hu ⟨ht, hcategory⟩
      have hrun : ∀ u ∈ [t], u.category = category := by simpa using ht
      simpa [← ht] using Grouped.run hrun hstop (ih h.2)
    · exact .other ht (ih h.2)

theorem Grouped.cons (h : Grouped category tokens result) (t : Token) :
    Grouped category (t :: tokens) (Merge.cons category t result) := by
  by_cases ht : t.category = category
  · obtain rfl := ht
    cases h with
    | nil => simpa [Merge.cons] using grouped_self (List.isChain_singleton t)
    | @other u tokens result hu htail =>
      have hrun : ∀ u ∈ [t], u.category = t.category := by simp
      have hstop : ∀ v ∈ (u :: tokens).head?, v.category ≠ t.category := by simpa using hu
      simpa [Merge.cons, hu] using Grouped.run hrun hstop (.other hu htail)
    | @run first others tokens result hrun hstop htail =>
      have hlonger : ∀ u ∈ t :: first :: others, u.category = t.category :=
        List.forall_mem_cons.mpr ⟨rfl, hrun⟩
      simpa [Merge.cons] using Grouped.run hlonger hstop htail
  · have hcons : Merge.cons category t result = t :: result := by
      cases result <;> simp [Merge.cons, ht]
    exact hcons ▸ .other ht h

theorem grouped_apply (category : String) (tokens : List Token) :
    Grouped category tokens (apply category tokens) := by
  induction tokens with
  | nil => exact .nil
  | cons t tokens ih =>
    rw [apply, applyFrom_eq_cons]
    exact ih.cons t

theorem applyFrom_append (hlast : last.category = category)
    (hothers : ∀ t ∈ others, t.category = category) (tokens : List Token) :
    applyFrom category last (others ++ tokens) =
      applyFrom category { last with text := last.text ++ String.join (others.map (·.text)) }
        tokens := by
  induction others generalizing last with
  | nil => simp
  | cons t others ih =>
    rw [List.forall_mem_cons] at hothers
    have hjoined : { last with text := last.text ++ t.text }.category = category := hlast
    rw [List.cons_append, applyFrom_cons, if_pos ⟨hlast, hothers.1⟩, ih hjoined hothers.2]
    simp [String.append_assoc]

theorem applyFrom_of_stop (hstop : ∀ t ∈ tokens.head?, t.category ≠ category) :
    applyFrom category last tokens = last :: apply category tokens := by
  cases tokens with
  | nil => rfl
  | cons t tokens =>
    have ht : t.category ≠ category := hstop t rfl
    rw [applyFrom_cons, if_neg fun h => ht h.2, apply]

theorem Grouped.eq_apply (h : Grouped category tokens result) :
    apply category tokens = result := by
  induction h with
  | nil => rfl
  | @other t tokens result ht _ ih =>
    rw [apply, applyFrom_eq_cons, ih]
    cases result <;> simp [Merge.cons, ht]
  | @run first others tokens result hrun hstop _ ih =>
    rw [List.forall_mem_cons] at hrun
    rw [List.cons_append, apply, applyFrom_append hrun.1 hrun.2, applyFrom_of_stop hstop, ih]
    simp [hrun.1]

/-- Merging is grouping into maximal runs: it gives the list with one token for each run, and no
other. So no two neighbours of the category are left, and merging again changes nothing. -/
theorem apply_groups_runs (category : String) (tokens : List Token) :
    (∀ result, apply category tokens = result ↔ Grouped category tokens result) ∧
    ((apply category tokens).IsChain fun t u =>
      ¬ (t.category = category ∧ u.category = category)) ∧
    apply category (apply category tokens) = apply category tokens := by
  have hiff : ∀ result, apply category tokens = result ↔ Grouped category tokens result := by
    intro result
    constructor
    · rintro rfl
      exact grouped_apply category tokens
    · exact Grouped.eq_apply
  have hapart := isChain_apply_ne category tokens
  exact ⟨hiff, hapart, (grouped_self hapart).eq_apply⟩

example : apply "a" [⟨"a", "x", 0⟩, ⟨"b", "-", 1⟩, ⟨"a", "y", 2⟩, ⟨"a", "", 3⟩, ⟨"a", "z", 7⟩] =
    [⟨"a", "x", 0⟩, ⟨"b", "-", 1⟩, ⟨"a", "yz", 2⟩] := by
  decide +kernel

end Lexicon.Merge
