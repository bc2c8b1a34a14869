import Mathlib.Data.List.Chain
import Lexicon.Stage.Splice

namespace Lexicon.Merge

variable {category : String} {last : Token} {tokens : List Token}

theorem applyFrom_cons (t : Token) :
    applyFrom category last (t :: tokens) =
      if last.category = category ∧ t.category = category then
        applyFrom category { last with text := last.text ++ t.text } tokens
      else last :: applyFrom category t tokens := by
  simp [applyFrom, Token.is]

theorem exists_applyFrom_eq_cons (category : String) (last : Token) (tokens : List Token) :
    ∃ q rest, applyFrom category last tokens = q :: rest ∧ q.category = last.category := by
  induction tokens generalizing last with
  | nil => exact ⟨last, [], rfl, rfl⟩
  | cons t tokens ih =>
    rw [applyFrom_cons]
    split
    · exact ih { last with text := last.text ++ t.text }
    · exact ⟨last, _, rfl, rfl⟩

theorem forall_mem_applyFrom {P : Token → Prop}
    (hjoin : ∀ t u, P t → P u → t.category = category → u.category = category →
      P { t with text := t.text ++ u.text })
    (hlast : P last) (h : ∀ t ∈ tokens, P t) : ∀ t ∈ applyFrom category last tokens, P t := by
  induction tokens generalizing last with
  | nil => simpa [applyFrom] using hlast
  | cons t tokens ih =>
    simp only [List.forall_mem_cons] at h
    rw [applyFrom_cons]
    split
    · rename_i hc
      exact ih (hjoin last t hlast h.1 hc.1 hc.2) h.2
    · exact List.forall_mem_cons.mpr ⟨hlast, ih h.1 h.2⟩

theorem forall_mem_apply {P : Token → Prop}
    (hjoin : ∀ t u, P t → P u → t.category = category → u.category = category →
      P { t with text := t.text ++ u.text })
    (h : ∀ t ∈ tokens, P t) : ∀ t ∈ apply category tokens, P t := by
  cases tokens with
  | nil => exact h
  | cons t tokens =>
    simp only [List.forall_mem_cons] at h
    exact forall_mem_applyFrom hjoin h.1 h.2

section

variable {R : String → String → Prop}

theorem isChain_applyFrom
    (h : (last :: tokens).IsChain fun t u =>
      ¬ (t.category = category ∧ u.category = category) → R t.category u.category) :
    (applyFrom category last tokens).IsChain fun t u => R t.category u.category := by
  induction tokens generalizing last with
  | nil => simp [applyFrom]
  | cons t tokens ih =>
    rw [List.isChain_cons_cons] at h
    rw [applyFrom_cons]
    split
    · rename_i hc
      apply ih
      have hcategory : last.category = t.category := hc.1.trans hc.2.symm
      simpa only [List.isChain_cons, hcategory] using h.2
    · rename_i hc
      obtain ⟨q, rest, hq, hcategory⟩ := exists_applyFrom_eq_cons category t tokens
      have htail := ih h.2
      rw [hq] at htail ⊢
      exact List.isChain_cons_cons.mpr ⟨hcategory ▸ h.1 hc, htail⟩

theorem isChain_apply
    (h : tokens.IsChain fun t u =>
      ¬ (t.category = category ∧ u.category = category) → R t.category u.category) :
    (apply category tokens).IsChain fun t u => R t.category u.category := by
  cases tokens with
  | nil => simp [apply]
  | cons t tokens => exact isChain_applyFrom h

end

theorem isChain_apply_ne (category : String) (tokens : List Token) :
    (apply category tokens).IsChain fun t u =>
      ¬ (t.category = category ∧ u.category = category) :=
  isChain_apply (R := fun a b => ¬ (a = category ∧ b = category))
    (List.pairwise_of_forall fun _ _ => id).isChain

end Lexicon.Merge
