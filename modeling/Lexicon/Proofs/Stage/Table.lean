import Mathlib.Data.List.Chain
import Mathlib.Data.List.Forall2
import Mathlib.Logic.Relation
import Lexicon.Stage.Table

namespace Lexicon.Table

open Relation

inductive Retags (n : Table) : Token → Token → Prop
  | rowStart {t : Token} : t.category = n.delimiter → Retags n t { t with category := n.lineStart }
  | rowEnd {t : Token} : t.category = n.delimiter → Retags n t { t with category := n.lineEnd }
  | newline {t : Token} : t.category = n.paragraph → Retags n t { t with category := n.newline }
  | header {t : Token} :
      t.category = n.lineStart → Retags n t { t with category := n.headerLineStart }

abbrev Retagged (n : Table) : Token → Token → Prop := ReflTransGen n.Retags

def written (n : Table) : List String := [n.lineStart, n.lineEnd, n.newline, n.headerLineStart]

variable {n : Table} {t u : Token} {rowOpen : Bool} {done tokens result source : List Token}

theorem Retagged.category (h : n.Retagged t u) :
    u.category = t.category ∨ u.category ∈ n.written := by
  cases h with
  | refl => exact .inl rfl
  | tail _ hstep => cases hstep <;> exact .inr (by simp [written])

theorem retagged_mark (n : Table) (rowOpen : Bool) (t : Token) (next : Option Token) :
    n.Retagged t (n.mark rowOpen t next).1 := by
  unfold mark
  split
  · rename_i hd
    have hd : t.category = n.delimiter := by simpa [Token.is] using hd
    split
    · exact .single (.rowStart hd)
    · split
      · exact .single (.rowEnd hd)
      · exact .refl
  · exact .refl

theorem retagged_normalise (n : Table) (previous : Option Token) (t : Token)
    (next : Option Token) : n.Retagged t (n.normalise previous t next) := by
  unfold normalise
  split
  · rename_i hp
    simp only [Token.is, Bool.and_eq_true, beq_iff_eq] at hp
    exact .single (.newline hp.1)
  · exact .refl

theorem forall₂_promote {nearest : Bool} (hd : List.Forall₂ n.Retagged source done)
    (h : n.promote nearest done = some result) : List.Forall₂ n.Retagged source result := by
  induction hd generalizing nearest result with
  | nil => simp [promote] at h
  | cons ht htail ih =>
    rw [promote] at h
    split at h
    · rename_i hs
      cases h
      exact .cons (ht.tail (.header (by simpa [Token.is] using hs))) htail
    · split at h
      · cases h
      · obtain ⟨above, habove, rfl⟩ := Option.map_eq_some_iff.mp h
        exact .cons ht (ih habove)

theorem forall₂_applyFrom (hd : List.Forall₂ n.Retagged source done)
    (h : n.applyFrom done rowOpen tokens = .ok result) :
    List.Forall₂ n.Retagged (source.reverse ++ tokens) result := by
  induction tokens generalizing done rowOpen source with
  | nil =>
    cases h
    simpa using List.rel_reverse hd
  | cons t tokens ih =>
    have ht : n.Retagged t (n.normalise done.head? (n.mark rowOpen t tokens.head?).1 tokens.head?) :=
      (n.retagged_mark rowOpen t _).trans (n.retagged_normalise _ _ _)
    have htail : (t :: source).reverse ++ tokens = source.reverse ++ t :: tokens := by simp
    rw [← htail]
    simp only [applyFrom] at h
    split at h
    · split at h
      · rename_i done' hp
        exact ih (.cons ht (forall₂_promote hd hp)) h
      · cases h
    · exact ih (.cons ht hd) h

theorem forall₂_apply (h : n.apply tokens = .ok result) :
    List.Forall₂ n.Retagged tokens result := by
  simpa using forall₂_applyFrom List.Forall₂.nil h

theorem exists_retagged_of_mem (h : List.Forall₂ n.Retagged tokens result) (hu : u ∈ result) :
    ∃ t ∈ tokens, n.Retagged t u := by
  induction h with
  | nil => cases hu
  | cons hr _ ih =>
    cases hu with
    | head => exact ⟨_, List.mem_cons_self, hr⟩
    | tail _ hu =>
      obtain ⟨t, ht, htu⟩ := ih hu
      exact ⟨t, List.mem_cons_of_mem _ ht, htu⟩

theorem isChain_of_forall₂ {R : Token → Token → Prop}
    (hR : ∀ t t' u u', n.Retagged t t' → n.Retagged u u' → R t u → R t' u')
    (h : List.Forall₂ n.Retagged tokens result) (hc : tokens.IsChain R) : result.IsChain R := by
  induction h with
  | nil => simp
  | cons ht htail ih =>
    cases htail with
    | nil => simp
    | cons hu htail =>
      rw [List.isChain_cons_cons] at hc ⊢
      exact ⟨hR _ _ _ _ ht hu hc.1, ih hc.2⟩

theorem exists_orphanHeader_of_applyFrom {r : Refusal}
    (h : n.applyFrom done rowOpen tokens = .error r) : ∃ offset, r = .orphanHeader offset := by
  induction tokens generalizing done rowOpen with
  | nil => cases h
  | cons t tokens ih =>
    simp only [applyFrom] at h
    split at h
    · split at h
      · exact ih h
      · cases h
        exact ⟨_, rfl⟩
    · exact ih h

structure Outside (n : Table) (t : Token) : Prop where
  delimiter : t.category ≠ n.delimiter
  lineStart : t.category ≠ n.lineStart
  lineEnd : t.category ≠ n.lineEnd

theorem promote_eq_none {nearest : Bool} (h : ∀ t ∈ done, n.Outside t) :
    n.promote nearest done = none := by
  induction done generalizing nearest with
  | nil => rfl
  | cons t done ih =>
    simp only [List.forall_mem_cons] at h
    simp [promote, Token.is, h.1.lineStart, ih h.2]

theorem eq_of_applyFrom_eq_ok (hd : ∀ t ∈ done, n.Outside t) (ht : ∀ t ∈ tokens, n.Outside t)
    (h : n.applyFrom done rowOpen tokens = .ok result) : result = done.reverse ++ tokens := by
  induction tokens generalizing done rowOpen with
  | nil =>
    cases h
    simp
  | cons t tokens ih =>
    simp only [List.forall_mem_cons] at ht
    have hmark : (n.mark rowOpen t tokens.head?).1 = t := by
      simp [mark, Token.is, ht.1.delimiter]
    have hnormal : n.normalise done.head? t tokens.head? = t := by
      have hprevious : done.head?.any (·.is n.lineEnd) = false := by
        cases done with
        | nil => rfl
        | cons p done => simpa [Token.is] using (hd p (by simp)).lineEnd
      have hnext : tokens.head?.any (·.is n.delimiter) = false := by
        cases tokens with
        | nil => rfl
        | cons u tokens => simpa [Token.is] using (ht.2 u (by simp)).delimiter
      simp [normalise, hprevious, hnext]
    have hdone : ∀ u ∈ t :: done, n.Outside u := List.forall_mem_cons.mpr ⟨ht.1, hd⟩
    simp only [applyFrom, hmark, hnormal, promote_eq_none hd] at h
    split at h
    · cases h
    · simpa using ih hdone ht.2 h

theorem exists_separator_of_applyFrom {r : Refusal}
    (h : n.applyFrom done rowOpen tokens = .error r) :
    ∃ t ∈ tokens, t.category = n.headerSeparator := by
  induction tokens generalizing done rowOpen with
  | nil => cases h
  | cons t tokens ih =>
    have hmore : (∃ u ∈ tokens, u.category = n.headerSeparator) →
        ∃ u ∈ t :: tokens, u.category = n.headerSeparator := by
      rintro ⟨u, hu, hcategory⟩
      exact ⟨u, List.mem_cons_of_mem t hu, hcategory⟩
    simp only [applyFrom] at h
    split at h
    · rename_i hheads
      obtain ⟨u, hu, hcategory⟩ : ∃ u, tokens.head? = some u ∧ u.category = n.headerSeparator := by
        simpa [Token.is, Option.any_eq_true] using (Bool.and_eq_true_iff.mp hheads).2
      exact hmore ⟨u, List.mem_of_head? hu, hcategory⟩
    · exact hmore (ih h)

theorem apply_eq_self (h : ∀ t ∈ tokens, n.Outside t)
    (hs : ∀ t ∈ tokens, t.category ≠ n.headerSeparator) : n.apply tokens = .ok tokens := by
  cases happly : n.apply tokens with
  | error r =>
    obtain ⟨t, ht, hcategory⟩ := exists_separator_of_applyFrom happly
    exact absurd hcategory (hs t ht)
  | ok result =>
    have hresult := eq_of_applyFrom_eq_ok (by simp) h happly
    rw [hresult]
    rfl

end Lexicon.Table
