import Mathlib.Data.List.Chain
import Lexicon.Stage.Splice

namespace Lexicon.Splice

def Folds (s : Splice) (category : String) : Prop :=
  category ∈ s.always ∨ category ∈ s.unlessLineStart

inductive Yields (s : Splice) : Option Token → List Token → List Token → Prop
  | done {last : Option Token} : Yields s last [] last.toList
  | keep {last : Option Token} {t : Token} {rest result : List Token} :
      s.special last t = false → Yields s (some t) rest result →
      Yields s last (t :: rest) (last.toList ++ result)
  | append {p t : Token} {rest result : List Token} :
      s.special (some p) t → p.category = s.literal →
      Yields s (some { p with text := p.text ++ t.text }) rest result →
      Yields s (some p) (t :: rest) result
  | prepend {last : Option Token} {t n : Token} {rest result : List Token} :
      s.special last t → (∀ p ∈ last, p.category ≠ s.literal) → n.category = s.literal →
      Yields s (some { n with text := t.text ++ n.text, start := t.start }) rest result →
      Yields s last (t :: n :: rest) (last.toList ++ result)
  | become {last : Option Token} {t : Token} {rest result : List Token} :
      s.special last t → (∀ p ∈ last, p.category ≠ s.literal) →
      (∀ n ∈ rest.head?, n.category ≠ s.literal) →
      Yields s (some { t with category := s.literal }) rest result →
      Yields s last (t :: rest) (last.toList ++ result)

theorem yields_applyFrom (s : Splice) (last : Option Token) (tokens : List Token) :
    Yields s last tokens (s.applyFrom last tokens) := by
  refine applyFrom.induct s
    (fun t tokens => ∀ last, s.special last t → (∀ p ∈ last, p.category ≠ s.literal) →
      Yields s last (t :: tokens) (last.toList ++ applyFrom.onward s t tokens))
    (fun last tokens => Yields s last tokens (s.applyFrom last tokens))
    ?_ ?_ ?_ ?_ ?_ ?_ ?_ ?_ last tokens
  · intro t last hs hp
    rw [applyFrom.onward]
    exact .become hs hp (by simp) .done
  · intro t n tokens hn ih last hs hp
    rw [applyFrom.onward, if_pos hn]
    exact .prepend hs hp (by simpa [Token.is] using hn) ih
  · intro t n tokens hn ih last hs hp
    rw [applyFrom.onward, if_neg hn]
    exact .become hs hp (by simpa [Token.is] using hn) ih
  · intro last
    rw [applyFrom]
    exact .done
  · intro t tokens p hp hs ih
    rw [applyFrom, if_pos hs]
    simp only [if_pos hp]
    exact .append hs (by simpa [Token.is] using hp) ih
  · intro t tokens p hp hs ih
    rw [applyFrom, if_pos hs]
    simp only [if_neg hp]
    exact ih (some p) hs (by simpa [Token.is] using hp)
  · intro t tokens hs ih
    rw [applyFrom, if_pos hs]
    exact ih none hs (by simp)
  · intro last t tokens hs ih
    cases last with
    | none =>
      rw [applyFrom, if_neg hs]
      exact .keep (by simpa using hs) ih
    | some p =>
      rw [applyFrom, if_neg hs]
      exact .keep (by simpa using hs) ih

variable {s : Splice} {last : Option Token} {t : Token} {tokens result : List Token}

theorem folds_of_special (h : s.special last t) : s.Folds t.category := by
  simp only [special, Bool.or_eq_true, Bool.and_eq_true, decide_eq_true_eq] at h
  exact h.imp id And.left

theorem not_mem_always_of_not_special (h : s.special last t = false) : t.category ∉ s.always := by
  simp only [special, Bool.or_eq_false_iff, decide_eq_false_iff_not] at h
  exact h.1

theorem mem_lineBreaks_of_not_special {p : Token} (h : s.special (some p) t = false)
    (ht : t.category ∈ s.unlessLineStart) : p.category ∈ s.lineBreaks := by
  simpa [special, not_mem_always_of_not_special h, ht] using h

structure Turns (s : Splice) (Q P : Token → Prop) : Prop where
  keep : ∀ t, Q t → t.category ∉ s.always → P t
  append : ∀ p t, P p → p.category = s.literal → Q t → s.Folds t.category →
    P { p with text := p.text ++ t.text }
  prepend : ∀ t n, Q t → s.Folds t.category → Q n → n.category = s.literal →
    P { n with text := t.text ++ n.text, start := t.start }
  become : ∀ t, Q t → s.Folds t.category → P { t with category := s.literal }

theorem Yields.forall_mem {P Q : Token → Prop} (h : Yields s last tokens result)
    (hs : s.Turns Q P) (hlast : ∀ p ∈ last, P p) (htokens : ∀ t ∈ tokens, Q t) :
    ∀ t ∈ result, P t := by
  have front : ∀ {last : Option Token} {result : List Token}, (∀ p ∈ last, P p) →
      (∀ t ∈ result, P t) → ∀ t ∈ last.toList ++ result, P t := by
    intro last result hl hr t ht
    rcases List.mem_append.mp ht with ht | ht
    · exact hl t (Option.mem_toList.mp ht)
    · exact hr t ht
  induction h with
  | done => simpa using hlast
  | keep hns _ ih =>
    simp only [List.forall_mem_cons] at htokens
    apply front hlast
    apply ih ?_ htokens.2
    rintro _ ⟨⟩
    exact hs.keep _ htokens.1 (not_mem_always_of_not_special hns)
  | append hsp hp _ ih =>
    simp only [List.forall_mem_cons] at htokens
    apply ih ?_ htokens.2
    rintro _ ⟨⟩
    exact hs.append _ _ (hlast _ rfl) hp htokens.1 (folds_of_special hsp)
  | prepend hsp _ hn _ ih =>
    simp only [List.forall_mem_cons] at htokens
    apply front hlast
    apply ih ?_ htokens.2.2
    rintro _ ⟨⟩
    exact hs.prepend _ _ htokens.1 (folds_of_special hsp) htokens.2.1 hn
  | become hsp _ _ _ ih =>
    simp only [List.forall_mem_cons] at htokens
    apply front hlast
    apply ih ?_ htokens.2
    rintro _ ⟨⟩
    exact hs.become _ htokens.1 (folds_of_special hsp)

theorem forall_mem_apply {P Q : Token → Prop} (hs : s.Turns Q P) (h : ∀ t ∈ tokens, Q t) :
    ∀ t ∈ s.apply tokens, P t :=
  (s.yields_applyFrom none tokens).forall_mem hs (by simp) h

theorem not_mem_always_of_mem_apply (hl : s.literal ∉ s.always) :
    ∀ t ∈ s.apply tokens, t.category ∉ s.always := by
  have hturns : s.Turns (fun _ => True) (·.category ∉ s.always) := by
    refine ⟨fun t _ ht => ht, fun p t hp _ _ _ => hp, ?_, fun t _ _ => hl⟩
    intro t n _ _ _ hn
    simpa [hn] using hl
  exact forall_mem_apply hturns (by simp)

theorem Yields.head_category {p : Token} (h : Yields s (some p) tokens result) :
    ∃ q rest, result = q :: rest ∧ q.category = p.category := by
  generalize hp : some p = last at h
  induction h generalizing p with
  | done => exact ⟨p, [], by rw [← hp]; rfl, rfl⟩
  | append _ _ _ ih =>
    cases hp
    obtain ⟨q, rest, hresult, hq⟩ := ih rfl
    exact ⟨q, rest, hresult, hq⟩
  | keep => exact ⟨p, _, by rw [← hp]; rfl, rfl⟩
  | prepend => exact ⟨p, _, by rw [← hp]; rfl, rfl⟩
  | become => exact ⟨p, _, by rw [← hp]; rfl, rfl⟩

/-- If `t` is special inside of a line, then `p` breaks the line before it. -/
def Stands (s : Splice) (p t : Token) : Prop :=
  t.category ∈ s.unlessLineStart → p.category ∈ s.lineBreaks

theorem Yields.isChain_append {p : Option Token} (h : Yields s (some t) tokens result)
    (ht : ∀ q ∈ p, s.Stands q t) (hr : result.IsChain s.Stands) :
    (p.toList ++ result).IsChain s.Stands := by
  obtain ⟨q, rest, rfl, hq⟩ := h.head_category
  cases p with
  | none => exact hr
  | some p =>
    refine List.isChain_cons_cons.mpr ⟨?_, hr⟩
    simpa only [Stands, hq] using ht p rfl

theorem Yields.isChain (h : Yields s last tokens result) (hl : s.literal ∉ s.unlessLineStart) :
    result.IsChain s.Stands := by
  induction h with
  | done =>
    rename_i last
    cases last <;> simp
  | keep hns hy ih =>
    apply hy.isChain_append ?_ ih
    rintro p ⟨⟩
    exact mem_lineBreaks_of_not_special hns
  | append _ _ _ ih => exact ih
  | prepend _ _ hn hy ih =>
    apply hy.isChain_append ?_ ih
    exact fun _ _ hmem => absurd (hn ▸ hmem) hl
  | become _ _ _ hy ih =>
    apply hy.isChain_append ?_ ih
    exact fun _ _ hmem => absurd hmem hl

theorem isChain_apply (hl : s.literal ∉ s.unlessLineStart) (tokens : List Token) :
    (s.apply tokens).IsChain s.Stands :=
  (s.yields_applyFrom none tokens).isChain hl

end Lexicon.Splice
