import Lexicon.Proofs.Stage.Splice

namespace Lexicon.Splice

def untouched (s : Splice) (t : Token) : Bool :=
  t.category ≠ s.literal ∧ t.category ∉ s.always ∧ t.category ∉ s.unlessLineStart

variable {s : Splice} {last : Option Token} {t : Token} {tokens result : List Token}

theorem untouched_of_literal (h : t.category = s.literal) : s.untouched t = false := by
  simp [untouched, h]

theorem untouched_of_special (h : s.special last t) : s.untouched t = false := by
  rcases folds_of_special h with hmem | hmem <;> simp [untouched, hmem]

theorem Yields.filter_untouched (h : Yields s last tokens result) :
    result.filter s.untouched = last.toList.filter s.untouched ++ tokens.filter s.untouched := by
  induction h with
  | done => simp
  | @keep last t rest result _ _ ih =>
    have hcons : (t :: rest).filter s.untouched =
        [t].filter s.untouched ++ rest.filter s.untouched := by
      rw [← List.filter_append, List.singleton_append]
    rw [List.filter_append, ih, hcons]
    rfl
  | @append p t rest result hsp hp _ ih =>
    have hjoined : s.untouched { p with text := p.text ++ t.text } = false :=
      untouched_of_literal hp
    simp [ih, hjoined, untouched_of_special hsp, untouched_of_literal hp]
  | @prepend last t n rest result hsp _ hn _ ih =>
    have hjoined : s.untouched { n with text := t.text ++ n.text, start := t.start } = false :=
      untouched_of_literal hn
    simp [ih, hjoined, untouched_of_special hsp, untouched_of_literal hn]
  | @become last t rest result hsp _ _ _ ih =>
    have hliteral : s.untouched { t with category := s.literal } = false :=
      untouched_of_literal rfl
    simp [ih, hliteral, untouched_of_special hsp]

theorem Yields.filter_sublist (h : Yields s last tokens result) :
    (result.filter (·.category ≠ s.literal)).Sublist
      (last.toList.filter (·.category ≠ s.literal) ++ tokens) := by
  induction h with
  | done => simp
  | @keep last t rest result _ _ ih =>
    rw [List.filter_append, ← List.singleton_append]
    exact (List.Sublist.refl _).append (ih.trans (List.filter_sublist.append_right rest))
  | @append p t rest result _ hp _ ih =>
    have hrest : (result.filter (·.category ≠ s.literal)).Sublist rest := by simpa [hp] using ih
    exact (hrest.cons t).trans (List.sublist_append_right _ _)
  | @prepend last t n rest result _ _ hn _ ih =>
    have hrest : (result.filter (·.category ≠ s.literal)).Sublist rest := by simpa [hn] using ih
    rw [List.filter_append]
    exact (List.Sublist.refl _).append ((hrest.cons n).cons t)
  | @become last t rest result _ _ _ _ ih =>
    have hrest : (result.filter (·.category ≠ s.literal)).Sublist rest := by simpa using ih
    rw [List.filter_append]
    exact (List.Sublist.refl _).append (hrest.cons t)

theorem not_special_of_stands (halways : t.category ∉ s.always) (h : ∀ p ∈ last, s.Stands p t) :
    s.special last t = false := by
  by_cases ht : t.category ∈ s.unlessLineStart
  · cases last with
    | none => simp [special, halways]
    | some p => simp [special, halways, h p rfl ht]
  · simp [special, halways, ht]

theorem applyFrom_cons_of_not_special (h : s.special last t = false) (tokens : List Token) :
    s.applyFrom last (t :: tokens) = last.toList ++ s.applyFrom (some t) tokens := by
  cases last <;> rw [applyFrom, if_neg (by simp [h])]

theorem applyFrom_eq_self (halways : ∀ t ∈ tokens, t.category ∉ s.always)
    (hstands : (last.toList ++ tokens).IsChain s.Stands) :
    s.applyFrom last tokens = last.toList ++ tokens := by
  induction tokens generalizing last with
  | nil => simp [applyFrom]
  | cons t tokens ih =>
    rw [List.forall_mem_cons] at halways
    have hbefore : ∀ p ∈ last, s.Stands p t := by
      rintro p ⟨⟩
      exact (List.isChain_cons_cons.mp hstands).1
    have hbehind : (t :: tokens).IsChain s.Stands := hstands.right_of_append
    have hself : s.applyFrom (some t) tokens = t :: tokens := ih halways.2 hbehind
    rw [applyFrom_cons_of_not_special (not_special_of_stands halways.1 hbefore), hself]

/-- Splicing leaves nothing special: no token that is always so, and one that is so inside of a line
only where a line starts. It adds to literals alone, all other tokens of the result are tokens of
the list, those that are untouched are all there, and splicing again changes nothing. -/
theorem apply_leaves_none_special (s : Splice) (halways : s.literal ∉ s.always)
    (hunless : s.literal ∉ s.unlessLineStart) (tokens : List Token) :
    (∀ t ∈ s.apply tokens, t.category ∉ s.always) ∧
    (s.apply tokens).IsChain s.Stands ∧
    ((s.apply tokens).filter (·.category ≠ s.literal)).Sublist tokens ∧
    (s.apply tokens).filter s.untouched = tokens.filter s.untouched ∧
    s.apply (s.apply tokens) = s.apply tokens := by
  have hyields := s.yields_applyFrom none tokens
  have hnone : ∀ t ∈ s.apply tokens, t.category ∉ s.always := not_mem_always_of_mem_apply halways
  have hstands := isChain_apply hunless tokens
  have hself : s.applyFrom none (s.apply tokens) = s.apply tokens :=
    applyFrom_eq_self hnone hstands
  exact ⟨hnone, hstands, hyields.filter_sublist, hyields.filter_untouched, hself⟩

def textual : Splice where
  literal := "text"
  always := ["escape"]
  unlessLineStart := ["title"]
  lineBreaks := ["newline"]

def heading : List Token :=
  [⟨"title", "#", 0⟩, ⟨"mark", "*", 1⟩, ⟨"escape", "\\#", 2⟩, ⟨"title", "##", 4⟩, ⟨"mark", "*", 6⟩,
    ⟨"newline", "\n", 7⟩, ⟨"title", "#", 8⟩]

theorem heading_none_special :
    textual.literal ∉ textual.always ∧ textual.literal ∉ textual.unlessLineStart ∧
    textual.apply heading =
      [⟨"title", "#", 0⟩, ⟨"mark", "*", 1⟩, ⟨"text", "\\###", 2⟩, ⟨"mark", "*", 6⟩,
        ⟨"newline", "\n", 7⟩, ⟨"title", "#", 8⟩] ∧
    (textual.apply heading).IsChain textual.Stands ∧
    (textual.apply heading).filter textual.untouched = heading.filter textual.untouched ∧
    textual.apply (textual.apply heading) = textual.apply heading := by
  obtain ⟨-, hstands, -, huntouched, htwice⟩ :=
    apply_leaves_none_special textual (by decide) (by decide) heading
  exact ⟨by decide, by decide, by cbv, hstands, huntouched, htwice⟩

end Lexicon.Splice
