import Lexicon.Proofs.Stage.Merge
import Lexicon.Proofs.Stage.Splice

/-!
Splicing up to merging. Where the literals are merged afterwards, it does not show whether a special
token has joined the literal before it, the one behind it or none: all that counts is that it has
become literal.
-/

namespace Lexicon

namespace Merge

def cons (category : String) (t : Token) : List Token → List Token
  | [] => [t]
  | u :: rest =>
    if t.category = category ∧ u.category = category then
      { t with text := t.text ++ u.text } :: rest
    else t :: u :: rest

variable {category : String} {t u : Token} {tokens others : List Token}

theorem cons_cons (ht : t.category = category) (hu : u.category = category) (tokens : List Token) :
    cons category t (cons category u tokens) =
      cons category { t with text := t.text ++ u.text } tokens := by
  cases tokens with
  | nil => simp [cons, ht, hu]
  | cons v tokens =>
    by_cases hv : v.category = category <;> simp [cons, ht, hu, hv, String.append_assoc]

theorem applyFrom_eq_cons (category : String) (t : Token) (tokens : List Token) :
    applyFrom category t tokens = cons category t (apply category tokens) := by
  induction tokens generalizing t with
  | nil => rfl
  | cons u tokens ih =>
    rw [applyFrom_cons, apply]
    by_cases h : t.category = category ∧ u.category = category
    · rw [if_pos h, ih, ih u, cons_cons h.1 h.2]
    · obtain ⟨q, rest, hq, hcategory⟩ := exists_applyFrom_eq_cons category u tokens
      rw [if_neg h, hq, cons, if_neg (by rwa [hcategory])]

theorem apply_cons_congr (h : apply category tokens = apply category others) (t : Token) :
    apply category (t :: tokens) = apply category (t :: others) := by
  rw [apply, apply, applyFrom_eq_cons, applyFrom_eq_cons, h]

theorem apply_cons_cons (ht : t.category = category) (hu : u.category = category)
    (tokens : List Token) : apply category (t :: u :: tokens) =
      apply category ({ t with text := t.text ++ u.text } :: tokens) := by
  rw [apply, apply, applyFrom_cons, if_pos ⟨ht, hu⟩]

end Merge

namespace Splice

def relabelled (s : Splice) (previous : Option Token) (t : Token) : Token :=
  if s.special previous t then { t with category := s.literal } else t

def relabelFrom (s : Splice) (previous : Option Token) : List Token → List Token
  | [] => []
  | t :: rest => s.relabelled previous t :: s.relabelFrom (some (s.relabelled previous t)) rest

def relabel (s : Splice) (tokens : List Token) : List Token := s.relabelFrom none tokens

variable {s : Splice} {last : Option Token} {p q t : Token} {tokens result : List Token}

theorem text_relabelled (s : Splice) (last : Option Token) (t : Token) :
    (s.relabelled last t).text = t.text := by
  unfold relabelled
  split <;> rfl

theorem start_relabelled (s : Splice) (last : Option Token) (t : Token) :
    (s.relabelled last t).start = t.start := by
  unfold relabelled
  split <;> rfl

theorem relabelled_of_special (h : s.special last t) :
    s.relabelled last t = { t with category := s.literal } := if_pos h

theorem relabelled_of_not_special (h : s.special last t = false) : s.relabelled last t = t :=
  if_neg (by simp [h])

theorem relabelled_literal (last : Option Token) (h : t.category = s.literal) :
    s.relabelled last t = t := by
  unfold relabelled
  split
  · rw [← h]
  · rfl

theorem special_congr (h : p.category = q.category) (t : Token) :
    s.special (some p) t = s.special (some q) t := by
  simp [special, h]

theorem relabelFrom_congr (h : p.category = q.category) (tokens : List Token) :
    s.relabelFrom (some p) tokens = s.relabelFrom (some q) tokens := by
  cases tokens with
  | nil => rfl
  | cons t tokens => simp only [relabelFrom, relabelled, special_congr h]

theorem map_text_relabelFrom (s : Splice) (last : Option Token) (tokens : List Token) :
    (s.relabelFrom last tokens).map Token.text = tokens.map Token.text := by
  induction tokens generalizing last with
  | nil => rfl
  | cons t tokens ih => simp [relabelFrom, text_relabelled, ih]

theorem map_start_relabelFrom (s : Splice) (last : Option Token) (tokens : List Token) :
    (s.relabelFrom last tokens).map Token.start = tokens.map Token.start := by
  induction tokens generalizing last with
  | nil => rfl
  | cons t tokens ih => simp [relabelFrom, start_relabelled, ih]

theorem merge_append_congr {other : List Token}
    (h : Merge.apply s.literal result = Merge.apply s.literal other) (last : Option Token) :
    Merge.apply s.literal (last.toList ++ result) =
      Merge.apply s.literal (last.toList ++ other) := by
  cases last with
  | none => exact h
  | some p => exact Merge.apply_cons_congr h p

/-- Each rule of splicing leaves the latest token and the rest as relabelling does, up to
merging. -/
theorem Yields.merge_eq (h : Yields s last tokens result) :
    Merge.apply s.literal result =
      Merge.apply s.literal (last.toList ++ s.relabelFrom last tokens) := by
  induction h with
  | done => simp [relabelFrom]
  | keep hns _ ih =>
    rw [relabelFrom, relabelled_of_not_special hns]
    exact merge_append_congr ih _
  | @append p t rest result hsp hp _ ih =>
    rw [ih, relabelFrom, relabelled_of_special hsp]
    have hrest : s.relabelFrom (some { p with text := p.text ++ t.text }) rest =
        s.relabelFrom (some { t with category := s.literal }) rest := relabelFrom_congr hp rest
    rw [hrest]
    exact (Merge.apply_cons_cons (u := { t with category := s.literal }) hp rfl _).symm
  | @prepend last t n rest result hsp _ hn _ ih =>
    -- The token behind is consumed unseen, but it is literal and stays so in either case.
    rw [relabelFrom, relabelled_of_special hsp, relabelFrom, relabelled_literal _ hn]
    apply merge_append_congr
    have hrest : s.relabelFrom (some { n with text := t.text ++ n.text, start := t.start }) rest =
        s.relabelFrom (some n) rest := by
      apply relabelFrom_congr
      rfl
    rw [ih, hrest, Merge.apply_cons_cons (t := { t with category := s.literal }) rfl hn, hn]
    rfl
  | become hsp _ _ _ ih =>
    rw [relabelFrom, relabelled_of_special hsp]
    exact merge_append_congr ih _

/-- Relabelling keeps the number of tokens, their texts and their starts, and once the literals are
merged splicing is the same as relabelling. -/
theorem merge_apply_eq_merge_relabel (s : Splice) (tokens : List Token) :
    (s.relabel tokens).map Token.text = tokens.map Token.text ∧
    (s.relabel tokens).map Token.start = tokens.map Token.start ∧
    Merge.apply s.literal (s.apply tokens) = Merge.apply s.literal (s.relabel tokens) :=
  ⟨s.map_text_relabelFrom none tokens, s.map_start_relabelFrom none tokens,
    (s.yields_applyFrom none tokens).merge_eq⟩

end Splice

end Lexicon
