import Lexicon.Proofs.Html

namespace Lexicon.Html

def cutAt (mark : Char) (cs : List Char) : Option (List Char × List Char) :=
  match cs.dropWhile (· ≠ mark) with
  | [] => none
  | _ :: rest => some (cs.takeWhile (· ≠ mark), rest)

def span? (cs : List Char) : Option ((String × String) × List Char) := do
  let (_, cs) ← cutAt '<' cs
  let (_, cs) ← cutAt '"' cs
  let (category, cs) ← cutAt '"' cs
  let (_, cs) ← cutAt '>' cs
  let (text, cs) ← cutAt '<' cs
  let (_, cs) ← cutAt '>' cs
  return ((.ofList category, .ofList (unescape text)), cs)

variable {mark : Char} {s cs rest : List Char} {t : Token} {tokens : List Token}

theorem cutAt_append (h : mark ∉ s) : cutAt mark (s ++ mark :: rest) = some (s, rest) := by
  have hs : ∀ c ∈ s, (c ≠ mark : Bool) := by
    intro c hc
    simpa using ne_of_mem_of_not_mem hc h
  rw [cutAt, List.dropWhile_append_of_pos hs, List.takeWhile_append_of_pos hs]
  simp

theorem length_lt_of_cutAt (h : cutAt mark cs = some (s, rest)) : rest.length < cs.length := by
  unfold cutAt at h
  split at h
  · cases h
  · rename_i c behind hdrop
    cases h
    have hle := (List.dropWhile_sublist (· ≠ mark) (l := cs)).length_le
    rw [hdrop, List.length_cons] at hle
    exact hle

theorem length_lt_of_span? {e : String × String} (h : span? cs = some (e, rest)) :
    rest.length < cs.length := by
  unfold span? at h
  simp only [Option.bind_eq_bind, Option.bind_eq_some_iff] at h
  obtain ⟨⟨_, _⟩, h₁, ⟨_, _⟩, h₂, ⟨_, _⟩, h₃, ⟨_, _⟩, h₄, ⟨_, _⟩, h₅, ⟨_, _⟩, h₆, h⟩ := h
  cases h
  dsimp only at h₁ h₂ h₃ h₄ h₅ h₆ ⊢
  have := length_lt_of_cutAt h₁
  have := length_lt_of_cutAt h₂
  have := length_lt_of_cutAt h₃
  have := length_lt_of_cutAt h₄
  have := length_lt_of_cutAt h₅
  have := length_lt_of_cutAt h₆
  omega

def spans (cs : List Char) : List (String × String) :=
  match _h : span? cs with
  | none => []
  | some (e, rest) => e :: spans rest
termination_by cs.length
decreasing_by exact length_lt_of_span? _h

theorem spans_eq (cs : List Char) : spans cs =
    match span? cs with
    | none => []
    | some (e, rest) => e :: spans rest := by
  rw [spans]
  split <;> simp_all

def entry (t : Token) : String × String := (t.category, t.text)

def Quotable (t : Token) : Prop := '"' ∉ t.category.toList

theorem span?_append_token {gap : List Char} (hgap : '<' ∉ gap) (ht : Quotable t) :
    span? (gap ++ ((token [] t).toList ++ rest)) = some (entry t, rest) := by
  have hlayout : gap ++ ((token [] t).toList ++ rest) =
      gap ++ '<' :: ("span class=".toList ++ '"' :: (t.category.toList ++ '"' :: ([] ++
        '>' :: ((escape t.text).toList ++ '<' :: ("/span".toList ++ '>' :: rest))))) := by
    simp [token]
  have hunescape : unescape (escape t.text).toList = t.text.toList := by
    rw [escape, String.toList_ofList]
    simpa [unescape] using unescape_flatMap t.text.toList []
  have hclass : '"' ∉ "span class=".toList := by decide
  have hclose : '>' ∉ "/span".toList := by decide
  rw [hlayout, span?]
  simp only [cutAt_append hgap, cutAt_append hclass, cutAt_append ht, cutAt_append List.not_mem_nil,
    cutAt_append (not_mem_escape t.text), cutAt_append hclose, Option.bind_eq_bind,
    Option.bind_some, hunescape, String.ofList_toList]
  rfl

def unplaced (t : Token) : Token := { t with start := 0 }

theorem spans_renderFrom (annotate : Bool) (previous : Option Token)
    (h : ∀ t ∈ tokens, Quotable t) :
    spans (String.join (renderFrom [] annotate previous tokens)).toList = tokens.map entry := by
  induction tokens generalizing previous with
  | nil =>
    rw [spans_eq]
    rfl
  | cons t tokens ih =>
    rw [List.forall_mem_cons] at h
    have hgap : '<' ∉ (if annotate && previous.any (apart · t) then " " else "").toList := by
      split <;> decide
    rw [renderFrom, String.join_cons, String.join_cons, String.toList_append, String.toList_append,
      spans_eq, span?_append_token hgap h.1, List.map_cons, ← ih (some t) h.2]

theorem renderFrom_unplaced (raw : List String) (annotate : Bool) (previous : Option Token)
    (tokens : List Token) :
    renderFrom raw annotate (previous.map unplaced) (tokens.map unplaced) =
      renderFrom raw annotate previous tokens := by
  induction tokens generalizing previous with
  | nil => rfl
  | cons t tokens ih =>
    have hspace : (previous.map unplaced).any (apart · (unplaced t)) = previous.any (apart · t) := by
      cases previous <;> rfl
    rw [List.map_cons, renderFrom, renderFrom, hspace, ← ih (some t)]
    rfl

theorem render_congr {a b : List Token} (raw : List String) (annotate : Bool)
    (h : a.map entry = b.map entry) : render raw annotate a = render raw annotate b := by
  have hmap : ∀ l : List Token, l.map unplaced = (l.map entry).map fun e => ⟨e.1, e.2, 0⟩ :=
    fun l => by rw [List.map_map]; rfl
  have hunplaced : a.map unplaced = b.map unplaced := by rw [hmap a, h, hmap b]
  have ha := renderFrom_unplaced raw annotate none a
  have hb := renderFrom_unplaced raw annotate none b
  rw [render, ← ha, hunplaced, hb, render]

/-- Without raw categories the spans of the HTML are the tokens, each with its category and its
text, so that two lists have the same HTML only if they have the same of these. -/
theorem spans_render (annotate : Bool) (a b : List Token) (ha : ∀ t ∈ a, Quotable t)
    (hb : ∀ t ∈ b, Quotable t) :
    spans (render [] annotate a).toList = a.map entry ∧
    (render [] annotate a = render [] annotate b ↔ a.map entry = b.map entry) := by
  have hspans : ∀ l : List Token, (∀ t ∈ l, Quotable t) →
      spans (render [] annotate l).toList = l.map entry := fun l => spans_renderFrom annotate none
  refine ⟨hspans a ha, fun h => ?_, render_congr [] annotate⟩
  rw [← hspans a ha, h, hspans b hb]

def imitation : List Token :=
  [⟨"keyword", "</span> <span class=\"number\">", 0⟩, ⟨"number", "&lt; ", 4⟩]

theorem imitation_spans :
    (∀ t ∈ imitation, Quotable t) ∧
    render [] true imitation =
      "<span class=\"keyword\">&lt;/span&gt; &lt;span class=\"number\"&gt;</span> " ++
        "<span class=\"number\">&amp;lt; </span>" ∧
    spans (render [] true imitation).toList =
      [("keyword", "</span> <span class=\"number\">"), ("number", "&lt; ")] := by
  have hquotable : ∀ t ∈ imitation, Quotable t := by unfold Quotable; decide
  exact ⟨hquotable, by decide +kernel,
    (spans_render true imitation imitation hquotable hquotable).1⟩

end Lexicon.Html
