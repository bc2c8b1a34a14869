import Lexicon.Html

namespace Lexicon.Html

/-- What a text holds outside of its tags, each of which goes from `<` to the next `>`. Here `inTag`
tells whether the text starts inside of a tag. -/
def untag (inTag : Bool) : List Char → List Char
  | [] => []
  | c :: rest =>
    if inTag then untag (c != '>') rest
    else if c = '<' then untag true rest
    else c :: untag false rest

def unescape : List Char → List Char
  | '&' :: 'a' :: 'm' :: 'p' :: ';' :: rest => '&' :: unescape rest
  | '&' :: 'l' :: 't' :: ';' :: rest => '<' :: unescape rest
  | '&' :: 'g' :: 't' :: ';' :: rest => '>' :: unescape rest
  | c :: rest => c :: unescape rest
  | [] => []

def plainText (html : String) : String := .ofList (unescape (untag false html.toList))

variable {c : Char} {s rest : List Char}

theorem untag_append (h : '<' ∉ s) : untag false (s ++ rest) = s ++ untag false rest := by
  induction s with
  | nil => rfl
  | cons c s ih =>
    simp only [List.mem_cons, not_or] at h
    simp [untag, Ne.symm h.1, ih h.2]

theorem untag_close (h : '>' ∉ s) : untag true (s ++ '>' :: rest) = untag false rest := by
  induction s with
  | nil => rfl
  | cons c s ih =>
    simp only [List.mem_cons, not_or] at h
    have hne : (c != '>') = true := bne_iff_ne.mpr (Ne.symm h.1)
    rw [List.cons_append, untag, if_pos rfl, hne, ih h.2]

theorem untag_tag (h : '>' ∉ s) : untag false ('<' :: (s ++ '>' :: rest)) = untag false rest := by
  rw [untag, if_neg Bool.false_ne_true, if_pos rfl, untag_close h]

theorem unescape_cons (h : c ≠ '&') : unescape (c :: rest) = c :: unescape rest := by
  rw [unescape]
  all_goals simp [h]

theorem unescape_append (h : '&' ∉ s) : unescape (s ++ rest) = s ++ unescape rest := by
  induction s with
  | nil => rfl
  | cons c s ih =>
    simp only [List.mem_cons, not_or] at h
    rw [List.cons_append, unescape_cons (Ne.symm h.1), ih h.2, List.cons_append]

theorem unescape_escapeChar (c : Char) (rest : List Char) :
    unescape (escapeChar c ++ rest) = c :: unescape rest := by
  unfold escapeChar
  split
  · simp [unescape]
  · simp [unescape]
  · simp [unescape]
  · rename_i hamp _ _
    exact unescape_cons hamp

theorem unescape_flatMap (s rest : List Char) :
    unescape (s.flatMap escapeChar ++ rest) = s ++ unescape rest := by
  induction s with
  | nil => rfl
  | cons c s ih =>
    rw [List.flatMap_cons, List.append_assoc, unescape_escapeChar, ih, List.cons_append]

theorem not_mem_escapeChar (c : Char) : '<' ∉ escapeChar c := by
  unfold escapeChar
  split
  · decide
  · decide
  · decide
  · rename_i hlt _
    simpa using Ne.symm hlt

theorem not_mem_escape (s : String) : '<' ∉ (escape s).toList := by
  simp [escape, not_mem_escapeChar]

def Plain (text : String) : Prop := '<' ∉ text.toList ∧ '&' ∉ text.toList

theorem plain_append (s t : String) (hs : Plain s) (ht : Plain t) : Plain (s ++ t) := by
  simp only [Plain, String.toList_append, List.mem_append, not_or]
  exact ⟨⟨hs.1, ht.1⟩, hs.2, ht.2⟩

structure Legible (raw : List String) (t : Token) : Prop where
  category : '>' ∉ t.category.toList
  text : t.category ∈ raw → Plain t.text

section

variable {raw : List String} {t : Token} {tokens : List Token}

def body (raw : List String) (t : Token) : String :=
  if t.category ∈ raw then t.text else escape t.text

theorem toList_token_append (h : t.category ∉ raw) :
    (token raw t).toList ++ rest =
      '<' :: ("span class=\"".toList ++ (t.category.toList ++ ['"']) ++
        '>' :: ((body raw t).toList ++ '<' :: ("/span".toList ++ '>' :: rest))) := by
  rw [token, body, if_neg h, if_neg h]
  simp

theorem not_mem_body (h : Legible raw t) : '<' ∉ (body raw t).toList := by
  unfold body
  split
  · rename_i hraw
    exact (h.text hraw).1
  · exact not_mem_escape t.text

theorem untag_token (h : Legible raw t) :
    untag false ((token raw t).toList ++ rest) = (body raw t).toList ++ untag false rest := by
  by_cases hraw : t.category ∈ raw
  · have heq : token raw t = body raw t := by rw [token, body, if_pos hraw, if_pos hraw]
    rw [heq, untag_append (not_mem_body h)]
  · have hopen : '>' ∉ "span class=\"".toList ++ (t.category.toList ++ ['"']) := by
      simp [h.category]
    have hclose : '>' ∉ "/span".toList := by decide
    rw [toList_token_append hraw, untag_tag hopen, untag_append (not_mem_body h), untag_tag hclose]

theorem unescape_body (h : Legible raw t) :
    unescape ((body raw t).toList ++ rest) = t.text.toList ++ unescape rest := by
  unfold body
  split
  · rename_i hraw
    exact unescape_append (h.text hraw).2
  · rw [escape, String.toList_ofList, unescape_flatMap]

theorem toList_renderFrom (raw : List String) (previous : Option Token) (tokens : List Token) :
    (String.join (renderFrom raw false previous tokens)).toList =
      tokens.flatMap fun t => (token raw t).toList := by
  induction tokens generalizing previous with
  | nil => rfl
  | cons t tokens ih =>
    simp only [String.toList_join] at ih
    simp [renderFrom, String.toList_join, ih]

theorem plainText_render (h : ∀ t ∈ tokens, Legible raw t) :
    plainText (render raw false tokens) = Token.texts tokens := by
  rw [← String.toList_inj, plainText, String.toList_ofList, render, toList_renderFrom, Token.texts,
    String.toList_join, List.flatMap_map]
  induction tokens with
  | nil => rfl
  | cons t tokens ih =>
    rw [List.forall_mem_cons] at h
    rw [List.flatMap_cons, untag_token h.1, unescape_body h.1, ih h.2,
      List.flatMap_cons]

end

end Lexicon.Html
