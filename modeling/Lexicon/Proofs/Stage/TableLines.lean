import Lexicon.Proofs.Coverage

/-!
The table stage, told line by line. The stage is one pass with a flag, a look at the next token and
a walk back over its own output; here the tokens are cut into lines at their breaks, and what
becomes of a token is read off the line in which it stands.
-/

namespace Lexicon.Table

def names (n : Table) : List String :=
  [n.delimiter, n.headerSeparator, n.newline, n.paragraph, n.lineStart, n.lineEnd,
    n.headerLineStart]

def outputs (n : Table) : List String := [n.lineStart, n.lineEnd, n.headerLineStart]

structure Body (n : Table) (body : List Token) : Prop where
  unbroken : ∀ t ∈ body, n.isBreak t = false
  fresh : ∀ t ∈ body, t.category ∉ n.outputs

/-- The category of a token in a line with `before` in front of it and `after` behind it, if the row
of the line opens with `start`. -/
def inRow (n : Table) (start : String) (before : List Token) (t : Token) (after : List Token) :
    String :=
  if t.category ≠ n.delimiter then t.category
  else if ∀ u ∈ before, u.category ≠ n.delimiter then start
  else if after = [] then n.lineEnd
  else n.delimiter

structure AsRow (n : Table) (start : String) (body row : List Token) : Prop where
  length_eq : row.length = body.length
  getElem?_eq : ∀ before t after, body = before ++ t :: after →
    row[before.length]? = some { t with category := n.inRow start before t after }

def closing (n : Table) (row : List Token) (b : Token) (next : Option Token) : Token :=
  if b.category = n.paragraph ∧
      ((∃ t ∈ row.getLast?, t.category = n.lineEnd) ∨ ∃ t ∈ next, t.category = n.delimiter) then
    { b with category := n.newline }
  else b

def Heads (n : Table) (b : Token) (next : Option Token) : Prop :=
  b.category = n.newline ∧ ∃ t ∈ next, t.category = n.headerSeparator

instance (n : Table) (b : Token) (next : Option Token) : Decidable (n.Heads b next) :=
  inferInstanceAs (Decidable (_ ∧ _))

def opening (n : Table) (b : Token) (next : Option Token) : String :=
  if n.Heads b next then n.headerLineStart else n.lineStart

inductive Classified (n : Table) : List Token → List Token → Prop
  | last {body row : List Token} :
      (∀ t ∈ body, n.isBreak t = false) → n.AsRow n.lineStart body row → Classified n body row
  | line {body row below result : List Token} {b : Token} :
      (∀ t ∈ body, n.isBreak t = false) → n.isBreak b = true →
      n.AsRow (n.opening (n.closing row b below.head?) below.head?) body row →
      Classified n below result →
      Classified n (body ++ b :: below) (row ++ n.closing row b below.head? :: result)

/-- Every end of a row stands in the line of a start of a row that is closed nowhere else. -/
def EndsMatched (n : Table) (tokens : List Token) : Prop :=
  ∀ before t after, tokens = before ++ t :: after → t.category = n.lineEnd →
    ∃ above s between, before = above ++ s :: between ∧
      s.category ∈ [n.lineStart, n.headerLineStart] ∧
      ∀ u ∈ between, n.isBreak u = false ∧ u.category ∉ n.outputs

/-! The row of a line -/

def behind (n : Table) : List Token → List Token
  | [] => []
  | [t] => [if t.category = n.delimiter then { t with category := n.lineEnd } else t]
  | t :: u :: rest => t :: n.behind (u :: rest)

def row (n : Table) (start : String) : List Token → List Token
  | [] => []
  | t :: rest =>
    if t.category = n.delimiter then { t with category := start } :: n.behind rest
    else t :: n.row start rest

variable {n : Table} {t u b : Token} {start : String} {rowOpen nearest : Bool}
  {body above below rest done tokens result : List Token}

theorem Body.of_cons (h : n.Body (t :: body)) : n.Body body :=
  ⟨fun u hu => h.unbroken u (List.mem_cons_of_mem t hu),
    fun u hu => h.fresh u (List.mem_cons_of_mem t hu)⟩

theorem is_iff {category : String} : t.is category = true ↔ t.category = category := by
  simp [Token.is]

theorem any_is_iff {category : String} {o : Option Token} :
    o.any (·.is category) = true ↔ ∃ t ∈ o, t.category = category := by
  cases o <;> simp [is_iff]

theorem isBreak_iff : n.isBreak t = true ↔ t.category = n.newline ∨ t.category = n.paragraph := by
  simp [isBreak, is_iff]

theorem not_mem_of_isBreak (hn : n.names.Nodup) (hb : n.isBreak b = true) :
    b.category ∉ n.delimiter :: n.outputs := by
  rw [isBreak_iff] at hb
  grind [names, outputs]

theorem isBreak_eq_false (hn : n.names.Nodup) (h : t.category ∈ n.delimiter :: n.outputs) :
    n.isBreak t = false :=
  Bool.eq_false_iff.mpr fun hb => not_mem_of_isBreak hn hb h

theorem starts_ne_lineEnd (hn : n.names.Nodup) :
    n.lineStart ≠ n.lineEnd ∧ n.headerLineStart ≠ n.lineEnd := by
  simp only [names, List.nodup_cons, List.mem_cons, List.not_mem_nil, not_or] at hn
  exact ⟨hn.2.2.2.2.1.1, Ne.symm hn.2.2.2.2.2.1.1⟩

theorem behind_eq (n : Table) (body : List Token) :
    n.behind body = body ∨ ∃ init t, body = init ++ [t] ∧ t.category = n.delimiter ∧
      n.behind body = init ++ [{ t with category := n.lineEnd }] := by
  induction body using behind.induct with
  | case1 => exact .inl rfl
  | case2 t =>
    by_cases ht : t.category = n.delimiter
    · exact .inr ⟨[], t, rfl, ht, by simp [behind, ht]⟩
    · exact .inl (by simp [behind, ht])
  | case3 t u rest ih =>
    rcases ih with heq | ⟨init, v, hinit, hv, heq⟩
    · exact .inl (by rw [behind, heq])
    · exact .inr ⟨t :: init, v, by rw [hinit, List.cons_append], hv, by rw [behind, heq]; rfl⟩

theorem row_eq_self (h : ∀ t ∈ body, t.category ≠ n.delimiter) : n.row start body = body := by
  induction body with
  | nil => rfl
  | cons t body ih =>
    simp only [List.forall_mem_cons] at h
    simp [row, h.1, ih h.2]

theorem row_append {d : Token} {before after : List Token}
    (h : ∀ t ∈ before, t.category ≠ n.delimiter) (hd : d.category = n.delimiter) :
    n.row start (before ++ d :: after) =
      before ++ { d with category := start } :: n.behind after := by
  induction before with
  | nil => simp [row, hd]
  | cons t before ih =>
    simp only [List.forall_mem_cons] at h
    simp [row, h.1, ih h.2]

theorem forall_or_exists_first (n : Table) (body : List Token) :
    (∀ t ∈ body, t.category ≠ n.delimiter) ∨ ∃ before d after, body = before ++ d :: after ∧
      (∀ t ∈ before, t.category ≠ n.delimiter) ∧ d.category = n.delimiter := by
  cases h : body.find? (·.category = n.delimiter) with
  | none => exact .inl (by simpa using h)
  | some d =>
    obtain ⟨hd, before, after, rfl, hbefore⟩ := List.find?_eq_some_iff_append.mp h
    exact .inr ⟨before, d, after, rfl, by simpa using hbefore, by simpa using hd⟩

theorem length_behind (n : Table) (body : List Token) : (n.behind body).length = body.length := by
  induction body using behind.induct with
  | case1 => rfl
  | case2 t => rfl
  | case3 t u rest ih => simpa [behind] using ih

theorem length_row (n : Table) (start : String) (body : List Token) :
    (n.row start body).length = body.length := by
  induction body with
  | nil => rfl
  | cons t body ih =>
    rw [row]
    split
    · simp [length_behind]
    · simp [ih]

theorem getElem?_behind {before after : List Token} :
    (n.behind (before ++ t :: after))[before.length]? = some { t with
      category := if t.category = n.delimiter ∧ after = [] then n.lineEnd else t.category } := by
  induction before with
  | nil =>
    cases after with
    | nil => by_cases ht : t.category = n.delimiter <;> simp [behind, ht]
    | cons u after => simp [behind]
  | cons u before ih =>
    cases before with
    | nil => simpa [behind] using ih
    | cons v before => simpa [behind] using ih

theorem inRow_cons_of_ne {before after : List Token} (hu : u.category ≠ n.delimiter) :
    n.inRow start (u :: before) t after = n.inRow start before t after := by
  simp [inRow, hu]

theorem getElem?_row {before after : List Token} :
    (n.row start (before ++ t :: after))[before.length]? =
      some { t with category := n.inRow start before t after } := by
  induction before with
  | nil => by_cases ht : t.category = n.delimiter <;> simp [row, inRow, ht]
  | cons u before ih =>
    by_cases hu : u.category = n.delimiter
    · by_cases ht : t.category = n.delimiter <;> simp [row, inRow, hu, ht, getElem?_behind]
    · simpa [row, hu, inRow_cons_of_ne hu] using ih

theorem asRow_row (n : Table) (start : String) (body : List Token) :
    n.AsRow start body (n.row start body) := by
  refine ⟨n.length_row start body, ?_⟩
  rintro before t after rfl
  exact getElem?_row

theorem AsRow.eq_row {row : List Token} (h : n.AsRow start body row) : row = n.row start body := by
  apply List.ext_getElem?
  intro i
  by_cases hi : i < body.length
  · have hbody : body = body.take i ++ body[i] :: body.drop (i + 1) := by simp
    have hlen : (body.take i).length = i := List.length_take_of_le (Nat.le_of_lt hi)
    have hleft := h.getElem?_eq _ _ _ hbody
    have hright := (n.asRow_row start body).getElem?_eq _ _ _ hbody
    rw [hlen] at hleft hright
    rw [hleft, hright]
  · rw [List.getElem?_eq_none (by rw [h.length_eq]; omega),
      List.getElem?_eq_none (by rw [length_row]; omega)]

/-! One line of the pass -/

theorem applyFrom_cons (hmark : n.mark rowOpen t rest.head? = (u, nearest))
    (hu : n.isBreak u = false) :
    n.applyFrom done rowOpen (t :: rest) = n.applyFrom (u :: done) nearest rest := by
  have hcategory : u.is n.newline = false ∧ u.is n.paragraph = false := by
    simpa [isBreak] using hu
  simp [applyFrom, hmark, normalise, hcategory]

theorem exists_applyFrom_behind (hn : n.names.Nodup) (hbody : n.Body body) (done : List Token)
    (hrest : rest.head?.all n.isBreak) : ∃ o, n.applyFrom done true (body ++ rest) =
      n.applyFrom ((n.behind body).reverse ++ done) o rest := by
  induction body using behind.induct generalizing done with
  | case1 => exact ⟨true, rfl⟩
  | case2 t =>
    by_cases ht : t.category = n.delimiter
    · refine ⟨false, ?_⟩
      have hend := isBreak_eq_false (t := { t with category := n.lineEnd }) hn (by simp [outputs])
      rw [List.singleton_append, applyFrom_cons (by simp [mark, Token.is, ht, hrest]; rfl) hend]
      simp [behind, ht]
    · have hbreak := hbody.unbroken t (by simp)
      refine ⟨true, ?_⟩
      rw [List.singleton_append, applyFrom_cons (by simp [mark, Token.is, ht, hbreak]; rfl) hbreak]
      simp [behind, ht]
  | case3 t u body ih =>
    have hbreak := hbody.unbroken t (by simp)
    have hnext := hbody.unbroken u (by simp)
    obtain ⟨o, ho⟩ := ih hbody.of_cons (t :: done)
    refine ⟨o, ?_⟩
    have hmark : n.mark true t (u :: body ++ rest).head? = (t, true) := by
      by_cases ht : t.category = n.delimiter <;> simp [mark, Token.is, ht, hbreak, hnext]
    rw [List.cons_append, applyFrom_cons hmark hbreak, ho]
    simp [behind]

theorem exists_applyFrom_row (hn : n.names.Nodup) (hbody : n.Body body) (done : List Token)
    (hrest : rest.head?.all n.isBreak) : ∃ o, n.applyFrom done false (body ++ rest) =
      n.applyFrom ((n.row n.lineStart body).reverse ++ done) o rest := by
  induction body generalizing done with
  | nil => exact ⟨false, rfl⟩
  | cons t body ih =>
    by_cases ht : t.category = n.delimiter
    · have hstart := isBreak_eq_false (t := { t with category := n.lineStart }) hn
        (by simp [outputs])
      obtain ⟨o, ho⟩ := exists_applyFrom_behind hn hbody.of_cons
        ({ t with category := n.lineStart } :: done) hrest
      refine ⟨o, ?_⟩
      rw [List.cons_append, applyFrom_cons (by simp [mark, Token.is, ht]; rfl) hstart, ho]
      simp [row, ht]
    · have hbreak := hbody.unbroken t (by simp)
      obtain ⟨o, ho⟩ := ih hbody.of_cons (t :: done)
      refine ⟨o, ?_⟩
      rw [List.cons_append, applyFrom_cons (by simp [mark, Token.is, ht]; rfl) hbreak, ho]
      simp [row, ht]

theorem promote_append {passed : List Token} (h : n.Body passed) :
    n.promote nearest (passed ++ above) =
      (n.promote (nearest && passed.isEmpty) above).map (passed ++ ·) := by
  induction passed generalizing nearest with
  | nil => simp
  | cons t passed ih =>
    have hbreak := h.unbroken t (by simp)
    have hcategory : t.category ≠ n.lineStart ∧ t.category ≠ n.lineEnd := by
      have hfresh := h.fresh t (by simp)
      simp only [outputs, List.mem_cons, not_or] at hfresh
      exact ⟨hfresh.1, hfresh.2.1⟩
    simp [promote, Token.is, hcategory, hbreak, ih h.of_cons, Function.comp_def]

theorem Body.append_iff : n.Body (body ++ rest) ↔ n.Body body ∧ n.Body rest := by
  constructor
  · intro h
    exact ⟨⟨fun t ht => h.unbroken t (by simp [ht]), fun t ht => h.fresh t (by simp [ht])⟩,
      ⟨fun t ht => h.unbroken t (by simp [ht]), fun t ht => h.fresh t (by simp [ht])⟩⟩
  · rintro ⟨hbody, hrest⟩
    exact ⟨List.forall_mem_append.mpr ⟨hbody.unbroken, hrest.unbroken⟩,
      List.forall_mem_append.mpr ⟨hbody.fresh, hrest.fresh⟩⟩

theorem Body.reverse (h : n.Body body) : n.Body body.reverse :=
  ⟨by simpa using h.unbroken, by simpa using h.fresh⟩

theorem promote_eq_none_of_isBreak (hn : n.names.Nodup) (h : above.head?.all n.isBreak) :
    n.promote nearest above = none := by
  cases above with
  | nil => rfl
  | cons b above =>
    have hb : n.isBreak b = true := by simpa using h
    have hne := not_mem_of_isBreak hn hb
    simp only [outputs, List.mem_cons, not_or] at hne
    simp [promote, Token.is, hne, hb]

theorem promote_behind (hn : n.names.Nodup) (hbody : n.Body body) (ht : t.category = n.lineStart) :
    n.promote true ((n.behind body).reverse ++ t :: above) =
      some ((n.behind body).reverse ++ { t with category := n.headerLineStart } :: above) := by
  have hfound : ∀ o, n.promote o (t :: above) =
      some ({ t with category := n.headerLineStart } :: above) := by
    simp [promote, Token.is, ht]
  rcases n.behind_eq body with heq | ⟨init, u, rfl, -, heq⟩
  · rw [heq, promote_append hbody.reverse, hfound]
    rfl
  · -- The end of the row is the nearest token, so the walk goes on above it.
    have hinit := (Body.append_iff.mp hbody).1.reverse
    have hbreak := isBreak_eq_false (t := { u with category := n.lineEnd }) hn (by simp [outputs])
    have hne := (starts_ne_lineEnd hn).1.symm
    rw [heq, List.reverse_concat, List.cons_append, promote]
    simp [Token.is, hne, hbreak, promote_append hinit, hfound]

theorem promote_row (hn : n.names.Nodup) (hbody : n.Body body)
    (habove : above.head?.all n.isBreak) :
    n.promote true ((n.row n.lineStart body).reverse ++ above) =
      if ∃ t ∈ body, t.category = n.delimiter then
        some ((n.row n.headerLineStart body).reverse ++ above)
      else none := by
  rcases n.forall_or_exists_first body with hnone | ⟨before, d, after, rfl, hbefore, hd⟩
  · rw [row_eq_self hnone, promote_append hbody.reverse, promote_eq_none_of_isBreak hn habove,
      if_neg (by simpa using hnone)]
    rfl
  · have hafter := (Body.append_iff.mp hbody).2.of_cons
    rw [row_append hbefore hd, row_append hbefore hd, if_pos ⟨d, by simp, hd⟩]
    simp [promote_behind hn hafter]

theorem closing_row_congr {other : String} (hs : start ≠ n.lineEnd) (ho : other ≠ n.lineEnd)
    (body : List Token) (next : Option Token) :
    n.closing (n.row start body) b next = n.closing (n.row other body) b next := by
  rcases n.forall_or_exists_first body with hnone | ⟨before, d, after, rfl, hbefore, hd⟩
  · rw [row_eq_self hnone, row_eq_self hnone]
  · rw [row_append hbefore hd, row_append hbefore hd]
    cases hlast : (n.behind after).getLast? with
    | none => simp [closing, List.getLast?_cons, hlast, hs, ho]
    | some t => simp [closing, List.getLast?_cons, hlast]

theorem normalise_eq_closing (hn : n.names.Nodup) (habove : above.head?.all n.isBreak)
    (row : List Token) (next : Option Token) :
    n.normalise (row.reverse ++ above).head? b next = n.closing row b next := by
  have hhead : (∃ t ∈ (row.reverse ++ above).head?, t.category = n.lineEnd) ↔
      ∃ t ∈ row.getLast?, t.category = n.lineEnd := by
    rw [List.head?_append, List.head?_reverse]
    cases hlast : row.getLast? with
    | some t => simp
    | none =>
      cases above with
      | nil => simp
      | cons a above =>
        have ha : n.isBreak a = true := by simpa using habove
        have hne := not_mem_of_isBreak hn ha
        simp only [outputs, List.mem_cons, not_or] at hne
        simp [hne]
  simp only [normalise, closing, Bool.and_eq_true, Bool.or_eq_true, any_is_iff, is_iff, hhead]

theorem isBreak_closing (hb : n.isBreak b = true) (row : List Token) (next : Option Token) :
    n.isBreak (n.closing row b next) = true := by
  unfold closing
  split
  · simp [isBreak, Token.is]
  · exact hb

theorem stop_closing (row : List Token) (next : Option Token) :
    (n.closing row b next).stop = b.stop := by
  unfold closing
  split <;> rfl

theorem heads_iff (next : Option Token) :
    (b.is n.newline && next.any (·.is n.headerSeparator)) = true ↔ n.Heads b next := by
  rw [Bool.and_eq_true, is_iff, any_is_iff, Heads]

theorem applyFrom_line (hn : n.names.Nodup) (hbody : n.Body body) (hb : n.isBreak b = true)
    (habove : above.head?.all n.isBreak) {c : Token}
    (hc : n.closing (n.row n.lineStart body) b below.head? = c) :
    n.applyFrom above false (body ++ b :: below) =
      if n.Heads c below.head? ∧ ∀ t ∈ body, t.category ≠ n.delimiter then
        .error (.orphanHeader b.stop)
      else n.applyFrom (c :: ((n.row (n.opening c below.head?) body).reverse ++ above)) false
        below := by
  have hne : b.category ≠ n.delimiter := fun hd => not_mem_of_isBreak hn hb (by simp [hd])
  have hmark : ∀ o, n.mark o b below.head? = (b, false) := by simp [mark, Token.is, hne, hb]
  obtain ⟨o, ho⟩ := exists_applyFrom_row hn hbody above
    (show (b :: below).head?.all n.isBreak by simp [hb])
  rw [ho, applyFrom]
  simp only [hmark, normalise_eq_closing hn habove, hc, promote_row hn hbody habove]
  by_cases hheads : n.Heads c below.head?
  · rw [if_pos ((heads_iff _).mpr hheads)]
    by_cases hd : ∃ t ∈ body, t.category = n.delimiter
    · rw [if_pos hd, if_neg (by simpa using fun _ => hd), opening, if_pos hheads]
    · rw [if_neg hd, if_pos ⟨hheads, by simpa using hd⟩, ← hc, stop_closing]
  · rw [if_neg (fun h => hheads ((heads_iff _).mp h)), if_neg (fun h => hheads h.1), opening,
      if_neg hheads]

/-! All lines -/

theorem line_induction {motive : List Token → Prop}
    (last : ∀ body, (∀ t ∈ body, n.isBreak t = false) → motive body)
    (line : ∀ body b below, (∀ t ∈ body, n.isBreak t = false) → n.isBreak b = true →
      motive below → motive (body ++ b :: below)) (tokens : List Token) : motive tokens := by
  cases hfind : tokens.find? n.isBreak with
  | none => exact last tokens (by simpa using hfind)
  | some b =>
    obtain ⟨hb, body, below, htokens, hbody⟩ := List.find?_eq_some_iff_append.mp hfind
    have hlt : below.length < tokens.length := by
      simp only [htokens, List.length_append, List.length_cons]
      omega
    exact htokens ▸ line body b below (by simpa using hbody) hb (line_induction last line below)
termination_by tokens.length

theorem apply_body (hn : n.names.Nodup) (hbody : n.Body body) :
    n.apply body = .ok (n.row n.lineStart body) := by
  obtain ⟨o, ho⟩ := exists_applyFrom_row hn hbody [] (show [].head?.all n.isBreak from rfl)
  rw [List.append_nil] at ho
  simp [apply, ho, applyFrom]

theorem applyFrom_eq_map (hn : n.names.Nodup) (htokens : ∀ t ∈ tokens, t.category ∉ n.outputs)
    (habove : above.head?.all n.isBreak) :
    n.applyFrom above false tokens = (n.apply tokens).map (above.reverse ++ ·) := by
  induction tokens using line_induction (n := n) generalizing above with
  | last body hbody =>
    obtain ⟨o, ho⟩ := exists_applyFrom_row hn ⟨hbody, htokens⟩ above
      (show [].head?.all n.isBreak from rfl)
    rw [List.append_nil] at ho
    simp [apply_body hn ⟨hbody, htokens⟩, ho, applyFrom, Except.map]
  | line body b below hbody hb ih =>
    have hfresh := List.forall_mem_append.mp htokens
    have hbelow := (List.forall_mem_cons.mp hfresh.2).2
    have hline : n.Body body := ⟨hbody, hfresh.1⟩
    have hclosing := isBreak_closing hb (n.row n.lineStart body) below.head?
    rw [apply, applyFrom_line hn hline hb habove rfl, applyFrom_line hn hline hb rfl rfl]
    split
    · rfl
    · rw [ih hbelow (by simpa using hclosing), ih hbelow (by simpa using hclosing)]
      cases n.apply below <;> simp [Except.map]

theorem apply_line (hn : n.names.Nodup) (hbody : n.Body body) (hb : n.isBreak b = true)
    (hbelow : ∀ t ∈ below, t.category ∉ n.outputs) {c : Token}
    (hc : n.closing (n.row n.lineStart body) b below.head? = c) :
    n.apply (body ++ b :: below) =
      if n.Heads c below.head? ∧ ∀ t ∈ body, t.category ≠ n.delimiter then
        .error (.orphanHeader b.stop)
      else (n.apply below).map fun result =>
        n.row (n.opening c below.head?) body ++ c :: result := by
  have hbreak : n.isBreak c = true := hc ▸ isBreak_closing hb (n.row n.lineStart body) below.head?
  rw [apply, applyFrom_line hn hbody hb rfl hc, applyFrom_eq_map hn hbelow (by simpa using hbreak)]
  simp

theorem opening_ne_lineEnd (hn : n.names.Nodup) (next : Option Token) :
    n.opening b next ≠ n.lineEnd := by
  unfold opening
  split
  · exact (starts_ne_lineEnd hn).2
  · exact (starts_ne_lineEnd hn).1

theorem classified_apply (hn : n.names.Nodup) (htokens : ∀ t ∈ tokens, t.category ∉ n.outputs)
    (h : n.apply tokens = .ok result) : n.Classified tokens result := by
  induction tokens using line_induction (n := n) generalizing result with
  | last body hbody =>
    rw [apply_body hn ⟨hbody, htokens⟩] at h
    cases h
    exact .last hbody (n.asRow_row n.lineStart body)
  | line body b below hbody hb ih =>
    have hfresh := List.forall_mem_append.mp htokens
    have hbelow := (List.forall_mem_cons.mp hfresh.2).2
    generalize hc : n.closing (n.row n.lineStart body) b below.head? = c
    rw [apply_line hn ⟨hbody, hfresh.1⟩ hb hbelow hc] at h
    split at h
    · cases h
    · cases hrest : n.apply below with
      | error e => simp [hrest, Except.map] at h
      | ok rest =>
        rw [hrest] at h
        cases h
        have hopening : n.opening c below.head? ≠ n.lineEnd := opening_ne_lineEnd hn _
        rw [closing_row_congr (starts_ne_lineEnd hn).1 hopening] at hc
        have hrow := n.asRow_row (n.opening c below.head?) body
        have hline := Classified.line hbody hb (by rwa [hc]) (ih hbelow hrest)
        rwa [hc] at hline

theorem eq_of_append_singleton {l before after : List Token} (h : l ++ [u] = before ++ t :: after)
    (ht : t ∉ l) : before = l := by
  rcases List.eq_nil_or_concat after with rfl | ⟨after, v, rfl⟩
  · exact (List.append_inj_left' h rfl).symm
  · have hl : l = before ++ t :: after := by
      rw [List.concat_eq_append, ← List.cons_append, ← List.append_assoc] at h
      exact List.append_inj_left' h rfl
    exact absurd (by simp [hl]) ht

theorem endsMatched_row (hn : n.names.Nodup) (hbody : n.Body body)
    (hs : start ∈ [n.lineStart, n.headerLineStart]) : n.EndsMatched (n.row start body) := by
  have hne : start ≠ n.lineEnd := by
    have hends := starts_ne_lineEnd hn
    simp only [List.mem_cons, List.not_mem_nil, or_false] at hs
    rcases hs with rfl | rfl
    · exact hends.1
    · exact hends.2
  have hfresh : ∀ t ∈ body, t.category ≠ n.lineEnd := by
    intro t ht hend
    exact hbody.fresh t ht (by simp [outputs, hend])
  intro before t after hrow hend
  rcases n.forall_or_exists_first body with hnone | ⟨first, d, rest, rfl, hfirst, hd⟩
  · rw [row_eq_self hnone] at hrow
    exact absurd hend (hfresh t (by simp [hrow]))
  · rw [row_append hfirst hd] at hrow
    simp only [List.forall_mem_append, List.forall_mem_cons] at hfresh
    rcases n.behind_eq rest with heq | ⟨between, v, rfl, -, heq⟩
    · have hplain :
          ∀ u ∈ first ++ { d with category := start } :: rest, u.category ≠ n.lineEnd := by
        simpa only [List.forall_mem_append, List.forall_mem_cons] using ⟨hfresh.1, hne, hfresh.2.2⟩
      rw [heq] at hrow
      exact absurd hend (hplain t (by simp [hrow]))
    · have hbetween := (Body.append_iff.mp (Body.append_iff.mp hbody).2.of_cons).1
      simp only [List.forall_mem_append] at hfresh
      have hplain : ∀ u ∈ first ++ { d with category := start } :: between,
          u.category ≠ n.lineEnd := by
        simpa only [List.forall_mem_append, List.forall_mem_cons] using
          ⟨hfresh.1, hne, hfresh.2.2.1⟩
      rw [heq, ← List.cons_append, ← List.append_assoc] at hrow
      have hbefore := eq_of_append_singleton hrow fun ht => hplain t ht hend
      exact ⟨first, _, between, hbefore, hs,
        fun u hu => ⟨hbetween.unbroken u hu, hbetween.fresh u hu⟩⟩

theorem EndsMatched.append {row rest : List Token} (hrow : n.EndsMatched row)
    (hb : b.category ≠ n.lineEnd) (hrest : n.EndsMatched rest) :
    n.EndsMatched (row ++ b :: rest) := by
  intro before t after heq hend
  have hne : t ≠ b := fun h => hb (h ▸ hend)
  rcases List.append_eq_append_iff.mp heq with ⟨mid, rfl, hmid⟩ | ⟨mid, hmid, hafter⟩
  · rcases List.cons_eq_append_iff.mp hmid with ⟨-, hcons⟩ | ⟨mid, rfl, htail⟩
    · exact absurd (List.cons.inj hcons).1 hne
    · obtain ⟨above, s, between, rfl, hs, hbetween⟩ := hrest mid t after htail hend
      exact ⟨row ++ b :: above, s, between, by simp, hs, hbetween⟩
  · rcases List.cons_eq_append_iff.mp hafter with ⟨-, hcons⟩ | ⟨mid, rfl, -⟩
    · exact absurd (List.cons.inj hcons).1.symm hne
    · exact hrow before t mid hmid hend

theorem Classified.endsMatched (hn : n.names.Nodup)
    (htokens : ∀ t ∈ tokens, t.category ∉ n.outputs) (h : n.Classified tokens result) :
    n.EndsMatched result := by
  induction h with
  | last hbody hrow =>
    rw [hrow.eq_row]
    exact endsMatched_row hn ⟨hbody, htokens⟩ (by simp)
  | @line body row below rest b hbody hb hrow _ ih =>
    have hfresh := List.forall_mem_append.mp htokens
    have hbelow := (List.forall_mem_cons.mp hfresh.2).2
    have hbreak := isBreak_closing hb row below.head?
    have hline : n.EndsMatched row := by
      rw [hrow.eq_row]
      refine endsMatched_row hn ⟨hbody, hfresh.1⟩ ?_
      unfold opening
      split <;> simp
    refine hline.append (fun hend => ?_) (ih hbelow)
    exact not_mem_of_isBreak hn hbreak (by simp [outputs, hend])

/-- If the categories are all different and no token comes in with one that the stage writes, every
line comes out as its own tokens tell, and every end of a row closes the row of its line. -/
theorem apply_classifies_lines (n : Table) (tokens result : List Token) (hn : n.names.Nodup)
    (htokens : ∀ t ∈ tokens, t.category ∉ n.outputs) (h : n.apply tokens = .ok result) :
    result.length = tokens.length ∧ result.map Token.text = tokens.map Token.text ∧
      result.map Token.start = tokens.map Token.start ∧ n.Classified tokens result ∧
      n.EndsMatched result := by
  have hspans : result.map Token.span = tokens.map Token.span := by
    simpa using n.spans_applyFrom h
  have hclassified := classified_apply hn htokens h
  refine ⟨by simpa using congrArg List.length hspans, ?_, ?_, hclassified,
    hclassified.endsMatched hn htokens⟩
  · simpa [Token.span, Function.comp_def] using congrArg (List.map Prod.snd) hspans
  · simpa [Token.span, Function.comp_def] using congrArg (List.map Prod.fst) hspans

theorem header_row_classified :
    ∃ tokens result : List Token,
      tokens = [⟨"normal", "x", 0⟩, ⟨"table", "|", 1⟩, ⟨"table", "|", 2⟩, ⟨"normal", "a", 3⟩,
        ⟨"table", "|", 4⟩, ⟨"paragraph", "\n\n", 5⟩, ⟨"table_header_line", "|--", 7⟩,
        ⟨"paragraph", "\n\n", 10⟩, ⟨"table", "|", 12⟩] ∧
      result = [⟨"normal", "x", 0⟩, ⟨"table_header_line_start", "|", 1⟩, ⟨"table", "|", 2⟩,
        ⟨"normal", "a", 3⟩, ⟨"table_line_end", "|", 4⟩, ⟨"newline", "\n\n", 5⟩,
        ⟨"table_header_line", "|--", 7⟩, ⟨"newline", "\n\n", 10⟩, ⟨"table_line_start", "|", 12⟩] ∧
      (names {}).Nodup ∧ (∀ t ∈ tokens, t.category ∉ outputs {}) ∧ apply {} tokens = .ok result ∧
      Classified {} tokens result ∧ EndsMatched {} result := by
  refine ⟨_, _, rfl, rfl, by decide, by decide, by decide +kernel, ?_⟩
  exact (apply_classifies_lines {} _ _ (by decide) (by decide) (by decide +kernel)).2.2.2

end Lexicon.Table
