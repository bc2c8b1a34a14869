import Lexicon.Json.Read
import Lexicon.Proofs.Quoted
import Mathlib.Data.List.DropRight

namespace Lexicon.Json

open Text Read

variable {c e : Char} {cs s rest : List Char} {done : List Unit16} {n fuel depth : Nat}

/-! Strings -/

def unitOf (c : Char) : Unit16 :=
  if (shortEscape? c).isNone ∧ c.toNat < 0x20 then .unit c.toNat else .char c

theorem of_shortEscape? (h : shortEscape? c = some e) : e ≠ 'u' ∧ escaped? e = some c := by
  unfold shortEscape? at h
  split at h <;> cases h <;> decide

theorem ne_of_shortEscape?_eq_none (h : shortEscape? c = none) : c ≠ '"' ∧ c ≠ '\\' := by
  constructor <;>
    · rintro rfl
      cases h

theorem units_escape (hu : e ≠ 'u') (h : escaped? e = some c) :
    units done ('\\' :: e :: rest) = units (.char c :: done) rest := by
  rw [units]
  · rw [h]
  · rintro _ _ _ _ _ rfl
    exact absurd rfl hu

theorem units_plain (hquote : c ≠ '"') (hbackslash : c ≠ '\\') (h : ¬ c.toNat < 0x20) :
    units done (c :: rest) = units (.char c :: done) rest := by
  rw [units]
  · simp [hbackslash, h]
  · exact fun heq => absurd heq hquote
  · exact fun _ _ _ _ _ heq _ => absurd heq hbackslash
  · exact fun _ _ heq _ => absurd heq hbackslash

theorem units_escapeChar (c : Char) (rest : List Char) :
    units done (escapeChar c ++ rest) = units (unitOf c :: done) rest := by
  unfold escapeChar unitOf
  split
  · rename_i e he
    obtain ⟨hu, hread⟩ := of_shortEscape? he
    simp [he, units_escape hu hread]
  · rename_i hnone
    obtain ⟨hquote, hbackslash⟩ := ne_of_shortEscape?_eq_none hnone
    split
    · rename_i hlt
      have hhigh : hexValue? (Nat.digitChar (c.toNat / 16)) = some (c.toNat / 16) :=
        hexValue?_digitChar (by omega)
      have hlow : hexValue? (Nat.digitChar (c.toNat % 16)) = some (c.toNat % 16) :=
        hexValue?_digitChar (by omega)
      have hzero : hexValue? '0' = some 0 := rfl
      have hvalue : ((0 * 16 + 0) * 16 + c.toNat / 16) * 16 + c.toNat % 16 = c.toNat := by omega
      simp only [List.cons_append, List.nil_append, units, hzero, hhigh, hlow, hvalue, hnone,
        Option.isNone_none, hlt, and_self, if_true]
    · rename_i hlt
      simp [hlt, units_plain hquote hbackslash hlt]

theorem units_flatMap (cs rest : List Char) :
    units done (cs.flatMap escapeChar ++ '"' :: rest) =
      some (done.reverse ++ cs.map unitOf, rest) := by
  induction cs generalizing done with
  | nil => simp [units]
  | cons c cs ih =>
    rw [List.flatMap_cons, List.append_assoc, units_escapeChar, ih]
    simp

theorem decode_cons_unit (h : n < 0x20) (us : List Unit16) :
    decode (.unit n :: us) = (decode us).map (Char.ofNat n :: ·) := by
  have hhigh : isHigh n = false := by simp [isHigh]; omega
  have hlow : isLow n = false := by simp [isLow]; omega
  rcases us with - | ⟨u | m, us⟩ <;> simp [decode, hhigh, hlow]

theorem decode_map_unitOf (cs : List Char) : decode (cs.map unitOf) = some cs := by
  induction cs with
  | nil => rfl
  | cons c cs ih =>
    rw [List.map_cons, unitOf]
    split
    · rename_i h
      rw [decode_cons_unit h.2, ih, Option.map_some, Char.ofNat_toNat]
    · rw [decode, ih, Option.map_some]

theorem string_quote (s : String) (rest : List Char) :
    Read.string (s.toList.flatMap escapeChar ++ '"' :: rest) = some (s, rest) := by
  simp [Read.string, units_flatMap, decode_map_unitOf]

/-! Numbers -/

theorem head?_toDigits_ne (h : 0 < n) : (Nat.toDigits 10 n).head? ≠ some '0' := by
  induction n using Nat.strongRecOn with
  | _ n ih =>
    rw [Nat.toDigits_eq_if (by decide)]
    split
    · rename_i hlt
      have hdigit : ∀ d < 10, 0 < d → Nat.digitChar d ≠ '0' := by decide
      simpa using hdigit n hlt h
    · have hhead := ih (n / 10) (by omega) (by omega)
      rw [List.head?_append]
      cases hd : (Nat.toDigits 10 (n / 10)).head? with
      | none => exact absurd (List.head?_eq_none_iff.mp hd) Nat.toDigits_ne_nil
      | some d => simpa [hd] using hhead

theorem someDigits_toDigits (n : Nat) (rest : List Char) :
    someDigits (Nat.toDigits 10 n ++ '\n' :: rest) = some (Nat.toDigits 10 n, '\n' :: rest) := by
  have hall : ∀ c ∈ Nat.toDigits 10 n, c.isDigit := fun c hc =>
    Nat.isDigit_of_mem_toDigits (by decide) (by decide) hc
  have hdigits : digits (Nat.toDigits 10 n ++ '\n' :: rest) =
      (Nat.toDigits 10 n, '\n' :: rest) := by
    rw [digits, List.takeWhile_append_of_pos hall, List.dropWhile_append_of_pos hall]
    simp
  unfold someDigits
  rw [hdigits]
  split
  · rename_i heq
    simp at heq
  · rfl

theorem isDigit_of_toDigits (h : Nat.toDigits 10 n = c :: cs) : c.isDigit :=
  Nat.isDigit_of_mem_toDigits (by decide) (by decide) (h ▸ List.mem_cons_self)

theorem numeral_toDigits (n : Nat) (rest : List Char) :
    numeral (Nat.toDigits 10 n ++ '\n' :: rest) =
      some (⟨false, Nat.toDigits 10 n, none, none⟩, '\n' :: rest) := by
  have hlead : ¬ ((Nat.toDigits 10 n).head? = some '0' ∧ 1 < (Nat.toDigits 10 n).length) := by
    rintro ⟨hhead, hlength⟩
    rcases Nat.eq_zero_or_pos n with rfl | hpos
    · simp at hlength
    · exact head?_toDigits_ne hpos hhead
  have hsome := someDigits_toDigits n rest
  obtain ⟨d, ds, hd⟩ := List.exists_cons_of_ne_nil (Nat.toDigits_ne_nil (n := n) (b := 10))
  have hminus : d ≠ '-' := by
    rintro rfl
    exact absurd (isDigit_of_toDigits hd) (by decide)
  rw [hd] at hlead hsome ⊢
  rw [List.cons_append] at hsome ⊢
  simpa [numeral, hminus, hsome, fraction, exponent] using hlead

theorem ofNumeral?_toDigits (h : n < span 64) :
    ofNumeral? ⟨false, Nat.toDigits 10 n, none, none⟩ = some (.int n) := by
  have hnumber : Numeral.ofDigits (Nat.toDigits 10 n) = n := Nat.ofDigitChars_ten_toDigits
  simp [ofNumeral?, hnumber, h]

/-! Values, behind any blanks -/

theorem skipBlank_cons (h : Read.isBlank c) (cs : List Char) :
    skipBlank (c :: cs) = skipBlank cs := by
  rw [skipBlank, List.dropWhile_cons_of_pos h, skipBlank]

theorem skipBlank_of_not (h : Read.isBlank c = false) (cs : List Char) :
    skipBlank (c :: cs) = c :: cs := by
  rw [skipBlank, List.dropWhile_cons_of_neg (by simp [h])]

theorem skipBlank_idem (cs : List Char) : skipBlank (skipBlank cs) = skipBlank cs :=
  List.dropWhile_idempotent _ _

theorem toList_newLine (level : Nat) :
    (newLine level).toList = '\n' :: List.replicate (2 * level) ' ' := by
  simp [newLine]

theorem skipBlank_newLine (level : Nat) (cs : List Char) :
    skipBlank ((newLine level).toList ++ cs) = skipBlank cs := by
  have hall : ∀ c ∈ (newLine level).toList, Read.isBlank c := by
    intro c hc
    rw [toList_newLine, List.mem_cons, List.mem_replicate] at hc
    rcases hc with rfl | ⟨-, rfl⟩ <;> decide
  rw [skipBlank, List.dropWhile_append_of_pos hall, skipBlank]

theorem value_congr (h : skipBlank cs = skipBlank s) :
    value (fuel + 1) depth cs = value (fuel + 1) depth s := by
  rw [value, value, h]

theorem toList_quote (s : String) :
    (quote s).toList = '"' :: (s.toList.flatMap escapeChar ++ ['"']) := by
  simp [quote]

theorem value_space (cs : List Char) :
    value (fuel + 1) depth (' ' :: cs) = value (fuel + 1) depth cs :=
  value_congr (skipBlank_cons (by decide) cs)

theorem value_quote (s : String) (rest : List Char) :
    value (fuel + 1) depth ((quote s).toList ++ rest) = some (.str s, rest) := by
  have hskip : skipBlank ((quote s).toList ++ rest) =
      '"' :: (s.toList.flatMap escapeChar ++ '"' :: rest) := by
    rw [toList_quote, List.cons_append, List.append_assoc]
    exact skipBlank_of_not (by decide) _
  rw [value, hskip]
  simp only [string_quote, Option.map_some]

theorem value_toDigits (h : n < span 64) (rest : List Char) :
    value (fuel + 1) depth (Nat.toDigits 10 n ++ '\n' :: rest) =
      some (.int n, '\n' :: rest) := by
  have hread := numeral_toDigits n rest
  obtain ⟨d, ds, hd⟩ := List.exists_cons_of_ne_nil (Nat.toDigits_ne_nil (n := n) (b := 10))
  have hdigit := isDigit_of_toDigits hd
  have hne : ∀ c, c.isDigit = false → d ≠ c := by
    rintro c hc rfl
    simp [hc] at hdigit
  have hskip : skipBlank (Nat.toDigits 10 n ++ '\n' :: rest) =
      Nat.toDigits 10 n ++ '\n' :: rest := by
    rw [hd]
    simp [skipBlank, Read.isBlank, hne]
  rw [value, hskip]
  rw [hd, List.cons_append] at hread ⊢
  simp [hne, hread, ← hd, ofNumeral?_toDigits h]

/-! Arrays and objects -/

theorem value_arr {l : List Json} (hcs : skipBlank cs = c :: s) (hne : c ≠ ']')
    (h : items (fuel + 1) depth cs = some (l, rest)) :
    value (fuel + 2) (depth + 1) ('[' :: cs) = some (.arr l, rest) := by
  have hitems : items (fuel + 1) depth (c :: s) = items (fuel + 1) depth cs := by
    cases fuel with
    | zero => rfl
    | succ fuel =>
      rw [items, items, value_congr (s := cs)]
      rw [← hcs, skipBlank_idem]
  rw [value, skipBlank_of_not (by decide)]
  simp [hcs, hne, hitems, h]

theorem value_obj {l : List (String × Json)} (hcs : skipBlank cs = '"' :: s)
    (h : fields (fuel + 1) depth cs = some (l, rest)) :
    value (fuel + 2) (depth + 1) ('\x7b' :: cs) = some (.obj l, rest) := by
  have hfields : fields (fuel + 1) depth ('"' :: s) = fields (fuel + 1) depth cs := by
    rw [fields, fields, ← hcs, skipBlank_idem]
  rw [value, skipBlank_of_not (by decide)]
  simp [hcs, hfields, h]

theorem items_more {j : Json} {l : List Json} {mid : List Char}
    (hv : value fuel depth cs = some (j, mid)) (hmid : skipBlank mid = ',' :: s)
    (hl : items fuel depth s = some (l, rest)) :
    items (fuel + 1) depth cs = some (j :: l, rest) := by
  simp [items, hv, hmid, hl]

theorem items_last {j : Json} {mid : List Char} (hv : value fuel depth cs = some (j, mid))
    (hmid : skipBlank mid = ']' :: rest) : items (fuel + 1) depth cs = some ([j], rest) := by
  simp [items, hv, hmid]

section

variable {key : String} {j : Json} {l : List (String × Json)} {v mid : List Char}

theorem fields_more
    (hcs : skipBlank cs = '"' :: (key.toList.flatMap escapeChar ++ '"' :: ':' :: v))
    (hv : value fuel depth v = some (j, mid)) (hmid : skipBlank mid = ',' :: s)
    (hl : fields fuel depth s = some (l, rest)) :
    fields (fuel + 1) depth cs = some ((key, j) :: l, rest) := by
  have hcolon := skipBlank_of_not (c := ':') (by decide) v
  simp [fields, hcs, string_quote, hcolon, hv, hmid, hl]

theorem fields_last
    (hcs : skipBlank cs = '"' :: (key.toList.flatMap escapeChar ++ '"' :: ':' :: v))
    (hv : value fuel depth v = some (j, mid)) (hmid : skipBlank mid = '\x7d' :: rest) :
    fields (fuel + 1) depth cs = some ([(key, j)], rest) := by
  have hcolon := skipBlank_of_not (c := ':') (by decide) v
  simp [fields, hcs, string_quote, hcolon, hv, hmid]

end

/-! Tokens -/

def label (key : String) : List Char :=
  (newLine 2).toList ++ '"' :: (key.toList.flatMap escapeChar ++ ['"', ':'])

theorem skipBlank_label (key : String) (v : List Char) :
    skipBlank (label key ++ v) = '"' :: (key.toList.flatMap escapeChar ++ '"' :: ':' :: v) := by
  rw [label, List.append_assoc, skipBlank_newLine, List.cons_append, List.append_assoc]
  exact skipBlank_of_not (by decide) _

def tokenText (t : Token) : List Char :=
  '\x7b' :: (label "category" ++ ' ' :: ((quote t.category).toList ++
    ',' :: (label "text" ++ ' ' :: ((quote t.text).toList ++
      ',' :: (label "start" ++ ' ' :: (Nat.toDigits 10 t.start ++
        ((newLine 1).toList ++ ['\x7d']))))))) 

theorem toList_pretty_ofToken (t : Token) : ((ofToken t).pretty 1).toList = tokenText t := by
  have hint : toString (t.start : Int) = toString t.start := rfl
  simp [ofToken, pretty, prettyFields, block, label, tokenText, toList_quote, hint]

theorem value_tokenText (t : Token) (h : t.start < span 64) (rest : List Char) :
    value (fuel + 5) (depth + 1) (tokenText t ++ rest) = some (ofToken t, rest) := by
  simp only [tokenText, List.cons_append, List.append_assoc, List.nil_append]
  have hclose : skipBlank ((newLine 1).toList ++ '\x7d' :: rest) = '\x7d' :: rest := by
    rw [skipBlank_newLine, skipBlank_of_not (by decide)]
  have hstart : fields (fuel + 2) depth (label "start" ++ ' ' :: (Nat.toDigits 10 t.start ++
      ((newLine 1).toList ++ '\x7d' :: rest))) = some ([("start", .int t.start)], rest) := by
    refine fields_last (skipBlank_label _ _) ?_ hclose
    rw [value_space, toList_newLine, List.cons_append, value_toDigits h]
  have hstring : ∀ (k : Nat) (s : String) (rest : List Char),
      value (k + 1) depth (' ' :: ((quote s).toList ++ rest)) = some (.str s, rest) :=
    fun k s rest => (value_space _).trans (value_quote s rest)
  have htext := fields_more (skipBlank_label "text" _) (hstring (fuel + 1) t.text _)
    (skipBlank_of_not (c := ',') (by decide) _) hstart
  have hobject := fields_more (skipBlank_label "category" _) (hstring (fuel + 2) t.category _)
    (skipBlank_of_not (c := ',') (by decide) _) htext
  exact value_obj (skipBlank_label "category" _) hobject

/-! Lists of tokens -/

def tokenTexts : List Token → List Char
  | [] => []
  | [t] => (newLine 1).toList ++ (tokenText t ++ ((newLine 0).toList ++ [']']))
  | t :: tokens => (newLine 1).toList ++ (tokenText t ++ ',' :: tokenTexts tokens)

theorem toList_intercalate_prettyItems (t : Token) (tokens : List Token) :
    (newLine 1).toList ++
      ((("," ++ newLine 1).intercalate (prettyItems 1 ((t :: tokens).map ofToken))).toList ++
        ((newLine 0).toList ++ [']'])) = tokenTexts (t :: tokens) := by
  induction tokens generalizing t with
  | nil => simp [prettyItems, tokenTexts, toList_pretty_ofToken]
  | cons u tokens ih =>
    rw [tokenTexts, ← ih u]
    · simp [prettyItems, String.intercalate_cons_cons, toList_pretty_ofToken]
    · exact List.cons_ne_nil _ _

theorem toList_pretty_ofTokens (t : Token) (tokens : List Token) :
    ((ofTokens (t :: tokens)).pretty 0).toList = '[' :: tokenTexts (t :: tokens) := by
  rw [← toList_intercalate_prettyItems]
  simp [ofTokens, pretty, block, prettyItems]

theorem length_le_length_tokenTexts (t : Token) (tokens : List Token) :
    tokens.length + 6 ≤ (tokenTexts (t :: tokens)).length := by
  have hlength : ∀ t : Token, 6 ≤ (tokenText t).length := by
    intro t
    simp only [tokenText, label, List.length_cons, List.length_append]
    omega
  induction tokens generalizing t with
  | nil =>
    have ht := hlength t
    simp only [tokenTexts, List.length_append, List.length_nil]
    omega
  | cons u tokens ih =>
    have hrest := ih u
    rw [tokenTexts]
    · simp only [List.length_append, List.length_cons] at hrest ⊢
      omega
    · exact List.cons_ne_nil _ _

theorem skipBlank_tokenTexts (t : Token) (tokens : List Token) :
    ∃ rest, skipBlank (tokenTexts (t :: tokens)) = '\x7b' :: rest := by
  have hskip : ∀ rest, skipBlank ((newLine 1).toList ++ (tokenText t ++ rest)) =
      tokenText t ++ rest := fun rest =>
    (skipBlank_newLine 1 _).trans (skipBlank_of_not (by decide) _)
  cases tokens with
  | nil => exact ⟨_, hskip _⟩
  | cons u tokens =>
    rw [tokenTexts]
    · exact ⟨_, hskip _⟩
    · exact List.cons_ne_nil _ _

theorem items_tokenTexts (t : Token) (tokens : List Token)
    (h : ∀ u ∈ t :: tokens, u.start < span 64) :
    items (tokens.length + fuel + 6) (depth + 1) (tokenTexts (t :: tokens)) =
      some ((t :: tokens).map ofToken, []) := by
  have hvalue : ∀ (k : Nat) (t : Token) (rest : List Char), t.start < span 64 →
      value (k + 5) (depth + 1) ((newLine 1).toList ++ (tokenText t ++ rest)) =
        some (ofToken t, rest) := fun k t rest ht =>
    (value_congr (skipBlank_newLine 1 _)).trans (value_tokenText t ht rest)
  induction tokens generalizing t with
  | nil =>
    have hclose : skipBlank ((newLine 0).toList ++ [']']) = [']'] := by
      rw [skipBlank_newLine, skipBlank_of_not (by decide)]
    exact items_last (hvalue _ t _ (h t List.mem_cons_self)) hclose
  | cons u tokens ih =>
    have hrest := ih u fun v hv => h v (List.mem_cons_of_mem _ hv)
    have hfuel : (u :: tokens).length + fuel + 6 = (tokens.length + fuel + 6) + 1 := by
      rw [List.length_cons]
      omega
    rw [hfuel, tokenTexts]
    · exact items_more (hvalue _ t _ (h t List.mem_cons_self))
        (skipBlank_of_not (by decide) _) hrest
    · exact List.cons_ne_nil _ _

theorem parse?_pretty_ofTokens (tokens : List Token) (h : ∀ t ∈ tokens, t.start < span 64) :
    parse? ((ofTokens tokens).pretty 0) = some (ofTokens tokens) := by
  cases tokens with
  | nil => rfl
  | cons t tokens =>
    obtain ⟨s, hs⟩ := skipBlank_tokenTexts t tokens
    have hlength := length_le_length_tokenTexts t tokens
    have hitems := @items_tokenTexts (2 * (tokenTexts (t :: tokens)).length - tokens.length - 3) 125
      t tokens h
    have hread : read ('[' :: tokenTexts (t :: tokens)) = some (ofTokens (t :: tokens), []) := by
      rw [read, List.length_cons]
      refine Eq.trans (congrArg (value · maxDepth _) ?_) (value_arr hs (by decide) hitems)
      omega
    rw [parse?, toList_pretty_ofTokens, hread]
    rfl

def token? : Json → Option Token
  | obj [("category", str category), ("text", str text), ("start", int start)] =>
    some ⟨category, text, start.toNat⟩
  | _ => none

def readTokens (text : String) : Option (List Token) :=
  match parse? text with
  | some (arr l) => l.mapM token?
  | _ => none

theorem readTokens_pretty (tokens : List Token) (h : ∀ t ∈ tokens, t.start < span 64) :
    readTokens ((ofTokens tokens).pretty 0) = some tokens := by
  rw [readTokens, parse?_pretty_ofTokens tokens h]
  exact mapM_map_eq_some fun _ _ => rfl

end Lexicon.Json
