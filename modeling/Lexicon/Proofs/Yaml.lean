import Mathlib.Data.List.Induction
import Lexicon.Json.Read
import Lexicon.Proofs.Quoted
import Lexicon.Yaml

namespace Lexicon.Yaml

open Text

variable {c e : Char} {cs s rest tail : List Char} {afterBreak : Bool} {k n w : Nat}

/-! Between double quotes -/

def ofShortEscape? : Char → Option Char
  | '0' => some '\x00'
  | 'a' => some '\x07'
  | 'b' => some '\x08'
  | 't' => some '\t'
  | 'n' => some '\n'
  | 'v' => some '\x0b'
  | 'f' => some '\x0c'
  | 'r' => some '\r'
  | 'e' => some '\x1b'
  | '"' => some '"'
  | '\\' => some '\\'
  | 'N' => some '\u0085'
  | 'L' => some '\u2028'
  | 'P' => some '\u2029'
  | _ => none

def width? : Char → Option Nat
  | 'x' => some 2
  | 'u' => some 4
  | 'U' => some 8
  | _ => none

def readChar : List Char → Option (Char × List Char)
  | [] => none
  | '\\' :: e :: rest =>
    match width? e with
    | some w => do
      let n ← hexNumber? (rest.take w)
      let c ← charOfCode? n
      return (c, rest.drop w)
    | none => (ofShortEscape? e).map (·, rest)
  | c :: rest => if c = '"' ∨ c = '\\' then none else some (c, rest)

theorem length_lt_of_readChar (h : readChar cs = some (c, rest)) : rest.length < cs.length := by
  unfold readChar at h
  split at h
  · cases h
  · split at h
    · simp only [Option.bind_eq_bind, Option.bind_eq_some_iff] at h
      obtain ⟨_, _, _, _, h⟩ := h
      cases h
      simp only [List.length_drop, List.length_cons]
      omega
    · simp only [Option.map_eq_some_iff] at h
      obtain ⟨_, _, h⟩ := h
      cases h
      simp only [List.length_cons]
      omega
  · split at h
    · cases h
    · cases h
      simp

def readDouble (cs : List Char) : Option (List Char × List Char) :=
  match cs with
  | '"' :: rest => some ([], rest)
  | cs =>
    match _h : readChar cs with
    | none => none
    | some (c, rest) => (readDouble rest).map fun (s, rest) => (c :: s, rest)
termination_by cs.length
decreasing_by exact length_lt_of_readChar _h

theorem of_shortEscape? (h : shortEscape? c = some e) :
    width? e = none ∧ ofShortEscape? e = some c := by
  unfold shortEscape? at h
  split at h <;> cases h <;> decide

theorem ne_of_shortEscape?_eq_none (h : shortEscape? c = none) : c ≠ '"' ∧ c ≠ '\\' := by
  constructor <;>
    · rintro rfl
      cases h

theorem hexValue?_toUpper_digitChar (h : n < 16) : hexValue? n.digitChar.toUpper = some n := by
  revert h
  revert n
  decide

theorem hexNumber?_append (s cs : List Char) :
    hexNumber? (s ++ cs) = (hexNumber? s).bind fun n =>
      cs.foldlM (fun n c => (hexValue? c).map (16 * n + ·)) n := by
  rw [hexNumber?, List.foldlM_append]
  rfl

theorem hexNumber?_map_toUpper (n : Nat) :
    hexNumber? ((Nat.toDigits 16 n).map Char.toUpper) = some n := by
  induction n using Nat.strongRecOn with
  | _ n ih =>
    rw [Nat.toDigits_eq_if (by decide)]
    split
    · rename_i hlt
      simp [hexNumber?, hexValue?_toUpper_digitChar hlt]
    · have hdigit : n % 16 < 16 := Nat.mod_lt n (by decide)
      rw [List.map_append, List.map_singleton, hexNumber?_append_singleton, ih (n / 16) (by omega),
        Option.bind_some, hexValue?_toUpper_digitChar hdigit, Option.map_some, Nat.div_add_mod]

theorem hexNumber?_replicate_append (k : Nat) (s : List Char) :
    hexNumber? (List.replicate k '0' ++ s) = hexNumber? s := by
  have hzeros : hexNumber? (List.replicate k '0') = some 0 := by
    induction k with
    | zero => rfl
    | succ k ih =>
      rw [List.replicate_succ', hexNumber?_append_singleton, ih]
      rfl
  rw [hexNumber?_append, hzeros]
  rfl

theorem hexNumber?_hexPadded (w n : Nat) : hexNumber? (hexPadded w n) = some n := by
  rw [hexPadded, hexNumber?_replicate_append, hexNumber?_map_toUpper]

theorem length_hexPadded (hw : 0 < w) (h : n < Nat.pow 16 w) : (hexPadded w n).length = w := by
  have hle := (Nat.length_toDigits_le_iff (b := 16) (by decide) hw).mpr h
  simp only [hexPadded, List.length_append, List.length_replicate, List.length_map]
  omega

theorem readChar_hexPadded (hw : width? e = some w) (hpos : 0 < w) (h : c.toNat < Nat.pow 16 w) :
    readChar ('\\' :: e :: (hexPadded w c.toNat ++ rest)) = some (c, rest) := by
  have hlength := length_hexPadded hpos h
  simp only [readChar, hw]
  rw [List.take_left' hlength, List.drop_left' hlength, hexNumber?_hexPadded]
  simp [charOfCode?_toNat]

theorem readChar_escapeChar (c : Char) (rest : List Char) :
    readChar (escapeChar c ++ rest) = some (c, rest) := by
  unfold escapeChar
  split
  · rename_i e he
    obtain ⟨hwidth, hread⟩ := of_shortEscape? he
    simp [readChar, hwidth, hread]
  · rename_i hnone
    obtain ⟨hquote, hbackslash⟩ := ne_of_shortEscape?_eq_none hnone
    split
    · simp [readChar, hquote, hbackslash]
    · split
      · exact readChar_hexPadded (e := 'x') rfl (by decide) (show c.toNat < 0x100 by omega)
      · split
        · exact readChar_hexPadded (e := 'u') rfl (by decide) (show c.toNat < 0x10000 by omega)
        · refine readChar_hexPadded (e := 'U') rfl (by decide) ?_
          rcases c.valid with hlt | hlt
          · exact Nat.lt_trans hlt (by decide)
          · exact Nat.lt_trans hlt.2 (by decide)

theorem head?_escapeChar_append_ne (c : Char) (rest : List Char) :
    (escapeChar c ++ rest).head? ≠ some '"' := by
  unfold escapeChar
  split
  · simp
  · rename_i hnone
    have hne := (ne_of_shortEscape?_eq_none hnone).1
    split
    · simp [hne]
    · split
      · simp
      · split <;> simp

theorem readDouble_of_readChar (hquote : s.head? ≠ some '"') (h : readChar s = some (c, rest)) :
    readDouble s = (readDouble rest).map fun (s, rest) => (c :: s, rest) := by
  rw [readDouble]
  · split <;> simp_all
  · rintro rest rfl
    simp at hquote

theorem readDouble_flatMap (cs rest : List Char) :
    readDouble (cs.flatMap escapeChar ++ '"' :: rest) = some (cs, rest) := by
  induction cs with
  | nil => simp [readDouble]
  | cons c cs ih =>
    rw [List.flatMap_cons, List.append_assoc, readDouble_of_readChar
      (head?_escapeChar_append_ne c _) (readChar_escapeChar c _), ih]
    rfl

/-! Between single quotes. Here `skip` spaces may still belong to an indent. -/

def readSingle (skip : Nat) : List Char → Option (List Char × List Char)
  | [] => none
  | '\x27' :: '\x27' :: rest => (readSingle 0 rest).map fun (s, rest) => ('\x27' :: s, rest)
  | '\x27' :: rest => some ([], rest)
  | c :: rest =>
    if isBreak c then (readSingle 4 rest).map fun (s, rest) => (c :: s, rest)
    else if c = ' ' ∧ 0 < skip then readSingle (skip - 1) rest
    else (readSingle 0 rest).map fun (s, rest) => (c :: s, rest)

def endsBehindBreak (afterBreak : Bool) (cs : List Char) : Bool :=
  (cs.getLast?.map isBreak).getD afterBreak

theorem endsBehindBreak_cons (afterBreak : Bool) (c : Char) (cs : List Char) :
    endsBehindBreak afterBreak (c :: cs) = endsBehindBreak (isBreak c) cs := by
  cases cs with
  | nil => rfl
  | cons d cs => simp [endsBehindBreak, List.getLast?_cons]

def skipOf (afterBreak : Bool) : Nat := if afterBreak then 4 else 0

theorem readSingle_indent (hc : c ≠ ' ') (hbreak : isBreak c = false) (cs : List Char) :
    readSingle 4 (indent ++ c :: cs) = readSingle 0 (c :: cs) := by
  have hspace : isBreak ' ' = false := by decide
  by_cases hquote : c = '\x27'
  · subst hquote
    cases cs with
    | nil => simp [indent, readSingle, hspace]
    | cons d cs =>
      by_cases hd : d = '\x27'
      · simp [indent, readSingle, hspace, hd]
      · simp [indent, readSingle, hspace, hd]
  · simp [indent, readSingle, hspace, hc, hquote, hbreak]

theorem readSingle_quoted (k : Nat) (cs : List Char) :
    readSingle k ('\x27' :: '\x27' :: cs) =
      (readSingle 0 cs).map fun (s, rest) => ('\x27' :: s, rest) := by
  rw [readSingle]

theorem readSingle_of_ne (hc : c ≠ '\x27') (hskip : c = ' ' → k = 0) (cs : List Char) :
    readSingle k (c :: cs) =
      (readSingle (skipOf (isBreak c)) cs).map fun (s, rest) => (c :: s, rest) := by
  rw [readSingle]
  · by_cases hbreak : isBreak c
    · simp [hbreak, skipOf]
    · have hnot : ¬ (c = ' ' ∧ 0 < k) := fun h => by simp [hskip h.1] at h
      simp [hbreak, hnot, skipOf]
  · rintro _ rfl
    exact absurd rfl hc
  · rintro rfl
    exact absurd rfl hc

def spaceBehindBreak (afterBreak : Bool) (cs : List Char) : Bool :=
  (afterBreak && cs.head? == some ' ') || breakBeforeSpace cs

theorem spaceBehindBreak_cons (afterBreak : Bool) (c : Char) (cs : List Char) :
    spaceBehindBreak afterBreak (c :: cs) =
      ((afterBreak && c == ' ') || spaceBehindBreak (isBreak c) cs) := by
  cases cs <;> simp [breakBeforeSpace, spaceBehindBreak]

def twice (c : Char) : List Char := if c == '\x27' then [c, c] else [c]

theorem readSingle_twice (hspace : c ≠ ' ') (hbreak : isBreak c = false) (cs : List Char) :
    readSingle 0 (twice c ++ cs) = (readSingle 0 cs).map fun (s, rest) => (c :: s, rest) := by
  by_cases hc : c = '\x27'
  · subst hc
    exact readSingle_quoted 0 cs
  · have htwice : twice c = [c] := by simp [twice, hc]
    rw [htwice, List.singleton_append, readSingle_of_ne hc (fun h => absurd h hspace), hbreak]
    rfl

theorem readSingle_indent_twice (hspace : c ≠ ' ') (hbreak : isBreak c = false) (cs : List Char) :
    readSingle (skipOf afterBreak) ((if afterBreak then indent else []) ++ twice c ++ cs) =
      (readSingle 0 cs).map fun (s, rest) => (c :: s, rest) := by
  cases afterBreak with
  | false => exact readSingle_twice hspace hbreak cs
  | true =>
    rw [← readSingle_twice hspace hbreak cs, if_pos rfl, List.append_assoc]
    by_cases hc : c = '\x27'
    · subst hc
      exact readSingle_indent (by decide) (by decide) _
    · have htwice : twice c = [c] := by simp [twice, hc]
      rw [htwice]
      exact readSingle_indent hspace hbreak cs

theorem readSingle_indentedSpaces (h : spaceBehindBreak afterBreak cs = false)
    (tail : List Char) :
    readSingle (skipOf afterBreak) (single.indentedSpaces twice afterBreak cs ++ tail) =
      (readSingle (skipOf (endsBehindBreak afterBreak cs)) tail).map
        fun (s, rest) => (cs ++ s, rest) := by
  induction cs generalizing afterBreak with
  | nil => simp [single.indentedSpaces, endsBehindBreak]
  | cons c cs ih =>
    rw [spaceBehindBreak_cons, Bool.or_eq_false_iff] at h
    rw [single.indentedSpaces, endsBehindBreak_cons]
    by_cases hbreak : isBreak c
    · have hquote : c ≠ '\x27' := by
        rintro rfl
        exact absurd hbreak (by decide)
      have hspace : c ≠ ' ' := by
        rintro rfl
        exact absurd hbreak (by decide)
      rw [if_pos hbreak, List.cons_append, readSingle_of_ne hquote (absurd · hspace), hbreak,
        ih (hbreak ▸ h.2)]
      simp [Function.comp_def]
    · rw [if_neg hbreak]
      rw [Bool.not_eq_true] at hbreak
      rw [hbreak] at h ⊢
      by_cases hspace : c = ' '
      · subst hspace
        obtain rfl : afterBreak = false := by simpa using h.1
        rw [if_pos (by decide), List.cons_append,
          readSingle_of_ne (c := ' ') (k := skipOf false) (by decide) (fun _ => rfl), hbreak, ih h.2]
        simp [Function.comp_def]
      · have hrest : readSingle 0 (single.indentedSpaces twice false cs ++ tail) = _ := ih h.2
        rw [if_neg (by simpa using hspace), List.append_assoc,
          readSingle_indent_twice hspace hbreak, hrest]
        simp [Function.comp_def]

theorem readSingle_close (hrest : rest.head? ≠ some '\x27') (afterBreak : Bool) :
    readSingle (skipOf afterBreak) ((if afterBreak then indent else []) ++ '\x27' :: rest) =
      some ([], rest) := by
  have hend : readSingle 0 ('\x27' :: rest) = some ([], rest) := by
    cases rest with
    | nil => simp [readSingle]
    | cons d rest =>
      have hd : d ≠ '\x27' := by simpa using hrest
      simp [readSingle, hd]
  cases afterBreak with
  | false => exact hend
  | true => exact (readSingle_indent (by decide) (by decide) rest).trans hend

theorem readSingle_single (h : breakBeforeSpace cs = false) (hrest : rest.head? ≠ some '\x27') :
    ∃ s, single cs ++ rest = '\x27' :: s ∧ readSingle 0 s = some (cs, rest) := by
  have hclose : (if cs.getLast?.any isBreak then indent else []) =
      if endsBehindBreak false cs then indent else [] := by
    cases hlast : cs.getLast? <;> simp [endsBehindBreak, hlast]
  have hsingle : single cs = '\x27' :: single.indentedSpaces twice false cs ++
      (if endsBehindBreak false cs then indent else []) ++ ['\x27'] := by
    rw [← hclose]
    rfl
  have hbehind : spaceBehindBreak false cs = false := by simpa [spaceBehindBreak] using h
  have hall := readSingle_indentedSpaces hbehind
    ((if endsBehindBreak false cs then indent else []) ++ '\x27' :: rest)
  rw [readSingle_close hrest] at hall
  have hread : readSingle 0 (single.indentedSpaces twice false cs ++
      ((if endsBehindBreak false cs then indent else []) ++ '\x27' :: rest)) = some (cs, rest) := by
    simpa [skipOf] using hall
  exact ⟨_, by rw [hsingle]; simp, hread⟩

/-! Literal blocks. A block ends where a line is neither empty nor indented. -/

def readBlock (afterBreak : Bool) (cs : List Char) : List Char × List Char :=
  match afterBreak, cs with
  | true, ' ' :: ' ' :: ' ' :: ' ' :: rest => readBlock false rest
  | _, [] => ([], [])
  | afterBreak, c :: rest =>
    if afterBreak && !isBreak c then ([], c :: rest)
    else
      let (s, rest) := readBlock (isBreak c) rest
      (c :: s, rest)
termination_by cs.length

theorem readBlock_cons (hc : afterBreak → isBreak c) (cs : List Char) :
    readBlock afterBreak (c :: cs) =
      (c :: (readBlock (isBreak c) cs).1, (readBlock (isBreak c) cs).2) := by
  rw [readBlock]
  · cases afterBreak with
    | false => simp
    | true => simp [hc rfl]
  · rintro rest rfl heq
    cases heq
    exact absurd (hc rfl) (by decide)

theorem readBlock_indented (cs tail : List Char) :
    readBlock afterBreak (indented (fun c => [c]) afterBreak cs ++ tail) =
      (cs ++ (readBlock (endsBehindBreak afterBreak cs) tail).1,
        (readBlock (endsBehindBreak afterBreak cs) tail).2) := by
  induction cs generalizing afterBreak with
  | nil => rfl
  | cons c cs ih =>
    rw [indented, endsBehindBreak_cons]
    by_cases hbreak : isBreak c
    · rw [if_pos hbreak, List.cons_append, readBlock_cons (fun _ => hbreak), hbreak, ih]
      rfl
    · have hfirst : readBlock afterBreak ((if afterBreak then indent else []) ++ ([c] ++
          (indented (fun c => [c]) false cs ++ tail))) =
          readBlock false (c :: (indented (fun c => [c]) false cs ++ tail)) := by
        cases afterBreak with
        | false => rfl
        | true =>
          rw [if_pos rfl, indent]
          simp only [List.cons_append, List.nil_append]
          rw [readBlock]
      rw [if_neg hbreak, List.append_assoc, List.append_assoc, hfirst,
        readBlock_cons (fun h => by cases h)]
      rw [Bool.not_eq_true] at hbreak
      rw [hbreak, ih]
      rfl

theorem getLast?_indented (cs : List Char) (afterBreak : Bool) :
    (indented (fun c => [c]) afterBreak cs).getLast? = cs.getLast? := by
  induction cs generalizing afterBreak with
  | nil => rfl
  | cons c cs ih =>
    rw [indented]
    split
    · rw [List.getLast?_cons, List.getLast?_cons, ih]
    · rw [List.append_assoc, List.getLast?_append, List.singleton_append, List.getLast?_cons,
        List.getLast?_cons, ih]
      rfl

theorem lineFeed_not_mem_blockHints (cs : List Char) : '\n' ∉ blockHints cs := by
  unfold blockHints
  split <;> split <;> (try split) <;> (try split) <;> simp

theorem dash_mem_blockHints_iff (hne : cs ≠ []) :
    '-' ∈ blockHints cs ↔ endsBehindBreak true cs = false := by
  cases cs using List.reverseRecOn with
  | nil => exact absurd rfl hne
  | append_singleton init c =>
    have hfirst : ∀ l : List Char, '-' ∈ (if (init ++ [c]).head?.any fun c => c == ' ' || isBreak c
        then ['2'] else []) ++ l ↔ '-' ∈ l := by
      intro l
      split <;> simp
    rw [blockHints, hfirst, List.reverse_append, List.reverse_singleton, List.singleton_append]
    cases init.reverse with
    | nil => cases hc : isBreak c <;> simp [endsBehindBreak, hc]
    | cons d _ => cases hc : isBreak c <;> cases isBreak d <;> simp [endsBehindBreak, hc]

/-! Values -/

def endOfLine : List Char → Option (List Char)
  | '\n' :: rest => some rest
  | _ => none

def readValue : List Char → Option (List Char × List Char)
  | '|' :: rest => do
    let (hints, rest) ← Html.cutAt '\n' rest
    let (s, rest) := readBlock true rest
    return (if '-' ∈ hints then s.dropLast else s, rest)
  | '"' :: rest => do
    let (s, rest) ← readDouble rest
    return (s, ← endOfLine rest)
  | '\x27' :: rest => do
    let (s, rest) ← readSingle 0 rest
    return (s, ← endOfLine rest)
  | cs => Html.cutAt '\n' cs

theorem readValue_double (cs rest : List Char) :
    readValue (endLine (double cs) ++ rest) = some (cs, rest) := by
  have hlast : (double cs).getLast? = some '"' := List.getLast?_concat
  have hline : endLine (double cs) = double cs ++ ['\n'] := by
    rw [endLine, hlast, if_neg (by decide)]
  have hread := readDouble_flatMap cs ('\n' :: rest)
  rw [hline, double]
  simp only [List.cons_append, List.append_assoc, List.nil_append, readValue, hread]
  rfl

theorem readValue_single (h : breakBeforeSpace cs = false) (rest : List Char) :
    readValue (endLine (single cs) ++ rest) = some (cs, rest) := by
  have hlast : (single cs).getLast? = some '\x27' := List.getLast?_concat
  have hline : endLine (single cs) = single cs ++ ['\n'] := by
    rw [endLine, hlast, if_neg (by decide)]
  have hquote : ('\n' :: rest).head? ≠ some '\x27' := by simp
  obtain ⟨s, heq, hread⟩ := readSingle_single h hquote
  rw [hline, List.append_assoc, List.singleton_append, heq]
  simp only [readValue, hread]
  rfl

theorem readValue_plain (hstart : startsIndicator cs = false) (hline : '\n' ∉ cs)
    (hbreak : ∀ c ∈ cs, isBreak c = false) (rest : List Char) :
    readValue (endLine cs ++ rest) = some (cs, rest) := by
  have hend : endLine cs = cs ++ ['\n'] := by
    have hlast : cs.getLast?.any isBreak = false := by
      cases hl : cs.getLast? with
      | none => rfl
      | some c => exact hbreak c (List.mem_of_getLast? hl)
    simp [endLine, hlast]
  rw [hend, List.append_assoc, List.singleton_append, readValue]
  · exact Html.cutAt_append hline
  all_goals
    rintro s heq
    cases cs with
    | nil => cases heq
    | cons c cs =>
      cases heq
      simp [startsIndicator] at hstart

theorem readValue_block (hne : cs ≠ []) (hrest : readBlock true rest = ([], rest)) :
    readValue (endLine (block cs) ++ rest) = some (cs, rest) := by
  obtain ⟨c, hc⟩ := Option.ne_none_iff_exists'.mp (mt List.getLast?_eq_none_iff.mp hne)
  have hlast : (block cs).getLast?.any isBreak = endsBehindBreak true cs := by
    rw [block, List.getLast?_append, List.getLast?_cons, getLast?_indented]
    simp [endsBehindBreak, hc]
  have hblock : endLine (block cs) ++ rest = '|' :: (blockHints cs ++ '\n' ::
      (indented (fun c => [c]) true cs ++
        if endsBehindBreak true cs then rest else '\n' :: rest)) := by
    rw [endLine, hlast, block]
    split <;> simp
  have hcontent : readBlock true (indented (fun c => [c]) true cs ++
      if endsBehindBreak true cs then rest else '\n' :: rest) =
      (if endsBehindBreak true cs then cs else cs ++ ['\n'], rest) := by
    rw [readBlock_indented]
    cases endsBehindBreak true cs with
    | true => simp [hrest]
    | false =>
      have hfeed : isBreak '\n' = true := by decide
      simp [readBlock_cons, hfeed, hrest]
  rw [hblock]
  simp only [readValue, Html.cutAt_append (lineFeed_not_mem_blockHints cs),
    Option.bind_eq_bind, Option.bind_some, hcontent, dash_mem_blockHints_iff hne]
  cases endsBehindBreak true cs <;> simp

theorem readValue_scalar (s : String) (hrest : readBlock true rest = ([], rest)) :
    readValue (endLine (scalar s) ++ rest) = some (s.toList, rest) := by
  unfold scalar
  dsimp only
  split
  · rename_i hline
    split
    · exact readValue_block (by rintro heq; simp [heq] at hline) hrest
    · exact readValue_double _ _
  · rename_i hline
    split
    · rename_i hplain
      simp only [plainAllowed, Bool.and_eq_true, Bool.not_eq_true', List.all_eq_true] at hplain
      refine readValue_plain hplain.2.1.1.1.1.2 (by simpa using hline) ?_ _
      exact fun c hc => by simpa using (hplain.2.1.1.2 c hc).2
    · split
      · rename_i hsingle
        simp only [singleAllowed, Bool.and_eq_true, Bool.not_eq_true'] at hsingle
        exact readValue_single hsingle.2 _
      · exact readValue_double _ _

/-! Lists of tokens -/

def readToken (cs : List Char) : Option (Token × List Char) := do
  let cs ← Json.Read.word "- category: " cs
  let (category, cs) ← readValue cs
  let cs ← Json.Read.word "  text: " cs
  let (text, cs) ← readValue cs
  let cs ← Json.Read.word "  start: " cs
  let (start, cs) ← Html.cutAt '\n' cs
  return (⟨.ofList category, .ofList text, Numeral.ofDigits start⟩, cs)

def readTokens : Nat → List Char → Option (List Token)
  | _, [] => some []
  | 0, _ => none
  | fuel + 1, cs => do
    let (t, cs) ← readToken cs
    return t :: (← readTokens fuel cs)

def read (text : String) : Option (List Token) :=
  if text = "[]\n" then some [] else readTokens text.length text.toList

theorem word_append (w : String) (rest : List Char) :
    Json.Read.word w (w.toList ++ rest) = some rest := by
  have hprefix : w.toList.isPrefixOf (w.toList ++ rest) := by simp
  rw [Json.Read.word, if_pos hprefix, List.drop_left' String.length_toList]

theorem readBlock_of_head (hne : c ≠ ' ') (rest : List Char) :
    readBlock true (' ' :: ' ' :: c :: rest) = ([], ' ' :: ' ' :: c :: rest) := by
  rw [readBlock]
  · rw [if_pos (by decide)]
  · rintro s - - heq
    simp [hne] at heq

theorem readBlock_text (rest : List Char) :
    readBlock true ("  text: ".toList ++ rest) = ([], "  text: ".toList ++ rest) := by
  have hlist : "  text: ".toList = [' ', ' ', 't', 'e', 'x', 't', ':', ' '] := by decide
  rw [hlist]
  exact readBlock_of_head (by decide) _

theorem readBlock_start (rest : List Char) :
    readBlock true ("  start: ".toList ++ rest) = ([], "  start: ".toList ++ rest) := by
  have hlist : "  start: ".toList = [' ', ' ', 's', 't', 'a', 'r', 't', ':', ' '] := by decide
  rw [hlist]
  exact readBlock_of_head (by decide) _

theorem readToken_token (t : Token) (rest : List Char) :
    readToken (token t ++ rest) = some (t, rest) := by
  have hstart : Html.cutAt '\n' (Nat.toDigits 10 t.start ++ '\n' :: rest) =
      some (Nat.toDigits 10 t.start, rest) := by
    apply Html.cutAt_append
    intro h
    have hdigit := Nat.isDigit_of_mem_toDigits (by decide) (by decide) h
    exact absurd hdigit (by decide)
  have hnumber : Numeral.ofDigits (Nat.toDigits 10 t.start) = t.start :=
    Nat.ofDigitChars_ten_toDigits
  unfold token readToken
  simp only [List.append_assoc, List.singleton_append, Option.bind_eq_bind, Option.pure_def]
  rw [word_append, Option.bind_some, readValue_scalar t.category (readBlock_text _),
    Option.bind_some, word_append, Option.bind_some, readValue_scalar t.text (readBlock_start _),
    Option.bind_some, word_append, Option.bind_some, hstart, Option.bind_some]
  simp only [hnumber, String.ofList_toList]

theorem token_ne_nil (t : Token) : token t ≠ [] := by
  unfold token
  simp

theorem length_le_length_flatMap (tokens : List Token) :
    tokens.length ≤ (tokens.flatMap token).length := by
  induction tokens with
  | nil => simp
  | cons t tokens ih =>
    have hpos := List.length_pos_iff.mpr (token_ne_nil t)
    rw [List.flatMap_cons, List.length_append, List.length_cons]
    omega

theorem readTokens_flatMap (tokens : List Token) {fuel : Nat} (h : tokens.length ≤ fuel) :
    readTokens fuel (tokens.flatMap token) = some tokens := by
  induction tokens generalizing fuel with
  | nil => cases fuel <;> rfl
  | cons t tokens ih =>
    cases fuel with
    | zero => simp at h
    | succ fuel =>
      have hread : readTokens (fuel + 1) (token t ++ tokens.flatMap token) =
          (readToken (token t ++ tokens.flatMap token)).bind fun (t, cs) =>
            (readTokens fuel cs).bind fun tokens => some (t :: tokens) := by
        rw [readTokens]
        · rfl
        · exact fun h => token_ne_nil t (List.append_eq_nil_iff.mp h).1
      rw [List.flatMap_cons, hread, readToken_token, Option.bind_some]
      dsimp only
      rw [ih (by simpa using h), Option.bind_some]

theorem read_render (tokens : List Token) : read (render tokens) = some tokens := by
  cases tokens with
  | nil => simp [render, read]
  | cons t tokens =>
    have hne : (t :: tokens).flatMap token ≠ "[]\n".toList := by
      have hhead : ((t :: tokens).flatMap token).head? = some '-' := by
        unfold token
        simp
      intro heq
      rw [heq] at hhead
      exact absurd hhead (by decide)
    have hrender : render (t :: tokens) = .ofList ((t :: tokens).flatMap token) := rfl
    rw [hrender, read, if_neg, String.toList_ofList, String.length_ofList,
      readTokens_flatMap _ (length_le_length_flatMap _)]
    intro heq
    exact hne (by rw [← heq, String.toList_ofList])

end Lexicon.Yaml
