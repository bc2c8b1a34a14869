import Lexicon.Text.Numeral
import Lexicon.Token

namespace Lexicon.Yaml

open Text

def isPrintable (c : Char) : Bool :=
  let n := c.toNat
  n = 0xA || (0x20 ≤ n && n ≤ 0x7E) || n = 0x85 || (0xA0 ≤ n && n ≤ 0xD7FF) ||
    (0xE000 ≤ n && n ≤ 0xFFFD && n ≠ 0xFEFF) || 0x10000 ≤ n

def isBreak (c : Char) : Bool :=
  c == '\n' || c == '\r' || c == '\u0085' || c == '\u2028' || c == '\u2029'

def isGap (c : Option Char) : Bool := c.all fun c => c == ' ' || c == '\t' || isBreak c

def spaceBeforeBreak : List Char → Bool
  | c :: d :: rest => (c == ' ' && isBreak d) || spaceBeforeBreak (d :: rest)
  | _ => false

def breakBeforeSpace : List Char → Bool
  | c :: d :: rest => (isBreak c && d == ' ') || breakBeforeSpace (d :: rest)
  | _ => false

def startsIndicator : List Char → Bool
  | [] => false
  | c :: rest =>
    "#,[]\x7b\x7d&*!|>\x27\"%@\x60".toList.contains c ||
      ((c == '?' || c == ':' || c == '-') && isGap rest.head?)

def holdsIndicator : List Char → Bool
  | c :: d :: rest =>
    (d == ':' && isGap rest.head?) || (d == '#' && isGap (some c)) || holdsIndicator (d :: rest)
  | _ => false

def startsMarker (cs : List Char) : Bool :=
  "---".toList.isPrefixOf cs || "...".toList.isPrefixOf cs

def plainAllowed (cs : List Char) : Bool :=
  !startsMarker cs && !startsIndicator cs && !holdsIndicator cs &&
    cs.all (fun c => isPrintable c && !isBreak c) && cs.head? != some ' ' &&
    cs.getLast? != some ' '

def singleAllowed (cs : List Char) : Bool :=
  cs.all isPrintable && !spaceBeforeBreak cs && !breakBeforeSpace cs

def blockAllowed (cs : List Char) : Bool :=
  cs.all isPrintable && !spaceBeforeBreak cs && cs.getLast? != some ' '

/-! Texts that would read back as something else. -/

def nullWords : List String := ["", "null", "Null", "NULL", "~"]

def boolWords : List String := ["true", "True", "TRUE", "false", "False", "FALSE"]

def stripSign : List Char → List Char
  | '+' :: cs => cs
  | '-' :: cs => cs
  | cs => cs

def isZeroLed (cs : List Char) : Bool :=
  match stripSign cs with
  | '0' :: c :: rest => (c :: rest).all Char.isDigit
  | _ => false

def inBase? (base : Nat) (cs : List Char) : Option Nat :=
  if cs.isEmpty then none
  else cs.foldlM (fun n c => (hexValue? c).bind fun d =>
    if d < base then some (base * n + d) else none) 0

def isInteger (cs : List Char) : Bool :=
  match stripSign cs with
  | '0' :: 'x' :: rest => bounded (inBase? 16 rest)
  | '0' :: 'o' :: rest => bounded (inBase? 8 rest)
  | '0' :: 'b' :: rest => bounded (inBase? 2 rest)
  | rest => !isZeroLed cs && bounded (inBase? 10 rest)
where
  bounded (n : Option Nat) : Bool :=
    n.any fun n => if cs.head? == some '-' then n ≤ span 127 else n < span 128

def numeral? (cs : List Char) : Option Numeral :=
  let negative := cs.head? == some '-'
  let cs := stripSign cs
  let whole := cs.takeWhile Char.isDigit
  let rest := cs.dropWhile Char.isDigit
  let (fraction, rest) := match rest with
    | '.' :: rest => (some (rest.takeWhile Char.isDigit), rest.dropWhile Char.isDigit)
    | rest => (none, rest)
  if whole.isEmpty ∧ (fraction.getD []).isEmpty then none
  else
    match rest with
    | [] => some ⟨negative, whole, fraction, none⟩
    | c :: rest =>
      let down := rest.head? == some '-'
      let digits := stripSign rest
      if (c ≠ 'e' ∧ c ≠ 'E') ∨ digits.isEmpty ∨ !digits.all Char.isDigit then none
      else
        let n : Int := Numeral.ofDigits digits
        some ⟨negative, whole, fraction, some (if down then -n else n)⟩

def specialFloats : List String :=
  [".inf", ".Inf", ".INF", "+.inf", "+.Inf", "+.INF", "-.inf", "-.Inf", "-.INF", ".nan", ".NaN",
    ".NAN"]

def isFloat (s : String) : Bool :=
  s ∈ specialFloats || (numeral? s.toList).any fun n => !n.toFloat.isInf

def isAmbiguous (s : String) : Bool :=
  s ∈ nullWords || s ∈ boolWords || isInteger s.toList || isZeroLed s.toList || isFloat s

/-! Writing. Values stand at an indent of four spaces. -/

def indent : List Char := [' ', ' ', ' ', ' ']

def indented (write : Char → List Char) (afterBreak : Bool) : List Char → List Char
  | [] => []
  | c :: rest =>
    if isBreak c then c :: indented write true rest
    else (if afterBreak then indent else []) ++ write c ++ indented write false rest

def single (cs : List Char) : List Char :=
  let double (c : Char) : List Char := if c == '\x27' then [c, c] else [c]
  let close := if cs.getLast?.any isBreak then indent else []
  '\x27' :: indentedSpaces double false cs ++ close ++ ['\x27']
where
  /-- Spaces behind a break stand without indent. -/
  indentedSpaces (write : Char → List Char) (afterBreak : Bool) : List Char → List Char
    | [] => []
    | c :: rest =>
      if isBreak c then c :: indentedSpaces write true rest
      else if c == ' ' then c :: indentedSpaces write afterBreak rest
      else (if afterBreak then indent else []) ++ write c ++ indentedSpaces write false rest

def shortEscape? : Char → Option Char
  | '\x00' => some '0'
  | '\x07' => some 'a'
  | '\x08' => some 'b'
  | '\t' => some 't'
  | '\n' => some 'n'
  | '\x0b' => some 'v'
  | '\x0c' => some 'f'
  | '\r' => some 'r'
  | '\x1b' => some 'e'
  | '"' => some '"'
  | '\\' => some '\\'
  | '\u0085' => some 'N'
  | '\u2028' => some 'L'
  | '\u2029' => some 'P'
  | _ => none

def hexPadded (width n : Nat) : List Char :=
  let digits := (Nat.toDigits 16 n).map Char.toUpper
  List.replicate (width - digits.length) '0' ++ digits

def escapeChar (c : Char) : List Char :=
  match shortEscape? c with
  | some e => ['\\', e]
  | none =>
    if isPrintable c then [c]
    else if c.toNat ≤ 0xFF then '\\' :: 'x' :: hexPadded 2 c.toNat
    else if c.toNat ≤ 0xFFFF then '\\' :: 'u' :: hexPadded 4 c.toNat
    else '\\' :: 'U' :: hexPadded 8 c.toNat

def double (cs : List Char) : List Char := '"' :: cs.flatMap escapeChar ++ ['"']

/-- What the header of a literal block tells about its ends: an indent where the text starts with a
space or break, and which breaks at its end count. -/
def blockHints (cs : List Char) : List Char :=
  (if cs.head?.any fun c => c == ' ' || isBreak c then ['2'] else []) ++
    match cs.reverse with
    | [] => ['-']
    | [c] => if isBreak c then ['+'] else ['-']
    | c :: d :: _ => if !isBreak c then ['-'] else if isBreak d then ['+'] else []

def block (cs : List Char) : List Char :=
  '|' :: blockHints cs ++ '\n' :: indented (fun c => [c]) true cs

def scalar (s : String) : List Char :=
  let cs := s.toList
  if cs.contains '\n' then if blockAllowed cs then block cs else double cs
  else if !isAmbiguous s && plainAllowed cs then cs
  else if singleAllowed cs then single cs
  else double cs

def endLine (cs : List Char) : List Char := if cs.getLast?.any isBreak then cs else cs ++ ['\n']

def token (t : Token) : List Char :=
  "- category: ".toList ++ endLine (scalar t.category) ++ "  text: ".toList ++
    endLine (scalar t.text) ++ "  start: ".toList ++ Nat.toDigits 10 t.start ++ ['\n']

def render (l : List Token) : String :=
  if l.isEmpty then "[]\n" else .ofList (l.flatMap token)

end Lexicon.Yaml
