import Lexicon.Text.Numeral

namespace Lexicon.Toml

open Text

def isPlain (c : Char) : Bool := c == '\t' || (0x20 ≤ c.toNat && c != '\x7f')

def isGap (c : Char) : Bool := c == ' ' || c == '\t'

def skipGap (cs : List Char) : List Char := cs.dropWhile isGap

def lineBreak? : List Char → Option (List Char)
  | '\n' :: rest => some rest
  | '\r' :: '\n' :: rest => some rest
  | _ => none

def dropLineBreak (cs : List Char) : List Char := (lineBreak? cs).getD cs

def codePoint (width : Nat) (cs : List Char) : Option (Char × List Char) := do
  let digits := cs.take width
  if digits.length < width then none
  let c ← hexNumber? digits >>= charOfCode?
  return (c, cs.drop width)

def escape : List Char → Option (Char × List Char)
  | [] => none
  | c :: rest =>
    match c with
    | '"' => some ('"', rest)
    | '\\' => some ('\\', rest)
    | 'b' => some ('\x08', rest)
    | 't' => some ('\t', rest)
    | 'n' => some ('\n', rest)
    | 'f' => some ('\x0c', rest)
    | 'r' => some ('\r', rest)
    | 'u' => codePoint 4 rest
    | 'U' => codePoint 8 rest
    | _ => none

def basic (done : List Char) : Nat → List Char → Option (String × List Char)
  | 0, _ => none
  | _, [] => none
  | fuel + 1, c :: rest =>
    if c = '"' then some (.ofList done.reverse, rest)
    else if c = '\\' then (escape rest).bind fun (c, rest) => basic (c :: done) fuel rest
    else if isPlain c then basic (c :: done) fuel rest
    else none

def literal (cs : List Char) : Option (String × List Char) :=
  let body := cs.takeWhile (· ≠ '\x27')
  match cs.dropWhile (· ≠ '\x27') with
  | [] => none
  | _ :: rest => if body.all isPlain then some (.ofList body, rest) else none

/-- A backslash at the end of a line joins it with the next line that is not blank: the rest from
there on, unless no line ends here. -/
def joinLines? (cs : List Char) : Option (List Char) :=
  (lineBreak? (skipGap cs)).map fun rest =>
    rest.dropWhile fun c => isGap c || c == '\n' || c == '\r'

/-- A string over several lines between threes of the quote, from behind the first three. Up to two
quotes may stand directly before the last three. -/
def manyLines (quote : Char) (escapes : Bool) (done : List Char) :
    Nat → List Char → Option (String × List Char)
  | 0, _ => none
  | _, [] => none
  | fuel + 1, c :: rest =>
    if c = quote then
      let run := ((c :: rest).takeWhile (· == quote)).length
      if run < 3 then manyLines quote escapes (c :: done) fuel rest
      else
        let extra := min run 5 - 3
        some (.ofList (done.reverse ++ List.replicate extra quote), rest.drop (extra + 2))
    else if escapes && c == '\\' then
      match joinLines? rest with
      | some rest => manyLines quote escapes done fuel rest
      | none => (escape rest).bind fun (c, rest) => manyLines quote escapes (c :: done) fuel rest
    else
      match lineBreak? (c :: rest) with
      | some rest => manyLines quote escapes ('\n' :: done) fuel rest
      | none => if isPlain c then manyLines quote escapes (c :: done) fuel rest else none

def string (cs : List Char) : Option (String × List Char) :=
  match cs with
  | '"' :: '"' :: '"' :: rest => manyLines '"' true [] (rest.length + 1) (dropLineBreak rest)
  | '\x27' :: '\x27' :: '\x27' :: rest =>
    manyLines '\x27' false [] (rest.length + 1) (dropLineBreak rest)
  | '"' :: rest => basic [] (rest.length + 1) rest
  | '\x27' :: rest => literal rest
  | _ => none

def digits? (isDigit : Char → Bool) : List Char → Option (List Char)
  | [] => none
  | [c] => if isDigit c then some [c] else none
  | c :: '_' :: rest =>
    if isDigit c && rest.head?.any isDigit then (digits? isDigit rest).map (c :: ·) else none
  | c :: rest => if isDigit c then (digits? isDigit rest).map (c :: ·) else none

def word? (n : Int) : Option Int := if fitsSigned 64 n then some n else none

def inBase? (base : Nat) (cs : List Char) : Option Int := do
  let isDigit (c : Char) : Bool := (hexValue? c).any (· < base)
  let digits ← digits? isDigit cs
  word? (digits.foldl (fun n c => base * n + (hexValue? c).getD 0) 0 : Nat)

def whole? (cs : List Char) : Option (List Char) :=
  match digits? Char.isDigit cs with
  | some ('0' :: _ :: _) => none
  | found => found

def sign : List Char → Bool × List Char
  | '-' :: cs => (true, cs)
  | '+' :: cs => (false, cs)
  | cs => (false, cs)

def integer? (cs : List Char) : Option Int :=
  match cs with
  | '0' :: 'x' :: rest => inBase? 16 rest
  | '0' :: 'o' :: rest => inBase? 8 rest
  | '0' :: 'b' :: rest => inBase? 2 rest
  | _ => do
    let (negative, cs) := sign cs
    let digits ← whole? cs
    let n : Int := Numeral.ofDigits digits
    word? (if negative then -n else n)

def isExponentMark (c : Char) : Bool := c == 'e' || c == 'E'

def float? (cs : List Char) : Option Float := do
  let (negative, cs) := sign cs
  match cs with
  | ['i', 'n', 'f'] => some (if negative then -(1.0 / 0.0) else 1.0 / 0.0)
  | ['n', 'a', 'n'] => some (0.0 / 0.0)
  | _ =>
    let mantissa := cs.takeWhile fun c => !isExponentMark c
    let exponent ← match cs.dropWhile fun c => !isExponentMark c with
      | [] => some none
      | _ :: cs => do
        let (negative, cs) := sign cs
        let digits ← digits? Char.isDigit cs
        let n : Int := Numeral.ofDigits digits
        some (some (if negative then -n else n))
    let whole ← whole? (mantissa.takeWhile (· ≠ '.'))
    let fraction ← match mantissa.dropWhile (· ≠ '.') with
      | [] => some none
      | _ :: cs => (digits? Char.isDigit cs).map some
    let x := Numeral.toFloat ⟨negative, whole, fraction, exponent⟩
    if exponent.isNone ∧ fraction.isNone ∨ (x.isInf ∧ !negative) then none else some x

def field (width lo hi : Nat) (cs : List Char) : Option (Nat × List Char) :=
  let digits := cs.take width
  let n := Numeral.ofDigits digits
  if digits.length = width ∧ digits.all Char.isDigit ∧ lo ≤ n ∧ n ≤ hi then some (n, cs.drop width)
  else none

def expect (c : Char) : List Char → Option (List Char)
  | d :: rest => if c = d then some rest else none
  | [] => none

def padded (width n : Nat) : String :=
  let digits := Nat.toDigits 10 n
  .ofList (List.replicate (width - digits.length) '0' ++ digits)

def daysInMonth (year month : Nat) : Nat :=
  if month = 2 then
    if year % 4 = 0 ∧ (year % 100 ≠ 0 ∨ year % 400 = 0) then 29 else 28
  else if month = 4 ∨ month = 6 ∨ month = 9 ∨ month = 11 then 30
  else 31

def date (cs : List Char) : Option (String × List Char) := do
  let (year, cs) ← field 4 0 9999 cs
  let (month, cs) ← expect '-' cs >>= field 2 1 12
  let (day, cs) ← expect '-' cs >>= field 2 1 (daysInMonth year month)
  return (padded 4 year ++ "-" ++ padded 2 month ++ "-" ++ padded 2 day, cs)

def secondFraction (cs : List Char) : Option (String × List Char) :=
  match cs with
  | '.' :: rest =>
    let digits := rest.takeWhile Char.isDigit
    let kept := ((digits.take 9).reverse.dropWhile (· == '0')).reverse
    if digits.isEmpty then none
    else some (if kept.isEmpty then "" else "." ++ .ofList kept, rest.dropWhile Char.isDigit)
  | _ => some ("", cs)

def time (cs : List Char) : Option (String × List Char) := do
  let (hour, cs) ← field 2 0 23 cs
  let (minute, cs) ← expect ':' cs >>= field 2 0 59
  let (second, cs) ← expect ':' cs >>= field 2 0 60
  let (fraction, cs) ← secondFraction cs
  return (padded 2 hour ++ ":" ++ padded 2 minute ++ ":" ++ padded 2 second ++ fraction, cs)

def offset (cs : List Char) : Option (String × List Char) :=
  match cs with
  | [] => some ("", [])
  | c :: rest =>
    if c = 'Z' ∨ c = 'z' then some ("Z", rest)
    else if c = '+' ∨ c = '-' then do
      let (hour, cs) ← field 2 0 23 rest
      let (minute, cs) ← expect ':' cs >>= field 2 0 59
      let mark := if c = '-' ∧ (hour ≠ 0 ∨ minute ≠ 0) then "-" else "+"
      return (mark ++ padded 2 hour ++ ":" ++ padded 2 minute, cs)
    else some ("", c :: rest)

def dateTime? (cs : List Char) : Option String :=
  match date cs with
  | some (day, []) => some day
  | some (day, c :: rest) =>
    if c = 'T' ∨ c = 't' ∨ c = ' ' then do
      let (clock, rest) ← time rest
      let (shift, rest) ← offset rest
      if rest.isEmpty then some (day ++ "T" ++ clock ++ shift) else none
    else none
  | none =>
    match time cs with
    | some (clock, []) => some clock
    | _ => none

end Lexicon.Toml
