import Lexicon.Json
import Lexicon.Text.Numeral

namespace Lexicon.Json.Read

open Text

def isBlank (c : Char) : Bool := c == ' ' || c == '\n' || c == '\t' || c == '\r'

def skipBlank (cs : List Char) : List Char := cs.dropWhile isBlank

def word (w : String) (cs : List Char) : Option (List Char) :=
  if w.toList.isPrefixOf cs then some (cs.drop w.length) else none

inductive Unit16 : Type
  | char : Char → Unit16
  | unit : Nat → Unit16

def escaped? : Char → Option Char
  | '"' => some '"'
  | '\\' => some '\\'
  | '/' => some '/'
  | 'b' => some '\x08'
  | 'f' => some '\x0c'
  | 'n' => some '\n'
  | 'r' => some '\r'
  | 't' => some '\t'
  | _ => none

def units (done : List Unit16) : List Char → Option (List Unit16 × List Char)
  | [] => none
  | '"' :: rest => some (done.reverse, rest)
  | '\\' :: 'u' :: a :: b :: c :: d :: rest =>
    match hexValue? a, hexValue? b, hexValue? c, hexValue? d with
    | some a, some b, some c, some d =>
      units (.unit (((a * 16 + b) * 16 + c) * 16 + d) :: done) rest
    | _, _, _, _ => none
  | '\\' :: e :: rest =>
    match escaped? e with
    | some c => units (.char c :: done) rest
    | none => none
  | c :: rest => if c == '\\' || c.toNat < 0x20 then none else units (.char c :: done) rest

def isHigh (n : Nat) : Bool := 0xD800 ≤ n && n < 0xDC00

def isLow (n : Nat) : Bool := 0xDC00 ≤ n && n < 0xE000

def decode : List Unit16 → Option (List Char)
  | [] => some []
  | .char c :: rest => (decode rest).map (c :: ·)
  | .unit hi :: .unit lo :: rest =>
    if isHigh hi then
      if isLow lo then
        (decode rest).map (Char.ofNat (0x10000 + (hi - 0xD800) * 0x400 + (lo - 0xDC00)) :: ·)
      else none
    else if isLow hi then none
    else (decode (.unit lo :: rest)).map (Char.ofNat hi :: ·)
  | .unit n :: rest =>
    if isHigh n || isLow n then none else (decode rest).map (Char.ofNat n :: ·)

def string (cs : List Char) : Option (String × List Char) := do
  let (us, rest) ← units [] cs
  let text ← decode us
  return (.ofList text, rest)

def ofNumeral? (n : Numeral) : Option Json :=
  let m := Numeral.ofDigits n.whole
  let exact := n.fraction.isNone && n.exponent.isNone
  if exact && !n.negative && m < span 64 then some (.int m)
  else if exact && n.negative && 0 < m && m ≤ span 63 then some (.int (-m))
  else
    let x := n.toFloat
    if x.isInf then none else some (.float x)

def digits (cs : List Char) : List Char × List Char :=
  (cs.takeWhile Char.isDigit, cs.dropWhile Char.isDigit)

def someDigits (cs : List Char) : Option (List Char × List Char) :=
  match digits cs with
  | ([], _) => none
  | found => some found

def fraction : List Char → Option (Option (List Char) × List Char)
  | '.' :: cs => (someDigits cs).map fun (ds, rest) => (some ds, rest)
  | cs => some (none, cs)

def exponent : List Char → Option (Option Int × List Char)
  | [] => some (none, [])
  | c :: cs =>
    if c = 'e' ∨ c = 'E' then
      let (negative, cs) := match cs with
        | '+' :: cs => (false, cs)
        | '-' :: cs => (true, cs)
        | cs => (false, cs)
      (someDigits cs).map fun (ds, rest) =>
        let n : Int := Numeral.ofDigits ds
        (some (if negative then -n else n), rest)
    else some (none, c :: cs)

def numeral (cs : List Char) : Option (Numeral × List Char) := do
  let (negative, cs) := match cs with
    | '-' :: cs => (true, cs)
    | cs => (false, cs)
  let (whole, cs) ← someDigits cs
  if whole.head? = some '0' ∧ 1 < whole.length then none
  let (fraction, cs) ← fraction cs
  let (exponent, cs) ← exponent cs
  return (⟨negative, whole, fraction, exponent⟩, cs)

def maxDepth : Nat := 127

mutual

/-- A value. Every call has less fuel than its caller and each reads a character, or ends a list, so
twice the number of characters is fuel enough. -/
def value : Nat → Nat → List Char → Option (Json × List Char)
  | 0, _, _ => none
  | fuel + 1, depth, cs =>
    match skipBlank cs with
    | [] => none
    | 'n' :: rest => (word "ull" rest).map (.null, ·)
    | 't' :: rest => (word "rue" rest).map (.bool true, ·)
    | 'f' :: rest => (word "alse" rest).map (.bool false, ·)
    | '"' :: rest => (string rest).map fun (s, rest) => (.str s, rest)
    | '[' :: rest =>
      match depth, skipBlank rest with
      | 0, _ => none
      | _ + 1, ']' :: rest => some (.arr [], rest)
      | depth + 1, rest => (items fuel depth rest).map fun (l, rest) => (.arr l, rest)
    | '\x7b' :: rest =>
      match depth, skipBlank rest with
      | 0, _ => none
      | _ + 1, '\x7d' :: rest => some (.obj [], rest)
      | depth + 1, rest => (fields fuel depth rest).map fun (l, rest) => (.obj l, rest)
    | cs => do
      let (n, rest) ← numeral cs
      let j ← ofNumeral? n
      return (j, rest)

def items : Nat → Nat → List Char → Option (List Json × List Char)
  | 0, _, _ => none
  | fuel + 1, depth, cs => do
    let (j, rest) ← value fuel depth cs
    match skipBlank rest with
    | ']' :: rest => some ([j], rest)
    | ',' :: rest => (items fuel depth rest).map fun (l, rest) => (j :: l, rest)
    | _ => none

def fields : Nat → Nat → List Char → Option (List (String × Json) × List Char)
  | 0, _, _ => none
  | fuel + 1, depth, cs =>
    match skipBlank cs with
    | '"' :: rest => do
      let (key, rest) ← string rest
      match skipBlank rest with
      | ':' :: rest =>
        let (j, rest) ← value fuel depth rest
        match skipBlank rest with
        | '\x7d' :: rest => some ([(key, j)], rest)
        | ',' :: rest => (fields fuel depth rest).map fun (l, rest) => ((key, j) :: l, rest)
        | _ => none
      | _ => none
    | _ => none

end

end Lexicon.Json.Read

namespace Lexicon.Json

def read (cs : List Char) : Option (Json × List Char) :=
  Read.value (2 * cs.length + 2) Read.maxDepth cs

def parse? (text : String) : Option Json :=
  match read text.toList with
  | some (j, rest) => if (Read.skipBlank rest).isEmpty then some j else none
  | none => none

end Lexicon.Json
