namespace Lexicon.Text

def span (w : Nat) : Nat := Nat.pow 2 w

def fitsSigned (w : Nat) (n : Int) : Bool :=
  -Int.ofNat (span (w - 1)) ≤ n && n < Int.ofNat (span (w - 1))

structure Numeral : Type where
  negative : Bool
  whole : List Char
  fraction : Option (List Char)
  exponent : Option Int
  deriving DecidableEq

namespace Numeral

def digitValue (c : Char) : Nat := c.toNat - '0'.toNat

def ofDigits (digits : List Char) : Nat := digits.foldl (fun n c => 10 * n + digitValue c) 0

/-- The nearest floating point number. Exponents that are out of range either way are cut down, so
that no power of ten gets too large to write. -/
def toFloat (n : Numeral) : Float :=
  let fraction := n.fraction.getD []
  let e := max (-100000) (min 100000 (n.exponent.getD 0)) - fraction.length
  let m := ofDigits (n.whole ++ fraction)
  let x := if m = 0 then 0.0
    else if e > 400 then 1.0 / 0.0
    else if e < -2000 - (n.whole.length + fraction.length : Int) then 0.0
    else Float.ofScientific m (e < 0) e.natAbs
  if n.negative then -x else x

end Numeral

def hexValue? (c : Char) : Option Nat :=
  if '0' ≤ c ∧ c ≤ '9' then some (c.toNat - '0'.toNat)
  else if 'a' ≤ c ∧ c ≤ 'f' then some (c.toNat - 'a'.toNat + 10)
  else if 'A' ≤ c ∧ c ≤ 'F' then some (c.toNat - 'A'.toNat + 10)
  else none

def hexNumber? (digits : List Char) : Option Nat :=
  digits.foldlM (fun n c => (hexValue? c).map (16 * n + ·)) 0

def charOfCode? (n : Nat) : Option Char := if n.isValidChar then some (.ofNat n) else none

end Lexicon.Text
