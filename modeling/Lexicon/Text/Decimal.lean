import Lexicon.Text.Numeral

namespace Lexicon.Text

/-- The number `0.d₁d₂…dₙ · 10 ^ point`, or its negative, with the digits from `digits`. -/
structure Decimal : Type where
  negative : Bool
  digits : List Char
  point : Int
  deriving DecidableEq

namespace Decimal

def scale (num den : Nat) (e : Int) : Nat × Nat :=
  if 0 ≤ e then (num * Nat.pow 10 e.toNat, den) else (num, den * Nat.pow 10 (-e).toNat)

/-- Of the two multiples of `10 ^ e` next to `num / den`, the nearer of those between `lo / den` and
`hi / den`, if there is one; `closed` tells whether the ends count. -/
def onGrid? (num lo hi den : Nat) (closed : Bool) (e : Int) : Option Nat :=
  let (n, d) := scale num den (-e)
  let (l, _) := scale lo den (-e)
  let (h, _) := scale hi den (-e)
  let inside (k : Nat) : Bool :=
    if closed then l ≤ k * d && k * d ≤ h else l < k * d && k * d < h
  let below := n / d
  match inside below, inside (below + 1) with
  | true, true => some (if 2 * (n - below * d) ≤ d then below else below + 1)
  | true, false => some below
  | false, true => some (below + 1)
  | false, false => none

def width (n : Nat) : Nat := (Nat.toDigits 10 n).length

def shortestFrom (num lo hi den : Nat) (closed : Bool) : Nat → Int → Nat × Int
  | 0, e => (num / den, e)
  | fuel + 1, e =>
    match onGrid? num lo hi den closed e with
    | some k => if k = 0 then shortestFrom num lo hi den closed fuel (e - 1) else (k, e)
    | none => shortestFrom num lo hi den closed fuel (e - 1)

def dropZeros (l : List Char) : List Char :=
  match (l.reverse.dropWhile (· == '0')).reverse with
  | [] => ['0']
  | l => l

/-- The shortest decimal of the number `m · 2 ^ q`; a mantissa at the lower end of its binade has
its lower neighbour at half the distance. -/
def ofBinary (negative : Bool) (m : Nat) (q : Int) (lowEnd : Bool) : Decimal :=
  if m = 0 then ⟨negative, ['0'], 1⟩
  else
    let shift := (q - 2).natAbs
    let (up, den) := if 2 ≤ q then (Nat.pow 2 shift, 1) else (1, Nat.pow 2 shift)
    let num := 4 * m * up
    let lo := (4 * m - if lowEnd then 1 else 2) * up
    let hi := (4 * m + 2) * up
    let top : Int := (width (num / den) : Int) + 1 - if num < den then width (den / num) + 1 else 0
    let (k, e) := shortestFrom num lo hi den (m % 2 = 0) 40 top
    let digits := Nat.toDigits 10 k
    ⟨negative, dropZeros digits, digits.length + e⟩

def ofFloat? (x : Float) : Option Decimal :=
  let bits := x.toBits.toNat
  let negative := span 63 ≤ bits
  let exponent : Nat := bits / span 52 % span 11
  let fraction : Nat := bits % span 52
  if exponent = 2047 then none
  else if exponent = 0 then some (ofBinary negative fraction (-1074) false)
  else
    some (ofBinary negative (span 52 + fraction) ((exponent : Int) - 1075)
      (fraction = 0 ∧ 1 < exponent))

def sign (d : Decimal) : String := if d.negative then "-" else ""

def zeros (n : Int) : List Char := List.replicate n.toNat '0'

def positional (d : Decimal) : String :=
  let whole := d.digits.take d.point.toNat ++ zeros (d.point - d.digits.length)
  let fraction := zeros (-d.point) ++ d.digits.drop d.point.toNat
  d.sign ++ .ofList (if whole.isEmpty then ['0'] else whole) ++
    if fraction.isEmpty then "" else "." ++ .ofList fraction

def compact (d : Decimal) : String :=
  if -5 < d.point ∧ d.point ≤ 16 then
    d.positional ++ if (d.digits.length : Int) ≤ d.point then ".0" else ""
  else
    let fraction := d.digits.drop 1
    d.sign ++ .ofList (d.digits.take 1) ++
      (if fraction.isEmpty then "" else "." ++ .ofList fraction)
      ++ "e" ++ toString (d.point - 1)

end Decimal

def plainFloat (x : Float) : String :=
  match Decimal.ofFloat? x with
  | some d => d.positional
  | none => if x.isNaN then "NaN" else if x < 0 then "-inf" else "inf"

end Lexicon.Text
