namespace Lexicon.Text.Utf8

def lead? (b : Nat) : Option (Nat × Nat × Nat) :=
  if 0xC2 ≤ b ∧ b ≤ 0xDF then some (0x80, 0xBF, 1)
  else if b = 0xE0 then some (0xA0, 0xBF, 2)
  else if b = 0xED then some (0x80, 0x9F, 2)
  else if 0xE1 ≤ b ∧ b ≤ 0xEF then some (0x80, 0xBF, 2)
  else if b = 0xF0 then some (0x90, 0xBF, 3)
  else if 0xF1 ≤ b ∧ b ≤ 0xF3 then some (0x80, 0xBF, 3)
  else if b = 0xF4 then some (0x80, 0x8F, 3)
  else none

def tail (lo hi value : Nat) : Nat → List UInt8 → Option Char × List UInt8
  | 0, bytes => (some (.ofNat value), bytes)
  | _ + 1, [] => (none, [])
  | count + 1, b :: rest =>
    let n := b.toNat
    if lo ≤ n ∧ n ≤ hi then tail 0x80 0xBF (value * 64 + (n - 0x80)) count rest
    else (none, b :: rest)

/-- The character at the begin of the bytes, or nothing for a broken sequence, which ends before the
first byte that cannot continue it. -/
def next (b : UInt8) (rest : List UInt8) : Option Char × List UInt8 :=
  let n := b.toNat
  if n < 0x80 then (some (.ofNat n), rest)
  else
    match lead? n with
    | none => (none, rest)
    | some (lo, hi, count) =>
      let bits := if count = 1 then n - 0xC0 else if count = 2 then n - 0xE0 else n - 0xF0
      tail lo hi bits count rest

def sequences : Nat → List UInt8 → List (Option Char)
  | 0, _ => []
  | _, [] => []
  | fuel + 1, b :: rest =>
    let (c, rest) := next b rest
    c :: sequences fuel rest

def decodeLossy (bytes : List UInt8) : List Char :=
  (sequences bytes.length bytes).map (·.getD '\uFFFD')

def validPart (bytes : List UInt8) : List Char :=
  ((sequences bytes.length bytes).takeWhile Option.isSome).filterMap id

end Lexicon.Text.Utf8
