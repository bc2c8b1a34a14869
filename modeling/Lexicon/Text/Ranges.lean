namespace Lexicon.Text

structure Ranges : Type where
  spans : List (Nat × Nat)
  deriving DecidableEq

namespace Ranges

/-- Ascending order lets the search stop at the first range above `n`. -/
def holds (n : Nat) : List (Nat × Nat) → Bool
  | [] => false
  | (lo, hi) :: rest => lo ≤ n && (n ≤ hi || holds n rest)

def contains (r : Ranges) (c : Char) : Bool := holds c.toNat r.spans

end Ranges

/-- The `White_Space` property. -/
def whiteSpace : Ranges := .mk [
  (0x9, 0xD), (0x20, 0x20), (0x85, 0x85), (0xA0, 0xA0), (0x1680, 0x1680), (0x2000, 0x200A),
  (0x2028, 0x2029), (0x202F, 0x202F), (0x205F, 0x205F), (0x3000, 0x3000)]

def isBlank (c : Char) : Bool := whiteSpace.contains c

def allBlank (s : String) : Bool := s.toList.all isBlank

def trimStart (cs : List Char) : List Char := cs.dropWhile isBlank

def trimEnd (cs : List Char) : List Char := (cs.reverse.dropWhile isBlank).reverse

def trim (cs : List Char) : List Char := trimEnd (trimStart cs)

end Lexicon.Text
