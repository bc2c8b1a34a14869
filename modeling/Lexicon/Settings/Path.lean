import Lexicon.Settings.Value
import Lexicon.Text.Numeral

namespace Lexicon.Settings

open Text

inductive Segment : Type
  | name : String → Segment
  | index : Int → Segment
  deriving DecidableEq

structure Path : Type where
  root : String
  segments : List Segment
  deriving DecidableEq

namespace Path

def isNameChar (c : Char) : Bool := c.isAlphanum || c == '_' || c == '-' || c == ' '

def readName (cs : List Char) : Option (String × List Char) :=
  match cs.takeWhile isNameChar with
  | [] => none
  | name => some (.ofList name, cs.dropWhile isNameChar)

def isGap (c : Char) : Bool := c == ' ' || c == '\t'

def readIndex (cs : List Char) : Option (Int × List Char) :=
  let cs := cs.dropWhile isGap
  let (negative, cs) := match cs with
    | '-' :: cs => (true, cs)
    | cs => (false, cs)
  let digits := cs.takeWhile Char.isDigit
  let n : Int := digits.foldl (fun n c => 10 * n + (c.toNat - '0'.toNat)) 0
  let n := if negative then -n else n
  match (cs.dropWhile Char.isDigit).dropWhile isGap with
  | ']' :: rest =>
    if digits.isEmpty ∨ !fitsSigned 64 n then none else some (n, rest)
  | _ => none

def readSegments : Nat → List Char → Option (List Segment)
  | _, [] => some []
  | 0, _ :: _ => none
  | fuel + 1, c :: cs =>
    if c = '.' then do
      let (name, rest) ← readName cs
      let more ← readSegments fuel rest
      return .name name :: more
    else if c = '[' then do
      let (n, rest) ← readIndex cs
      let more ← readSegments fuel rest
      return .index n :: more
    else none

def parse? (text : String) : Option Path := do
  let cs := text.toList
  let (root, rest) ← readName cs
  let segments ← readSegments cs.length rest
  return ⟨root, segments⟩

end Path

namespace Value

def position? (size : Nat) (i : Int) : Option Nat :=
  if 0 ≤ i then some i.toNat else if -i ≤ size then some (size - (-i).toNat) else none

def itemAt (l : List Value) (n : Nat) : Value := l.getD n nil

def putItem (l : List Value) (n : Nat) (v : Value) : List Value :=
  if n < l.length then l.set n v else l ++ List.replicate (n - l.length) nil ++ [v]

/-- Lays `v` over what stands at the end of a path; what is missing on the way is made. There is no
result if an index lies before the begin of its array. -/
def putAt (v : Value) : List Segment → Value → Option Value
  | [], _ => some v
  | [.name name], base => some (base.overlay name v)
  | .name name :: rest, base => do
    let name := lowerCase name
    let inner ← v.putAt rest ((base.get? name).getD nil)
    return base.insert name inner
  | .index i :: rest, base => do
    let l := base.items
    let n ← position? l.length i
    let inner ← v.putAt rest (itemAt l n)
    return base.withItems (putItem l n inner)

def put (base : Value) (p : Path) (v : Value) : Option Value :=
  v.putAt (.name p.root :: p.segments) base

end Value

end Lexicon.Settings
