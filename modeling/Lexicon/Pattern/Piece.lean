import Lexicon.Pattern.Bracket
import Lexicon.Text.Numeral

namespace Lexicon

open Text

/-- A single expression, a change of flags, an opened or closed group, a bar between alternatives,
or a count that repeats the piece before it. A single expression comes with its depth and size, a
group with the answer whether it captures and with its name. -/
inductive Piece : Type
  | single : Regex → Nat → Nat → Piece
  | setFlags : Flags → Piece
  | enter : Flags → Bool → Option String → Piece
  | leave : Piece
  | bar : Piece
  | times : Nat → Option Nat → Piece

namespace Piece

/-- Sets apart, all that stands for itself takes up 32 bytes. -/
def ofRegex : Regex → Piece
  | .chars s => .single (.chars s) 0 s.size
  | r => .single r 0 32

def dot? (f : Flags) : Option Piece :=
  if f.unicode then
    some (ofRegex (.chars (if f.dotAll then .all
      else if f.crlf then .compl (.union (.single '\r') (.single '\n'))
      else .compl (.single '\n'))))
  else none

def lineStart (f : Flags) : Look :=
  if f.multiLine then if f.crlf then .lineStartCrlf else .lineStart else .textStart

def lineEnd (f : Flags) : Look :=
  if f.multiLine then if f.crlf then .lineEndCrlf else .lineEnd else .textEnd

def isGroupName : List Char → Bool
  | [] => false
  | c :: rest =>
    (c == '_' || isAlphabetic c) &&
      rest.all fun c =>
        c == '_' || c == '.' || c == '[' || c == ']' || isAlphabetic c || isNumeric c

def namedGroup (f : Flags) (cs : List Char) : Option (Piece × List Char) :=
  let name := cs.takeWhile (· ≠ '>')
  match cs.dropWhile (· ≠ '>') with
  | [] => none
  | _ :: rest =>
    if isGroupName name then some (.enter f true (some (.ofList name)), rest) else none

def ofFlags (g : Flags) (given : List Char) (last : Char) : Option Piece :=
  if last = ':' then some (.enter g false none)
  else if given.isEmpty then none
  else some (.setFlags g)

def flagGroup (f : Flags) (cs : List Char) : Option (Piece × List Char) :=
  (f.read [] cs).bind fun (g, given, last, rest) => (ofFlags g given last).map (·, rest)

def groupHere (f : Flags) : List Char → Option (Piece × List Char)
  | '?' :: '<' :: '=' :: _ => none
  | '?' :: '<' :: '!' :: _ => none
  | '?' :: 'P' :: '<' :: rest => namedGroup f rest
  | '?' :: '<' :: rest => namedGroup f rest
  | '?' :: rest => flagGroup f rest
  | rest => some (.enter f true none, rest)

def group (f : Flags) (cs : List Char) : Option (Piece × List Char) :=
  groupHere f (skip f.extended cs)

def number (extended : Bool) (cs : List Char) : Option Nat × List Char :=
  let (digits, rest) := spelled extended Char.isDigit false (trimStart cs)
  let value := Numeral.ofDigits digits
  (if digits.isEmpty ∨ span 32 ≤ value then none else some value, trimStart rest)

def upTo (extended : Bool) (lo : Nat) : List Char → Option (Piece × List Char)
  | '\x7d' :: rest => some (.times lo none, rest)
  | cs =>
    match number extended cs with
    | (some hi, '\x7d' :: rest) => if lo ≤ hi then some (.times lo (some hi), rest) else none
    | _ => none

def count (extended : Bool) (cs : List Char) : Option (Piece × List Char) :=
  match number extended (skip extended cs) with
  | (some lo, '\x7d' :: rest) => some (.times lo (some lo), rest)
  | (some lo, ',' :: rest) => upTo extended lo (skip extended rest)
  | _ => none

def lazy : List Char → List Char
  | '?' :: rest => rest
  | cs => cs

def read [Regex.Engine] (f : Flags) : List Char → Option (Piece × List Char)
  | [] => none
  | c :: rest =>
    match c with
    | '(' => group f rest
    | ')' => some (.leave, rest)
    | '|' => some (.bar, rest)
    | '[' =>
      (Bracket.read f rest).map fun (n, rest) => (.single (.chars n.set) n.depth n.set.size, rest)
    | '?' => some (.times 0 (some 1), lazy rest)
    | '*' => some (.times 0 none, lazy rest)
    | '+' => some (.times 1 none, lazy rest)
    | '\x7b' => (count f.extended rest).map fun (p, rest) => (p, lazy (skip f.extended rest))
    | '\\' =>
      (Escape.read f.extended rest).bind fun (a, rest) => ((a.regex? f).map ofRegex).map (·, rest)
    | '.' => (dot? f).map (·, rest)
    | '^' => some (ofRegex (.look (lineStart f)), rest)
    | '$' => some (ofRegex (.look (lineEnd f)), rest)
    | c => (((Atom.char c).regex? f).map ofRegex).map (·, rest)

end Piece

end Lexicon
