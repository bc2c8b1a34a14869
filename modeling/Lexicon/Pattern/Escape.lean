import Lexicon.Pattern.Atom
import Lexicon.Text.Numeral

namespace Lexicon

open Text

namespace Regex.Property

def split? (sign : List Char) : List Char → Option (List Char × List Char)
  | [] => none
  | c :: rest =>
    if sign.isPrefixOf (c :: rest) then some ([], (c :: rest).drop sign.length)
    else (split? sign rest).map fun (name, value) => (c :: name, value)

def ofText (cs : List Char) : Bool × Property :=
  match split? ['!', '='] cs with
  | some (name, value) => (true, .valued name value)
  | none =>
    match (split? [':'] cs).or (split? ['='] cs) with
    | some (name, value) => (false, .valued name value)
    | none => (false, .named cs)

end Regex.Property

namespace Escape

def hexDigits (extended : Bool) : Nat → Nat → List Char → Option (Nat × List Char)
  | 0, n, cs => some (n, cs)
  | width + 1, n, cs =>
    match skip extended cs with
    | [] => none
    | c :: rest => (hexValue? c).bind fun d => hexDigits extended width (16 * n + d) rest

def ofBraces (digits : List Char) : Option Atom :=
  if digits.isEmpty then none else (hexNumber? digits >>= charOfCode?).map .char

def ofDigits (width n : Nat) : Option Atom :=
  (charOfCode? n).map fun c => if width = 2 then .byte c else .char c

def codePointHere (extended : Bool) (width : Nat) : List Char → Option (Atom × List Char)
  | '\x7b' :: rest =>
    (braced extended (· ≠ '\x7d') rest).bind fun (digits, rest) => (ofBraces digits).map (·, rest)
  | cs => (hexDigits extended width 0 cs).bind fun (n, rest) => (ofDigits width n).map (·, rest)

def codePoint (extended : Bool) (width : Nat) (cs : List Char) : Option (Atom × List Char) :=
  codePointHere extended width (skip extended cs)

def bracedProperty (negated : Bool) (text : List Char) : Atom :=
  let (denied, p) := Regex.Property.ofText text
  .property (negated != denied) p

def propertyHere (extended negated : Bool) : List Char → Option (Atom × List Char)
  | [] => none
  | '\\' :: _ => none
  | '\x7b' :: rest =>
    (braced extended (· ≠ '\x7d') rest).map fun (text, rest) => (bracedProperty negated text, rest)
  | c :: rest => some (.property negated (.named [c]), rest)

def property (extended negated : Bool) (cs : List Char) : Option (Atom × List Char) :=
  propertyHere extended negated (skip extended cs)

def edgeNames : List (String × Look) :=
  [("start", .wordStart), ("end", .wordEnd), ("start-half", .afterNonWord),
    ("end-half", .beforeNonWord)]

def isNameChar (c : Char) : Bool := c.isAlpha || c == '-'

/-- A word edge in front of a brace: the name in it and what is behind that name tell its kind. -/
def bracedEdge (text : List Char) : List Char × List Char → Option (Look × List Char)
  | ([], []) => none
  | ([], _ :: _) => some (.wordEdge, text)
  | (c :: name, '\x7d' :: rest) => (edgeNames.lookup (.ofList (c :: name))).map (·, rest)
  | (_ :: _, _) => none

def wordEdge (extended : Bool) (cs : List Char) : Option (Look × List Char) :=
  match cs with
  | '\x7b' :: inner => bracedEdge cs (spelled extended isNameChar false inner)
  | _ => some (.wordEdge, cs)

/-- Any ASCII character but letters, digits and the angle brackets, which have meanings of their
own or are kept for later ones. -/
def isPlain (c : Char) : Bool := c.toNat < 128 && !c.isAlphanum && c != '<' && c != '>'

def read (extended : Bool) : List Char → Option (Atom × List Char)
  | [] => none
  | c :: rest =>
    match c with
    | 'x' => codePoint extended 2 rest
    | 'u' => codePoint extended 4 rest
    | 'U' => codePoint extended 8 rest
    | 'p' => property extended false rest
    | 'P' => property extended true rest
    | 'd' => some (.kind false .digit, rest)
    | 'D' => some (.kind true .digit, rest)
    | 's' => some (.kind false .blank, rest)
    | 'S' => some (.kind true .blank, rest)
    | 'w' => some (.kind false .word, rest)
    | 'W' => some (.kind true .word, rest)
    | 'a' => some (.char '\x07', rest)
    | 'f' => some (.char '\x0c', rest)
    | 't' => some (.char '\t', rest)
    | 'n' => some (.char '\n', rest)
    | 'r' => some (.char '\r', rest)
    | 'v' => some (.char '\x0b', rest)
    | 'A' => some (.look .textStart, rest)
    | 'z' => some (.look .textEnd, rest)
    | 'b' => (wordEdge extended rest).map fun (l, rest) => (.look l, rest)
    | 'B' => some (.look .notWordEdge, rest)
    | '<' => some (.look .wordStart, rest)
    | '>' => some (.look .wordEnd, rest)
    | _ => if isPlain c then some (.char c, rest) else none

end Escape

end Lexicon
