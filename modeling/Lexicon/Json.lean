import Lexicon.Text.Decimal
import Lexicon.Token

namespace Lexicon

open Text

/-- Whole numbers that fit a word are kept apart from floating point numbers. -/
inductive Json : Type
  | null : Json
  | bool : Bool → Json
  | int : Int → Json
  | float : Float → Json
  | str : String → Json
  | arr : List Json → Json
  | obj : List (String × Json) → Json

namespace Json

def shortEscape? : Char → Option Char
  | '"' => some '"'
  | '\\' => some '\\'
  | '\x08' => some 'b'
  | '\t' => some 't'
  | '\n' => some 'n'
  | '\x0c' => some 'f'
  | '\r' => some 'r'
  | _ => none

def escapeChar (c : Char) : List Char :=
  match shortEscape? c with
  | some e => ['\\', e]
  | none =>
    if c.toNat < 0x20 then
      ['\\', 'u', '0', '0', Nat.digitChar (c.toNat / 16), Nat.digitChar (c.toNat % 16)]
    else [c]

def quote (s : String) : String := "\"" ++ .ofList (s.toList.flatMap escapeChar) ++ "\""

def floatText (x : Float) : String := ((Decimal.ofFloat? x).map Decimal.compact).getD "null"

mutual

def compact : Json → String
  | null => "null"
  | bool b => if b then "true" else "false"
  | int n => toString n
  | float x => floatText x
  | str s => quote s
  | arr l => "[" ++ ",".intercalate (compactItems l) ++ "]"
  | obj l => "\x7b" ++ ",".intercalate (compactFields l) ++ "\x7d"

def compactItems : List Json → List String
  | [] => []
  | j :: rest => j.compact :: compactItems rest

def compactFields : List (String × Json) → List String
  | [] => []
  | (key, j) :: rest => (quote key ++ ":" ++ j.compact) :: compactFields rest

end

def newLine (level : Nat) : String := "\n" ++ .ofList (List.replicate (2 * level) ' ')

def block (level : Nat) (left right : String) (items : List String) : String :=
  if items.isEmpty then left ++ right
  else
    left ++ newLine (level + 1) ++ ("," ++ newLine (level + 1)).intercalate items ++
      newLine level ++ right

mutual

def pretty (level : Nat) : Json → String
  | null => "null"
  | bool b => if b then "true" else "false"
  | int n => toString n
  | float x => floatText x
  | str s => quote s
  | arr l => block level "[" "]" (prettyItems (level + 1) l)
  | obj l => block level "\x7b" "\x7d" (prettyFields (level + 1) l)

def prettyItems (level : Nat) : List Json → List String
  | [] => []
  | j :: rest => j.pretty level :: prettyItems level rest

def prettyFields (level : Nat) : List (String × Json) → List String
  | [] => []
  | (key, j) :: rest => (quote key ++ ": " ++ j.pretty level) :: prettyFields level rest

end

def strings (l : List String) : Json := arr (l.map str)

def ofToken (t : Token) : Json :=
  obj [("category", str t.category), ("text", str t.text), ("start", int t.start)]

def ofTokens (l : List Token) : Json := arr (l.map ofToken)

end Json

end Lexicon
