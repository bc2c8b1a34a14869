import Lexicon.Pattern.Atom
import Lexicon.Text.Category
import Lexicon.Text.Script

namespace Lexicon.Regex

namespace Property

open Text

def lower (cs : List Char) : String :=
  .ofList ((cs.filter fun c => c.toNat < 128 && c != ' ' && c != '_' && c != '-').map Char.toLower)

def normal : List Char → String
  | i :: s :: rest =>
    if i.toLower = 'i' ∧ s.toLower = 's' then
      -- `isc` is a name of its own.
      if lower rest = "c" then "isc" else lower rest
    else lower (i :: s :: rest)
  | name => lower name

abbrev Table : Type := List (List String × CharSet)

def Table.get? (t : Table) (name : String) : Option CharSet := (t.find? (name ∈ ·.1)).map (·.2)

def Table.union (t : Table) : CharSet := t.foldl (fun s k => .union s k.2) .none

/-- One letter of each of the `casePairs`: the first ones, or those `offset` behind them. -/
def halves (offset : Nat) : Ranges :=
  .mk (casePairs.spans.flatMap fun (lo, hi) =>
    (List.range ((hi - lo) / 2 + 1)).map fun i => (lo + offset + 2 * i, lo + offset + 2 * i))

def upper : CharSet := .union (.listed upperLetters) (.listed (halves 0))

def lowerCase : CharSet := .union (.listed lowerLetters) (.listed (halves 1))

def assigned : Table := [
  (["lu", "uppercaseletter"], upper), (["ll", "lowercaseletter"], lowerCase),
  (["lt", "titlecaseletter"], .listed titleLetters),
  (["lm", "modifierletter"], .listed modifierLetters), (["lo", "otherletter"], .listed otherLetters),
  (["mn", "nonspacingmark"], .listed nonspacingMarks), (["mc", "spacingmark"], .listed spacingMarks),
  (["me", "enclosingmark"], .listed enclosingMarks), (["nd", "decimalnumber", "digit"], .digit),
  (["nl", "letternumber"], .listed letterNumbers),
  (["no", "othernumber"], .diff (.listed otherNumbers) (.listed letterNumbers)),
  (["pc", "connectorpunctuation"], .listed connectors), (["pd", "dashpunctuation"], .listed dashes),
  (["ps", "openpunctuation"], .listed openings), (["pe", "closepunctuation"], .listed closings),
  (["pi", "initialpunctuation"], .listed initialQuotes),
  (["pf", "finalpunctuation"], .listed finalQuotes),
  (["po", "otherpunctuation"], .listed otherPunctuation),
  (["sm", "mathsymbol"], .listed mathSymbols), (["sc", "currencysymbol"], .listed currencySymbols),
  (["sk", "modifiersymbol"], .listed modifierSymbols), (["so", "othersymbol"], .listed otherSymbols),
  (["zs", "spaceseparator"], .listed spaces), (["zl", "lineseparator"], .single '\u2028'),
  (["zp", "paragraphseparator"], .single '\u2029'),
  (["cc", "control", "cntrl"], .union (.range '\x00' '\x1f') (.range '\x7f' '\u009f')),
  (["cf", "format"], .listed formats), (["co", "privateuse"], .listed privates)]

def categories : Table := (["cn", "unassigned"], .compl assigned.union) :: assigned

def classes : List (List String × List String) := [
  (["l", "letter"], ["lu", "ll", "lt", "lm", "lo"]), (["lc", "casedletter"], ["lu", "ll", "lt"]),
  (["m", "mark", "combiningmark"], ["mn", "mc", "me"]), (["n", "number"], ["nd", "nl", "no"]),
  (["p", "punctuation", "punct"], ["pc", "pd", "ps", "pe", "pi", "pf", "po"]),
  (["s", "symbol"], ["sm", "sc", "sk", "so"]), (["z", "separator"], ["zs", "zl", "zp"]),
  (["c", "other"], ["cn", "cc", "cf", "co"])]

def wholes : Table :=
  [(["any"], .all), (["assigned"], assigned.union), (["ascii"], .range '\x00' '\x7f')] ++
    classes.map fun (names, members) =>
      (names, Table.union (categories.filter fun k => k.1.any (· ∈ members)))

def category? (name : String) : Option CharSet := (categories ++ wholes).get? name

def script? (name : String) : Option CharSet :=
  (scripts.find? (name ∈ ·.1)).map fun k => .listed k.2

def binaries : Table := [
  (["alphabetic", "alpha"], .listed alphabetic), (["whitespace", "wspace", "space"], .blank),
  (["lowercase", "lower"], .union lowerCase (.listed otherLower)),
  (["uppercase", "upper"], .union upper (.listed otherUpper))]

def set? : Property → Option CharSet
  | named name =>
    let name := normal name
    ((binaries.get? name).or (category? name)).or (script? name)
  | valued name value =>
    let name := normal name
    if name ∈ ["gc", "generalcategory"] then category? (normal value)
    else if name ∈ ["sc", "script"] then script? (normal value)
    else none

end Property

/-- The tables above, and ten mebibytes for an automaton. -/
instance : Engine where
  property? := Property.set?
  fits _ size := size + 128 ≤ 10 * 1024 * 1024

end Lexicon.Regex
