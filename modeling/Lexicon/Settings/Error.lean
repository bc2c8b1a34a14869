import Lexicon.Settings.Value
import Lexicon.Text.Decimal
import Lexicon.Text.Quoted

namespace Lexicon.Settings

open Text

inductive Found : Type
  | nil : Found
  | bool : Bool → Found
  | int : Int → Found
  | float : Float → Found
  | text : String → Found
  | array : Found
  | table : Found

namespace Found

def ofValue : Value → Found
  | .scalar _ .nil => nil
  | .scalar _ (.bool b) => bool b
  | .scalar _ (.int n) => int n
  | .scalar _ (.float x) => float x
  | .scalar _ (.text s) => text s
  | .array _ _ => array
  | .table _ _ => table

def phrase (intName : String) (floatText : Float → String) : Found → String
  | nil => "unit value"
  | bool b => s!"boolean `{b}`"
  | int n => s!"{intName} `{n}`"
  | float x => "floating point `" ++ floatText x ++ "`"
  | text s => "string " ++ quoted s
  | array => "sequence"
  | table => "map"

def pointed (x : Float) : String :=
  let s := plainFloat x
  if (Decimal.ofFloat? x).isSome && !s.toList.contains '.' then s ++ ".0" else s

def inConversion (f : Found) : String := f.phrase "64-bit integer" plainFloat

def inShape (f : Found) : String := f.phrase "integer" pointed

end Found

inductive Wanted : Type
  | integer : Wanted
  | unsigned : Wanted
  | boolean : Wanted
  | string : Wanted

namespace Wanted

def phrase : Wanted → String
  | integer => "an integer"
  | unsigned => "an unsigned 64 bit or less integer"
  | boolean => "a boolean"
  | string => "a string"

end Wanted

inductive Shape : Type
  | sequence : Shape
  | map : Shape
  | record : String → Shape

namespace Shape

def phrase : Shape → String
  | sequence => "a sequence"
  | map => "a map"
  | record name => "struct " ++ name

end Shape

inductive Error : Type
  | badPath : Error
  | indexBeforeStart : Error
  | missingFile : String → Error
  | notText : Error
  | badFile : String → Error
  | conversion : Found → Wanted → Option String → String → Error
  | shape : Found → Shape → Error
  | tooShort : Nat → Shape → Nat → Error
  | missingField : String → Error

namespace Error

def within (segment : String) : Error → Error
  | conversion f w origin key =>
    let dot := if key.isEmpty || key.toList.head? == some '[' then "" else "."
    conversion f w origin (segment ++ dot ++ key)
  | e => e

def message : Error → String
  | badPath => "invalid path"
  | indexBeforeStart => "index before the start of its array"
  | missingFile name => s!"configuration file \"{name}\" not found"
  | notText => "stream did not contain valid UTF-8"
  | badFile _ => "TOML parse error"
  | conversion f w origin key =>
    "invalid type: " ++ f.inConversion ++ ", expected " ++ w.phrase ++ " for key `" ++ key ++ "`" ++
      match origin with
      | some file => " in " ++ file
      | none => ""
  | shape f s => "invalid type: " ++ f.inShape ++ ", expected " ++ s.phrase
  | tooShort n s wanted => s!"invalid length {n}, expected {s.phrase} with {wanted} elements"
  | missingField name => s!"missing field `{name}`"

end Error

end Lexicon.Settings
