import Lexicon.Json.Read
import Lexicon.Service
import Lexicon.Text.Quoted
import Lexicon.Text.Utf8

namespace Lexicon.Http.Body

open Text
open Json.Read

inductive Found : Type
  | null : Found
  | bool : Bool → Found
  | int : Int → Found
  | float : Float → Found
  | text : String → Found
  | array : Found
  | object : Found

namespace Found

def phrase : Found → String
  | null => "null"
  | bool b => s!"boolean `{b}`"
  | int n => s!"integer `{n}`"
  | float x => "floating point `" ++ Json.floatText x ++ "`"
  | text s => "string " ++ quoted s
  | array => "sequence"
  | object => "map"

end Found

inductive Error : Type
  | malformed : Error
  | wrongType : Option String → Found → String → Error
  | badDiscard : String → Error
  | duplicate : String → Error
  | tooShort : Nat → Error

namespace Error

def detail : Error → String
  | malformed => ""
  | wrongType place f wanted =>
    (match place with
      | some p => p ++ ": "
      | none => "") ++ "invalid type: " ++ f.phrase ++ ", expected " ++ wanted
  | badDiscard place => place ++ ": data did not match any variant of untagged enum DiscardParam"
  | duplicate name => s!"duplicate field `{name}`"
  | tooShort n => s!"invalid length {n}, expected struct LexRequest with 4 elements"

def message : Error → String
  | malformed => "Failed to parse the request body as JSON"
  | e => "Failed to deserialize the JSON body into the target type: " ++ e.detail

end Error

def orMalformed {α : Type} : Option α → Except Error α
  | some a => .ok a
  | none => .error .malformed

def found (cs : List Char) : Except Error Found :=
  match cs with
  | [] => .error .malformed
  | 'n' :: rest => (orMalformed (word "ull" rest)).map fun _ => .null
  | 't' :: rest => (orMalformed (word "rue" rest)).map fun _ => .bool true
  | 'f' :: rest => (orMalformed (word "alse" rest)).map fun _ => .bool false
  | '"' :: rest => (orMalformed (Json.Read.string rest)).map fun (s, _) => .text s
  | '[' :: _ => .ok .array
  | '\x7b' :: _ => .ok .object
  | cs => do
    let (n, _) ← orMalformed (numeral cs)
    match ← orMalformed (ofNumeral? n) with
    | .int n => .ok (.int n)
    | .float x => .ok (.float x)
    | _ => .error .malformed

def mismatch {α : Type} (place : Option String) (wanted : String) (cs : List Char) :
    Except Error α := do
  let f ← found cs
  .error (.wrongType place f wanted)

def nullable {α : Type} (f : List Char → Except Error (α × List Char)) (cs : List Char) :
    Except Error (Option α × List Char) :=
  match skipBlank cs with
  | 'n' :: rest => do
    let rest ← orMalformed (word "ull" rest)
    return (none, rest)
  | cs => (f cs).map fun (a, rest) => (some a, rest)

def text (place : String) (cs : List Char) : Except Error (String × List Char) :=
  match cs with
  | '"' :: rest => orMalformed (Json.Read.string rest)
  | cs => mismatch (some place) "a string" cs

def boolean (place : String) (cs : List Char) : Except Error (Bool × List Char) :=
  match cs with
  | 't' :: rest => (orMalformed (word "rue" rest)).map (true, ·)
  | 'f' :: rest => (orMalformed (word "alse" rest)).map (false, ·)
  | cs => mismatch (some place) "a boolean" cs

def texts? : List Json → Option (List String)
  | [] => some []
  | .str s :: rest => (texts? rest).map (s :: ·)
  | _ :: _ => none

def discard (place : String) (cs : List Char) : Except Error (DiscardParam × List Char) := do
  let (j, rest) ← orMalformed (value (2 * cs.length + 2) (maxDepth - 1) cs)
  match j with
  | .str s => return (.joined s, rest)
  | .arr l =>
    match texts? l with
    | some l => return (.list l, rest)
    | none => .error (.badDiscard place)
  | _ => .error (.badDiscard place)

mutual

/-- The rest behind a value that is not looked at: numbers of any size, code units of any kind and
any depth are fine. -/
def ignored : Nat → List Char → Option (List Char)
  | 0, _ => none
  | fuel + 1, cs =>
    match skipBlank cs with
    | [] => none
    | 'n' :: rest => word "ull" rest
    | 't' :: rest => word "rue" rest
    | 'f' :: rest => word "alse" rest
    | '"' :: rest => (units [] rest).map (·.2)
    | '[' :: rest =>
      match skipBlank rest with
      | ']' :: rest => some rest
      | rest => ignoredItems fuel rest
    | '\x7b' :: rest =>
      match skipBlank rest with
      | '\x7d' :: rest => some rest
      | rest => ignoredFields fuel rest
    | cs => (numeral cs).map (·.2)

def ignoredItems : Nat → List Char → Option (List Char)
  | 0, _ => none
  | fuel + 1, cs => do
    let rest ← ignored fuel cs
    match skipBlank rest with
    | ']' :: rest => some rest
    | ',' :: rest => ignoredItems fuel rest
    | _ => none

def ignoredFields : Nat → List Char → Option (List Char)
  | 0, _ => none
  | fuel + 1, cs =>
    match skipBlank cs with
    | '"' :: rest => do
      let (_, rest) ← units [] rest
      match skipBlank rest with
      | ':' :: rest =>
        let rest ← ignored fuel rest
        match skipBlank rest with
        | '\x7d' :: rest => some rest
        | ',' :: rest => ignoredFields fuel rest
        | _ => none
      | _ => none
    | _ => none

end

structure Told : Type where
  names : List String := []
  inquiry : Inquiry := {}

def field (t : Told) (name : String) (cs : List Char) : Except Error (Told × List Char) :=
  let told (q : Inquiry) : Told := ⟨name :: t.names, q⟩
  match name with
  | "language" => (nullable (text name) cs).map fun (v, rest) =>
    (told { t.inquiry with language := v }, rest)
  | "text" => (nullable (text name) cs).map fun (v, rest) =>
    (told { t.inquiry with text := v }, rest)
  | "discard" => (nullable (discard name) cs).map fun (v, rest) =>
    (told { t.inquiry with discard := v }, rest)
  | "annotate" => (nullable (boolean name) cs).map fun (v, rest) =>
    (told { t.inquiry with annotate := v }, rest)
  | _ => (orMalformed (ignored (2 * cs.length + 2) cs)).map (t, ·)

def fields (t : Told) : Nat → List Char → Except Error Inquiry
  | 0, _ => .error .malformed
  | fuel + 1, cs =>
    match skipBlank cs with
    | '"' :: rest => do
      let (name, rest) ← orMalformed (Json.Read.string rest)
      if name ∈ t.names then throw (.duplicate name)
      match skipBlank rest with
      | ':' :: rest =>
        let (t, rest) ← field t name rest
        match skipBlank rest with
        | '\x7d' :: _ => return t.inquiry
        | ',' :: rest => fields t fuel rest
        | _ => .error .malformed
      | _ => .error .malformed
    | _ => .error .malformed

/-- The rest at the item with the given number of an array, from behind the item before it; nothing
if the array ends there. -/
def item? (n : Nat) (cs : List Char) : Except Error (Option (List Char)) :=
  match skipBlank cs with
  | [] => .error .malformed
  | ']' :: _ => .ok none
  | c :: rest =>
    if n = 0 then .ok (some (c :: rest))
    else if c = ',' then
      match skipBlank rest with
      | [] => .error .malformed
      | ']' :: _ => .error .malformed
      | rest => .ok (some rest)
    else .error .malformed

def item {α : Type} (n : Nat) (f : String → List Char → Except Error (α × List Char))
    (cs : List Char) : Except Error (Option α × List Char) := do
  match ← item? n cs with
  | none => .error (.tooShort n)
  | some cs => nullable (f s!"[{n}]") cs

def array (cs : List Char) : Except Error Inquiry := do
  let (language, cs) ← item 0 text cs
  let (text, cs) ← item 1 Body.text cs
  let (discard, cs) ← item 2 Body.discard cs
  let (annotate, cs) ← item 3 boolean cs
  match skipBlank cs with
  | ']' :: _ => return ⟨language, text, discard, annotate⟩
  | _ => .error .malformed

def inquiry (body : ByteArray) : Except Error Inquiry :=
  let cs := Utf8.validPart body.toList
  match skipBlank cs with
  | '[' :: rest => array rest
  | '\x7b' :: rest =>
    match skipBlank rest with
    | '\x7d' :: _ => .ok {}
    | rest => fields {} (rest.length + 1) rest
  | cs => mismatch none "struct LexRequest" cs

end Lexicon.Http.Body
