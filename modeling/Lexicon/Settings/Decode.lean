import Lexicon.Settings.Error
import Lexicon.Text.Numeral

namespace Lexicon

open Text

structure ServerSettings : Type where
  address : String
  maxInputBytes : Nat
  deriving DecidableEq

structure RenderSettings : Type where
  rawCategories : List String
  annotate : Bool
  deriving DecidableEq

structure Settings : Type where
  server : ServerSettings
  render : RenderSettings
  languages : Dict (List String)

namespace Settings

def discardFor (s : Settings) (language : String) : List String :=
  (Dict.get? s.languages language).getD []

namespace Decode

def fail {α : Type} (v : Value) (w : Wanted) : Except Error α :=
  let origin := match v with
    | .scalar origin _ => origin
    | .array origin _ => origin
    | .table origin _ => origin
  .error (.conversion (.ofValue v) w origin "")

def truthWord? : String → Option Bool
  | "true" => some true
  | "on" => some true
  | "yes" => some true
  | "false" => some false
  | "off" => some false
  | "no" => some false
  | _ => none

def decimal? (s : String) : Option Nat :=
  let digits := match s.toList with
    | '+' :: rest => rest
    | cs => cs
  let n := Numeral.ofDigits digits
  if digits.isEmpty ∨ !digits.all Char.isDigit ∨ span 64 ≤ n then none else some n

/-- Texts may be a truth value or a decimal number. Floating point numbers are rounded, halves away
from zero, and cut to the range of 64 bits. -/
def unsigned (v : Value) : Except Error Nat :=
  match v with
  | .scalar _ (.bool b) => .ok b.toNat
  | .scalar _ (.int n) => if 0 ≤ n then .ok n.toNat else fail v .unsigned
  | .scalar _ (.float x) => .ok x.round.toUInt64.toNat
  | .scalar _ (.text s) =>
    match truthWord? (lowerCase s), decimal? s with
    | some b, _ => .ok b.toNat
    | none, some n => .ok n
    | none, none => fail v .integer
  | _ => fail v .integer

def boolean (v : Value) : Except Error Bool :=
  match v with
  | .scalar _ (.bool b) => .ok b
  | .scalar _ (.int n) => .ok (n != 0)
  | .scalar _ (.float x) => .ok (x != 0.0)
  | .scalar origin (.text s) =>
    let s := lowerCase s
    match truthWord? s with
    | some b => .ok b
    | none =>
      if s = "1" then .ok true
      else if s = "0" then .ok false
      else fail (.scalar origin (.text s)) .boolean
  | _ => fail v .boolean

def string (v : Value) : Except Error String :=
  match v with
  | .scalar _ (.bool b) => .ok (toString b)
  | .scalar _ (.int n) => .ok (toString n)
  | .scalar _ (.float x) => .ok (plainFloat x)
  | .scalar _ (.text s) => .ok s
  | _ => fail v .string

def under {α : Type} (segment : String) (r : Except Error α) : Except Error α :=
  r.mapError (·.within segment)

def strings (v : Value) : Except Error (List String) :=
  match v with
  | .array _ l => go 0 l
  | _ => .error (.shape (.ofValue v) .sequence)
where
  go (n : Nat) : List Value → Except Error (List String)
    | [] => .ok []
    | v :: rest => do
      let s ← under s!"[{n}]" (string v)
      let more ← go (n + 1) rest
      return s :: more

def field {α : Type} (v : Value) (name : String) (f : Value → Except Error α) : Except Error α :=
  match v.get? name with
  | some v => under name (f v)
  | none => .error (.missingField name)

def pair {α β γ : Type} (record nameA nameB : String) (f : Value → Except Error α)
    (g : Value → Except Error β) (mk : α → β → γ) (v : Value) : Except Error γ :=
  match v with
  | .table _ _ => do
    let a ← field v nameA f
    let b ← field v nameB g
    return mk a b
  | .array _ l =>
    match l with
    | [] => .error (.tooShort 0 (.record record) 2)
    | [x] => (under "[0]" (f x)).bind fun _ => .error (.tooShort 1 (.record record) 2)
    | x :: y :: _ => do
      let a ← under "[0]" (f x)
      let b ← under "[1]" (g y)
      return mk a b
  | _ => .error (.shape (.ofValue v) (.record record))

def server : Value → Except Error ServerSettings :=
  pair "ServerConfig" "address" "max_input_bytes" string unsigned .mk

def render : Value → Except Error RenderSettings :=
  pair "RenderConfig" "raw_categories" "annotate" strings boolean .mk

def language (v : Value) : Except Error (List String) :=
  match v with
  | .table _ _ =>
    match v.get? "discard" with
    | some v => under "discard" (strings v)
    | none => .ok []
  | .array _ [] => .ok []
  | .array _ (x :: _) => under "[0]" (strings x)
  | _ => .error (.shape (.ofValue v) (.record "LanguageConfig"))

def languages (v : Value) : Except Error (Dict (List String)) :=
  match v with
  | .table _ d => go d
  | _ => .error (.shape (.ofValue v) .map)
where
  go : List (String × Value) → Except Error (Dict (List String))
    | [] => .ok []
    | (name, v) :: rest => do
      let l ← under name (language v)
      let more ← go rest
      return Dict.insert name l more

end Decode

def decode (v : Value) : Except Error Settings := do
  let server ← Decode.field v "server" Decode.server
  let render ← Decode.field v "render" Decode.render
  let languages ← match v.get? "languages" with
    | some v => Decode.under "languages" (Decode.languages v)
    | none => .ok []
  return ⟨server, render, languages⟩

end Settings

end Lexicon
