import Lexicon.Service
import Lexicon.Text.Numeral
import Lexicon.Text.Utf8

namespace Lexicon.Http.Form

open Text

/-- A plus is a space, and a percent sign with two hexadecimal digits is a byte; one without them
stands for itself. -/
def decodeBytes : List UInt8 → List UInt8
  | [] => []
  | 0x25 :: a :: b :: rest =>
    match hexValue? (.ofNat a.toNat), hexValue? (.ofNat b.toNat) with
    | some hi, some lo => .ofNat (16 * hi + lo) :: decodeBytes rest
    | _, _ => 0x25 :: decodeBytes (a :: b :: rest)
  | c :: rest => (if c = 0x2B then 0x20 else c) :: decodeBytes rest

def decode (cs : List Char) : String :=
  .ofList (Utf8.decodeLossy (decodeBytes (String.ofList cs).toUTF8.toList))

def splitPairs (cs : List Char) : List (List Char) :=
  match cs with
  | [] => [[]]
  | c :: rest =>
    if c = '&' then [] :: splitPairs rest
    else
      match splitPairs rest with
      | [] => [[c]]
      | first :: more => (c :: first) :: more

def pairs (query : String) : List (String × String) :=
  ((splitPairs query.toList).filter (!·.isEmpty)).map fun cs =>
    (decode (cs.takeWhile (· ≠ '=')), decode ((cs.dropWhile (· ≠ '=')).drop 1))

inductive Error : Type
  | duplicate : String → Error
  | notBoolean : Error
  deriving DecidableEq

namespace Error

def message (e : Error) : String :=
  "Failed to deserialize query string: " ++
    match e with
    | duplicate name => s!"duplicate field `{name}`"
    | notBoolean => "provided string was not `true` or `false`"

end Error

def add (q : Inquiry) (name value : String) : Except Error Inquiry :=
  match name with
  | "language" =>
    if q.language.isSome then .error (.duplicate name) else .ok { q with language := some value }
  | "text" => if q.text.isSome then .error (.duplicate name) else .ok { q with text := some value }
  | "discard" =>
    if q.discard.isSome then .error (.duplicate name)
    else .ok { q with discard := some (.joined value) }
  | "annotate" =>
    if q.annotate.isSome then .error (.duplicate name)
    else if value = "true" then .ok { q with annotate := some true }
    else if value = "false" then .ok { q with annotate := some false }
    else .error .notBoolean
  | _ => .ok q

def inquiry (query : String) : Except Error Inquiry :=
  (pairs query).foldlM (fun q (name, value) => add q name value) {}

end Lexicon.Http.Form
