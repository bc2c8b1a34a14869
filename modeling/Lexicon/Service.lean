import Lexicon.Html
import Lexicon.Registry
import Lexicon.Settings
import Lexicon.Text.Ranges

namespace Lexicon

open Text

def splitCommas (cs : List Char) : List (List Char) :=
  match cs with
  | [] => [[]]
  | c :: rest =>
    if c = ',' then [] :: splitCommas rest
    else
      match splitCommas rest with
      | [] => [[c]]
      | first :: more => (c :: first) :: more

inductive DiscardParam : Type
  | list : List String → DiscardParam
  | joined : String → DiscardParam
  deriving DecidableEq

namespace DiscardParam

def splitNames (s : String) : List String :=
  (((splitCommas s.toList).map trim).filter (!·.isEmpty)).map .ofList

def names : DiscardParam → List String
  | list l => l
  | joined s => splitNames s

end DiscardParam

/-- How a set of names is walked: in any order that reaches each of them. -/
structure Walk : Type where
  order : List String → List String
  mem_order (names : List String) (name : String) : name ∈ order names ↔ name ∈ names

def Walk.given : Walk := ⟨id, fun _ _ => .rfl⟩

structure Inquiry : Type where
  language : Option String := none
  text : Option String := none
  discard : Option DiscardParam := none
  annotate : Option Bool := none
  deriving DecidableEq

structure Reply : Type where
  input : String
  language : String
  tokens : List Token
  rendered : String
  deriving DecidableEq

inductive Failure : Type
  | missing : String → Failure
  | tooLong : Nat → Nat → Failure
  | unknownLanguage : String → Failure
  | lexing : LexError → Failure
  deriving DecidableEq

namespace Failure

def status : Failure → Nat
  | missing _ => 400
  | tooLong _ _ => 413
  | unknownLanguage _ => 400
  | lexing (.configuration _) => 400
  | lexing _ => 422

def message : Failure → String
  | missing name => s!"missing required parameter '{name}'"
  | tooLong size limit => s!"input is {size} bytes, the limit is {limit}"
  | unknownLanguage name => s!"unknown language '{name}'"
  | lexing e => e.message

end Failure

structure Service : Type where
  registry : Registry
  settings : Settings
  lexers : Dict Lexer

namespace Service

def start (registry : Registry) (settings : Settings) : Except LexError Service := do
  let lexers ← registry.languages.mapM fun name => do
    let x ← registry.lexer name (settings.discardFor name)
    return (name, x)
  return ⟨registry, settings, lexers⟩

def demand (name : String) : Option String → Except Failure String
  | some s => .ok s
  | none => .error (.missing name)

/-- Answers an inquiry. What it does not tell is taken from the settings. The names to discard make a
set, so that it is open which of several unknown ones is found first. -/
def answer (s : Service) (q : Inquiry) (w : Walk := .given) : Except Failure Reply := do
  let language ← demand "language" q.language
  let text ← demand "text" q.text
  if s.settings.server.maxInputBytes < text.utf8ByteSize then
    throw (.tooLong text.utf8ByteSize s.settings.server.maxInputBytes)
  let x ← match Dict.get? s.lexers language with
    | some x => .ok x
    | none => .error (.unknownLanguage language)
  let tokens ← (x.lexWith text (q.discard.map fun d => w.order d.names)).mapError .lexing
  let annotate := q.annotate.getD s.settings.render.annotate
  return ⟨text, language, tokens, Html.render s.settings.render.rawCategories annotate tokens⟩

end Service

end Lexicon
