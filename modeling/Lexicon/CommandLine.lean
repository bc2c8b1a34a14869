import Lexicon.CommandLine.Arguments
import Lexicon.Files
import Lexicon.Html
import Lexicon.Json
import Lexicon.Service
import Lexicon.Yaml

namespace Lexicon.CommandLine

def localSettings : String := "patlex.toml"

def versionLine : String := "patlex 0.1.0\n"

def usage : String :=
  "Usage:\n" ++
  "  patlex [-c FILE] lex LANGUAGE [PATH] [-f FORMAT] [-d CATEGORIES] [--annotate]\n" ++
  "  patlex [-c FILE] languages [LANGUAGE]\n" ++
  "  patlex [-c FILE] serve [-a ADDRESS]\n" ++
  "Formats: tokens, json, yaml, html\n"

inductive AddressError : Type
  | badAddress : AddressError
  | badPort : AddressError
  | unavailable : String → AddressError
  deriving DecidableEq

namespace AddressError

def message : AddressError → String
  | badAddress => "invalid socket address"
  | badPort => "invalid port value"
  | unavailable address => s!"cannot listen at {address}"

end AddressError

inductive Failure : Type
  | settings : Settings.Error → Failure
  | reading : String → ReadError → Failure
  | lexing : LexError → Failure
  | unknownLanguage : String → Failure
  | listening : AddressError → Failure

namespace Failure

def message : Failure → String
  | settings e => e.message
  | reading name e => s!"reading {name}: {e.message}"
  | lexing e => e.message
  | unknownLanguage name => s!"unknown language '{name}'"
  | listening e => e.message

end Failure

/-- The settings of a run: the local file, if there is one, and above it the file that is given. -/
def settings (files : Files) (path : Option String) : Except Failure Settings :=
  let given := path.toList.map Settings.Step.file
  (Settings.load files (.optionalFile localSettings :: given)).mapError .settings

def source (files : Files) (stdin : ByteArray) : Option String → Except Failure String
  | some path => (files.readText path).mapError (.reading path)
  | none => (Files.decode stdin).mapError (.reading "stdin")

namespace Format

def render (f : Format) (s : Settings) (annotate : Bool) (l : List Token) : String :=
  match f with
  | tokens => Listing.render l
  | json => (Json.ofTokens l).pretty 0
  | yaml => Yaml.render l
  | html => Html.render s.render.rawCategories (annotate || s.render.annotate) l

end Format

def lex (registry : Registry) (s : Settings) (files : Files) (stdin : ByteArray)
    (a : LexArguments) : Except Failure String := do
  let text ← source files stdin a.path
  let discard := match a.discard with
    | some names => DiscardParam.splitNames names
    | none => s.discardFor a.language
  let x ← (registry.lexer a.language discard).mapError .lexing
  let l ← (x.lex text).mapError .lexing
  return a.format.render s a.annotate l

/-! Languages -/

def padded (width : Nat) (s : String) : String :=
  s ++ .ofList (List.replicate (width - s.length) ' ')

def summary (name : String) (l : Language) : String :=
  let label := (Dict.get? l.metadata "name").getD name
  s!"  {padded 8 name} {padded 8 label} {l.categories.length} categories\n"

def details (l : Language) (c : Category) : String :=
  let mark := if l.isWrong c.name then " (wrong)" else ""
  c.name ++ mark ++ "\n" ++ String.join (c.patterns.map fun p => "    " ++ p.source ++ "\n")

def overview (registry : Registry) : String :=
  "Available languages:\n\n" ++ String.join (registry.languages.map fun name =>
    ((registry.get? name).map (summary name)).getD "")

def languages (registry : Registry) : Option String → Except Failure String
  | none => .ok (overview registry)
  | some name =>
    match registry.get? name with
    | some l => .ok (String.join (l.categories.map (details l)))
    | none => .error (.unknownLanguage name)

/-! Serving -/

def isPort (cs : List Char) : Bool :=
  let digits := match cs with
    | '+' :: rest => rest
    | cs => cs
  !digits.isEmpty && digits.all Char.isDigit && Text.Numeral.ofDigits digits < 65536

def checkAddress (address : String) : Except AddressError Unit :=
  let cs := address.toList
  if !cs.contains ':' then .error .badAddress
  else if !isPort (cs.reverse.takeWhile (· ≠ ':')).reverse then .error .badPort
  else .ok ()

/-- Starts the service. Listening itself needs a network, which a run does not have. -/
def serve (registry : Registry) (s : Settings) (address : Option String) :
    Except Failure String := do
  let _ ← (Service.start registry s).mapError .lexing
  let address := address.getD s.server.address
  (checkAddress address).mapError .listening
  .error (.listening (.unavailable address))

def execute (registry : Registry) (files : Files) (stdin : ByteArray) (i : Invocation) :
    Except Failure String := do
  let s ← settings files i.config
  match i.command with
  | .lex a => lex registry s files stdin a
  | .languages name => languages registry name
  | .serve address => serve registry s address

namespace Invocation

def files (i : Invocation) : List String :=
  let settings := localSettings :: i.config.toList
  settings ++ settings.map (Files.normal · ++ ".toml") ++
    match i.command with
    | .lex a => a.path.toList
    | _ => []

def readsInput (i : Invocation) : Bool :=
  match i.command with
  | .lex a => a.path.isNone
  | _ => false

end Invocation

structure Outcome : Type where
  code : Nat
  stdout : String := ""
  message : Option String := none
  deriving DecidableEq

namespace Outcome

def ofExit : Exit → Outcome
  | .usage => { code := 2 }
  | .version => { code := 0, stdout := versionLine }
  | .help => { code := 0, stdout := usage }

/-- Settings with an index before the start of its array end a run without a message. -/
def ofResult : Except Failure String → Outcome
  | .ok stdout => { code := 0, stdout := stdout }
  | .error (.settings .indexBeforeStart) => { code := 101 }
  | .error e => { code := 1, message := some e.message }

end Outcome

def run (registry : Registry) (files : Files) (stdin : ByteArray) (args : List String) : Outcome :=
  match parse args with
  | .ok i => .ofResult (execute registry files stdin i)
  | .error e => .ofExit e

end Lexicon.CommandLine
