import Lexicon.Files
import Lexicon.Settings.Decode
import Lexicon.Settings.Path
import Lexicon.Toml

namespace Lexicon.Settings

open Text

mutual

def Value.ofToml (origin : Option String) : Toml → Value
  | .bool b => .scalar origin (.bool b)
  | .int n => .scalar origin (.int n)
  | .float x => .scalar origin (.float x)
  | .text s => .scalar origin (.text s)
  | .array l => .array origin (ofTomlItems origin l)
  | .table l => .table origin (ofTomlEntries origin l)

def Value.ofTomlItems (origin : Option String) : List Toml → List Value
  | [] => []
  | v :: rest => Value.ofToml origin v :: ofTomlItems origin rest

def Value.ofTomlEntries (origin : Option String) : List (String × Toml) → List (String × Value)
  | [] => []
  | (name, v) :: rest => (name, Value.ofToml origin v) :: ofTomlEntries origin rest

end

def defaultsText : String :=
  "[server]\n" ++
  "address = \"127.0.0.1:8080\"\n" ++
  "max_input_bytes = 65536\n" ++
  "[render]\n" ++
  "raw_categories = [\"blank\", \"newline\"]\n" ++
  "annotate = false\n" ++
  "[languages.lua]\n" ++
  "discard = [\"blank\"]\n" ++
  "[languages.ash]\n" ++
  "discard = [\"blank\"]\n" ++
  "[languages.json]\n" ++
  "discard = [\"blank\"]\n" ++
  "[languages.bnf]\n" ++
  "discard = [\"blank\"]\n" ++
  "[languages.python]\n" ++
  "discard = [\"blank\"]\n" ++
  "[languages.markup]\n" ++
  "discard = []\n"

/-- Lays one entry of a file over `base`. The name of an entry at the top is a path if it reads as
one. -/
def layerEntry (base : Value) (name : String) (v : Value) : Except Error Value :=
  match Path.parse? name with
  | some p =>
    match base.put p v with
    | some base => .ok base
    | none => .error .indexBeforeStart
  | none => .ok (base.overlay name v)

def layer (base : Value) (origin : Option String) (text : String) (w : Shuffle := .given) :
    Except Error Value :=
  match Toml.parse? text with
  | some entries =>
    (w.order entries).foldlM
      (fun base (name, v) => layerEntry base name ((Value.ofToml origin v).reorder w)) base
  | none => .error (.badFile (origin.getD ""))

inductive Step : Type
  | file : String → Step
  | optionalFile : String → Step
  | override : String → Value → Step

namespace Step

def file? : Step → Option (String × Bool)
  | file name => some (name, true)
  | optionalFile name => some (name, false)
  | override _ _ => none

def override? : Step → Option (String × Value)
  | override key v => some (key, v)
  | _ => none

end Step

def findFile (files : Files) (name : String) : Option (String × ByteArray) :=
  let full := Files.normal name
  match files.get? name with
  | some bytes => some (full, bytes)
  | none => if full.isEmpty then none else (files.get? (full ++ ".toml")).map (full ++ ".toml", ·)

def layerFile (files : Files) (base : Value) (name : String) (required : Bool)
    (w : Shuffle := .given) : Except Error Value :=
  match findFile files name with
  | none => if required then .error (.missingFile name) else .ok base
  | some (full, bytes) =>
    match String.fromUTF8? bytes with
    | some text => layer base (some full) text w
    | none => if required then .error .notText else .ok base

def layerOverride (base : Value) (p : Path) (v : Value) : Except Error Value :=
  match base.put p v with
  | some base => .ok base
  | none => .error .indexBeforeStart

def lastOfEach : List (Path × Value) → List (Path × Value)
  | [] => []
  | e :: rest => if rest.any (·.1 = e.1) then lastOfEach rest else e :: lastOfEach rest

def overrides (steps : List Step) : Except Error (List (Path × Value)) :=
  (steps.filterMap Step.override?).mapM fun (key, v) =>
    match Path.parse? key with
    | some p => .ok (p, v)
    | none => .error .badPath

/-- The value that all layers give together. Tables are maps, and so are the overrides. -/
def value (files : Files) (steps : List Step) (w : Shuffle := .given) : Except Error Value := do
  let settings ← overrides steps
  let base ← layer .emptyTable none defaultsText w
  let base ← (steps.filterMap Step.file?).foldlM
    (fun base (name, required) => layerFile files base name required w) base
  (w.order (lastOfEach settings)).foldlM
    (fun base (p, v) => layerOverride base p (v.reorder w)) base

def load (files : Files) (steps : List Step) (w : Shuffle := .given) : Except Error Settings := do
  let v ← value files steps w
  decode v

end Lexicon.Settings
