namespace Lexicon.CommandLine

structure Opt : Type where
  name : String
  letter : Option Char := none
  hasValue : Bool := true
  choices : Option (List String) := none

structure Grammar : Type where
  options : List Opt
  places : Nat

inductive Arg : Type
  | option : String → String → Arg
  | flag : String → Arg
  | other : String → Arg
  deriving DecidableEq

inductive Exit : Type
  | usage : Exit
  | version : Exit
  | help : Exit
  deriving DecidableEq

inductive Reading : Type
  | args : List Arg → Reading
  | wants : List Arg → String → Reading
  | exit : Exit → Reading

def flagOrExit (name : String) : Reading :=
  if name = "version" then .exit .version
  else if name = "help" then .exit .help
  else .args [.flag name]

def readLong (table : List Opt) (cs : List Char) : Reading :=
  let name : String := .ofList (cs.takeWhile (· ≠ '='))
  match table.find? (·.name == name), cs.dropWhile (· ≠ '=') with
  | none, _ => .exit .usage
  | some o, [] => if o.hasValue then .wants [] name else flagOrExit name
  | some o, _ :: value => if o.hasValue then .args [.option name (.ofList value)] else .exit .usage

/-- An argument that starts with one dash, from behind it: letters of flags, of which the last may
be that of an option with a value. -/
def readShort (table : List Opt) : List Char → Reading
  | [] => .args []
  | c :: rest =>
    match table.find? (·.letter == some c) with
    | none => .exit .usage
    | some o =>
      if o.hasValue then
        match rest with
        | [] => .wants [] o.name
        | '=' :: value => .args [.option o.name (.ofList value)]
        | value => .args [.option o.name (.ofList value)]
      else
        match flagOrExit o.name, readShort table rest with
        | .exit e, _ => .exit e
        | .args l, .args more => .args (l ++ more)
        | .args l, .wants more name => .wants (l ++ more) name
        | _, .exit e => .exit e
        | .wants l name, _ => .wants l name

def looksLikeOption (s : String) : Bool :=
  match s.toList with
  | '-' :: _ :: _ => true
  | _ => false

def readArg (table : List Opt) (s : String) : Reading :=
  match s.toList with
  | '-' :: '-' :: cs => readLong table cs
  | '-' :: c :: cs => readShort table (c :: cs)
  | _ => .args [.other s]

def Arg.name? : Arg → Option String
  | option name _ => some name
  | flag name => some name
  | other _ => none

def Grammar.admits (g : Grammar) (done : List Arg) : Arg → Bool
  | .option name value =>
    done.all (·.name? != some name) &&
      g.options.all fun o => o.name != name || o.choices.all (value ∈ ·)
  | .flag name => done.all (·.name? != some name)
  | .other _ => done.countP (·.name?.isNone) < g.places

def Grammar.add (g : Grammar) (done l : List Arg) : Except Exit (List Arg) :=
  l.foldlM (fun done a => if g.admits done a then .ok (done ++ [a]) else .error .usage) done

/-- Reads arguments, the first of which are `done`. With `stop` the first argument that is no option
ends the reading, and is given back with those behind it. -/
def Grammar.read (g : Grammar) (stop : Bool) (done : List Arg) :
    List String → Except Exit (List Arg × List String)
  | [] => .ok (done, [])
  | a :: rest =>
    if a = "--" then
      if stop then .error .usage else (g.add done (rest.map .other)).map (·, [])
    else if stop && !looksLikeOption a then .ok (done, a :: rest)
    else
      match readArg g.options a, rest with
      | .args l, rest => do
        let done ← g.add done l
        g.read stop done rest
      | .wants l name, value :: rest =>
        if looksLikeOption value then .error .usage
        else do
          let done ← g.add done (l ++ [.option name value])
          g.read stop done rest
      | .wants _ _, [] => .error .usage
      | .exit e, _ => .error e

inductive Format : Type
  | tokens : Format
  | json : Format
  | yaml : Format
  | html : Format
  deriving DecidableEq

def Format.parse? : String → Option Format
  | "tokens" => some tokens
  | "json" => some json
  | "yaml" => some yaml
  | "html" => some html
  | _ => none

structure LexArguments : Type where
  language : String
  path : Option String
  format : Format
  discard : Option String
  annotate : Bool
  deriving DecidableEq

inductive Command : Type
  | lex : LexArguments → Command
  | languages : Option String → Command
  | serve : Option String → Command
  deriving DecidableEq

structure Invocation : Type where
  config : Option String
  command : Command
  deriving DecidableEq

def configOpt : Opt := { name := "config", letter := some 'c' }

def helpOpt : Opt := { name := "help", letter := some 'h', hasValue := false }

def top : Grammar :=
  ⟨[configOpt, helpOpt, { name := "version", letter := some 'V', hasValue := false }], 0⟩

def lexGrammar : Grammar :=
  ⟨[configOpt, helpOpt,
    { name := "format", letter := some 'f', choices := some ["tokens", "json", "yaml", "html"] },
    { name := "discard", letter := some 'd' }, { name := "annotate", hasValue := false }], 2⟩

def languagesGrammar : Grammar := ⟨[configOpt, helpOpt], 1⟩

def serveGrammar : Grammar := ⟨[configOpt, helpOpt, { name := "address", letter := some 'a' }], 0⟩

def value? (name : String) (l : List Arg) : Option String :=
  l.findSome? fun
    | .option n v => if n = name then some v else none
    | _ => none

def others (l : List Arg) : List String :=
  l.filterMap fun
    | .other s => some s
    | _ => none

def lexCommand (l : List Arg) : Option Command := do
  let format ← Format.parse? ((value? "format" l).getD "tokens")
  let build (language : String) (path : Option String) : Command :=
    .lex ⟨language, path, format, value? "discard" l, .flag "annotate" ∈ l⟩
  match others l with
  | [language] => some (build language none)
  | [language, path] => some (build language (some path))
  | _ => none

def languagesCommand (l : List Arg) : Option Command :=
  match others l with
  | [] => some (.languages none)
  | [language] => some (.languages (some language))
  | _ => none

def serveCommand (l : List Arg) : Option Command :=
  if (others l).isEmpty then some (.serve (value? "address" l)) else none

def command? : String → Option (Grammar × (List Arg → Option Command))
  | "lex" => some (lexGrammar, lexCommand)
  | "languages" => some (languagesGrammar, languagesCommand)
  | "serve" => some (serveGrammar, serveCommand)
  | _ => none

def helpOn : List String → Exit
  | [] => .help
  | "help" :: rest => helpOn rest
  | [name] => if (command? name).isSome then .help else .usage
  | _ => .usage

/-- Reads all arguments. A file of settings given behind the command counts before one given in
front of it. -/
def parse (args : List String) : Except Exit Invocation := do
  let (general, rest) ← top.read true [] args
  match rest with
  | [] => .error .usage
  | "help" :: rest => .error (helpOn rest)
  | name :: rest =>
    match command? name with
    | none => .error .usage
    | some (grammar, meaning) =>
      let (own, _) ← grammar.read false [] rest
      match meaning own with
      | some command => return ⟨(value? "config" own).or (value? "config" general), command⟩
      | none => .error .usage

end Lexicon.CommandLine
