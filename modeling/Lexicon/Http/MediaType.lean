namespace Lexicon.Http.MediaType

def isToken (c : Char) : Bool :=
  c.isAlphanum || "!#$%&*+-.^_|~\x27\x60".toList.contains c

def isQuotedChar (c : Char) : Bool := (0x20 ≤ c.toNat && c.toNat < 0x7f) || c == '\t'

def afterQuoted (cs : List Char) : Option (List Char) :=
  match cs.dropWhile (· ≠ '"') with
  | [] => none
  | _ :: rest =>
    let value := cs.takeWhile (· ≠ '"')
    if value.isEmpty ∨ !value.all isQuotedChar then none
    else
      match rest.dropWhile (· == ' ') with
      | [] => some []
      | ';' :: rest => some rest
      | _ => none

def afterParameter (cs : List Char) : Option (List Char) :=
  let name := cs.takeWhile isToken
  if name.isEmpty then none
  else
    match cs.dropWhile isToken with
    | '=' :: '"' :: rest => afterQuoted rest
    | '=' :: rest =>
      match rest.takeWhile isToken, rest.dropWhile isToken with
      | _, [] => some []
      | [], _ => none
      | _, ';' :: rest => some rest
      | _, _ => none
    | _ => none

/-- Are these parameters, each with spaces in front? Each has at least one character, so the number
of characters is fuel enough. -/
def parameters : Nat → List Char → Bool
  | 0, cs => cs.isEmpty
  | fuel + 1, cs =>
    match cs.dropWhile (· == ' ') with
    | [] => true
    | cs =>
      match afterParameter cs with
      | some rest => parameters fuel rest
      | none => false

def splitSuffix (cs : List Char) : List Char × Option (List Char) :=
  let suffix := cs.reverse.takeWhile (· ≠ '+')
  if cs.length ≤ suffix.length + 1 then (cs, none)
  else (cs.take (cs.length - suffix.length - 1), some suffix.reverse)

def isJson (s : String) : Bool :=
  let cs := s.toList.map Char.toLower
  let type := cs.takeWhile isToken
  match cs.dropWhile isToken with
  | '/' :: rest =>
    let full := rest.takeWhile isToken
    let (subtype, suffix) := splitSuffix full
    let json := "json".toList
    type == "application".toList && !full.isEmpty && (subtype == json || suffix == some json) &&
      match rest.dropWhile isToken with
      | [] => true
      | ';' :: rest => parameters (rest.length + 1) rest
      | _ => false
  | _ => false

end Lexicon.Http.MediaType
