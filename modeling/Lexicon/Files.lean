namespace Lexicon

abbrev Files : Type := List (String × ByteArray)

inductive ReadError : Type
  | missing : ReadError
  | notDirectory : ReadError
  | isDirectory : ReadError
  | notText : ReadError
  deriving DecidableEq

namespace ReadError

def message : ReadError → String
  | missing => "No such file or directory (os error 2)"
  | notDirectory => "Not a directory (os error 20)"
  | isDirectory => "Is a directory (os error 21)"
  | notText => "stream did not contain valid UTF-8"

end ReadError

namespace Files

inductive Place : Type
  | outside : Place
  | directory : List String → Place
  | file : ByteArray → Place

def join (parts : List String) : String := "/".intercalate parts

def normal (name : String) : String :=
  join ((name.splitOn "/").filter fun part => part != "" && part != ".")

def hasDirectory (files : Files) (parts : List String) : Bool :=
  files.any fun (name, _) => (join parts ++ "/").toList.isPrefixOf name.toList

def enter (files : Files) (parts : List String) : Except ReadError Place :=
  match files.lookup (join parts) with
  | some bytes => .ok (.file bytes)
  | none => if files.hasDirectory parts then .ok (.directory parts) else .error .missing

def Place.walk (files : Files) (place : Place) (part : String) : Except ReadError Place :=
  match place with
  | .file _ => .error .notDirectory
  | .outside => if part ∈ ["", ".", ".."] then .ok .outside else .error .missing
  | .directory parts =>
    if part ∈ ["", "."] then .ok place
    else if part = ".." then
      if parts.isEmpty then .ok .outside else .ok (.directory parts.dropLast)
    else files.enter (parts ++ [part])

/-- The place of a name. One under which a file is known needs no walk, and an absolute one starts
outside. -/
def locate (files : Files) (name : String) : Except ReadError Place :=
  if name.isEmpty then .error .missing
  else
    match files.enter [name] with
    | .ok place => .ok place
    | .error _ =>
      let origin := if name.toList.head? = some '/' then Place.outside else .directory []
      (name.splitOn "/").foldlM (Place.walk files) origin

def get? (files : Files) (name : String) : Option ByteArray :=
  match files.locate name with
  | .ok (.file bytes) => some bytes
  | _ => none

def decode (bytes : ByteArray) : Except ReadError String :=
  match String.fromUTF8? bytes with
  | some s => .ok s
  | none => .error .notText

def readText (files : Files) (name : String) : Except ReadError String := do
  match ← files.locate name with
  | .file bytes => decode bytes
  | _ => .error .isDirectory

end Files

end Lexicon
