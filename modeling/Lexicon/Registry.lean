import Lexicon.Bundled
import Lexicon.Lexer

namespace Lexicon

abbrev Registry : Type := Dict Language

namespace Registry

def register (r : Registry) (l : Language) : Registry := Dict.insert l.name l r

def get? (r : Registry) (name : String) : Option Language := Dict.get? r name

def has (r : Registry) (name : String) : Bool := (r.get? name).isSome

def languages (r : Registry) : List String := Dict.names r

def lexer (r : Registry) (name : String) (discard : List String) : Except LexError Lexer :=
  match r.get? name with
  | some l => Lexer.withDiscard l discard
  | none => .error (.configuration (.unknownLanguage name))

end Registry

namespace Bundled

def declarations : List (String × List Clause) :=
  [("ash", ash), ("bnf", bnf), ("json", json), ("lua", lua), ("markup", markup),
    ("python", python)]

def registry : Registry :=
  declarations.foldl (fun r (name, clauses) =>
    match Language.build name clauses with
    | .ok l => r.register l
    | .error _ => r) []

end Bundled

end Lexicon
