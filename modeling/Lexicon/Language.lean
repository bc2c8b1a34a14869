import Lexicon.Dict
import Lexicon.Pattern
import Lexicon.Stage

namespace Lexicon

structure Category : Type where
  name : String
  patterns : List Pattern

namespace Category

def build [Regex.Engine] (name : String) (sources : List String) : Except Fault Category :=
  if sources.isEmpty then .error (.noPatterns name)
  else do
    let patterns ← sources.mapM fun s =>
      match Pattern.compile? s with
      | some p => .ok p
      | none => .error (.badPattern s)
    return ⟨name, patterns⟩

end Category

structure Language : Type where
  name : String
  categories : List Category
  wrong : List String
  metadata : Dict String
  pipeline : Option Pipeline

inductive Clause : Type
  | category : String → List String → Clause
  | wrongCategory : String → List String → Clause
  | wrong : String → Clause
  | metadata : String → String → Clause
  | pipeline : Pipeline → Clause

namespace Clause

def category? : Clause → Option (String × List String)
  | category name sources => some (name, sources)
  | wrongCategory name sources => some (name, sources)
  | _ => none

def wrong? : Clause → Option String
  | wrongCategory name _ => some name
  | wrong name => some name
  | _ => none

def metadata? : Clause → Option (String × String)
  | metadata key value => some (key, value)
  | _ => none

def pipeline? : Clause → Option Pipeline
  | pipeline p => some p
  | _ => none

end Clause

def firstRepeated? : List String → List String → Option String
  | _, [] => none
  | seen, name :: rest => if name ∈ seen then some name else firstRepeated? (name :: seen) rest

namespace Language

def categoryNames (l : Language) : List String := l.categories.map (·.name)

def hasCategory (l : Language) (name : String) : Bool := name ∈ l.categoryNames

def isWrong (l : Language) (category : String) : Bool := category ∈ l.wrong

def checkCategories (l : Language) (names : List String) : Except Fault Unit :=
  match names.find? fun name => !l.hasCategory name with
  | some name => .error (.unknownCategory l.name name)
  | none => .ok ()

/-- Builds a language from its declaration. Of two values for one key, and of two pipelines, the
later counts. -/
def build [Regex.Engine] (name : String) (clauses : List Clause) : Except Fault Language := do
  let categories ← (clauses.filterMap Clause.category?).mapM fun (n, sources) =>
    Category.build n sources
  let names := categories.map (·.name)
  let wrong := clauses.filterMap Clause.wrong?
  if names.isEmpty then throw (.noCategories name)
  if let some n := firstRepeated? [] names then throw (.repeatedCategory name n)
  if let some n := wrong.find? (· ∉ names) then throw (.unknownWrong name n)
  return {
    name, categories, wrong
    metadata := .ofList (clauses.filterMap Clause.metadata?)
    pipeline := (clauses.filterMap Clause.pipeline?).getLast? }

end Language

end Lexicon
