import Lexicon.Stage.Splice
import Lexicon.Stage.Table

namespace Lexicon

open Text

structure Stage : Type where
  name : String
  apply : List Token → Except Refusal (List Token)

namespace Stage

def splice (s : Splice) : Stage := ⟨"splice", fun l => .ok (s.apply l)⟩

def merge (category : String) : Stage := ⟨"merge", fun l => .ok (Merge.apply category l)⟩

def table (n : Table) : Stage := ⟨"table-retag", n.apply⟩

def refuse (name message : String) : Stage := ⟨name, fun _ => .error (.because name message)⟩

end Stage

abbrev Pipeline : Type := List Stage

namespace Pipeline

def run : Pipeline → List Token → Except Refusal (List Token)
  | [], l => .ok l
  | s :: rest, l => (s.apply l).bind (run rest)

def names (p : Pipeline) : List String := p.map Stage.name

def describe (p : Pipeline) : String :=
  "TransformPipeline \x7b stages: " ++ quotedList (names p) ++ " \x7d"

end Pipeline

end Lexicon
