import Lexicon.Dict
import Lexicon.Text.Case

/-!
Values of settings, layered over each other.

A table that is laid over a table is merged into it name by name, in whichever order its names are
walked; any other value replaces what it is laid over. Names are compared in lower case.
-/

namespace Lexicon.Settings

open Text

inductive Scalar : Type
  | nil : Scalar
  | bool : Bool → Scalar
  | int : Int → Scalar
  | float : Float → Scalar
  | text : String → Scalar

inductive Value : Type
  | scalar : Option String → Scalar → Value
  | array : Option String → List Value → Value
  | table : Option String → List (String × Value) → Value

namespace Value

def nil : Value := scalar none .nil

instance : Inhabited Value := ⟨nil⟩

def emptyTable : Value := table none []

def get? : Value → String → Option Value
  | table _ d, name => Dict.get? d name
  | _, _ => none

def insert (base : Value) (name : String) (v : Value) : Value :=
  match base with
  | table origin d => table origin (Dict.insert name v d)
  | _ => table none [(name, v)]

def items : Value → List Value
  | array _ l => l
  | _ => []

def withItems (base : Value) (l : List Value) : Value :=
  match base with
  | array origin _ => array origin l
  | _ => array none l

mutual

def overlay (base : Value) (name : String) : Value → Value
  | table _ d =>
    base.insert (lowerCase name)
      (overlayAll ((base.get? (lowerCase name)).getD emptyTable) d)
  | scalar origin s => base.insert (lowerCase name) (scalar origin s)
  | array origin l => base.insert (lowerCase name) (array origin l)

def overlayAll (base : Value) : List (String × Value) → Value
  | [] => base
  | (name, v) :: rest => overlayAll (overlay base name v) rest

end

end Value

/-- The order in which the entries of a map are walked, whatever it is. -/
structure Shuffle : Type 1 where
  order {α : Type} : List α → List α
  perm {α : Type} (l : List α) : (order l).Perm l

def Shuffle.given : Shuffle := ⟨id, fun _ => .rfl⟩

mutual

def Value.reorder (w : Shuffle) : Value → Value
  | .table origin d => .table origin (w.order (reorderEntries w d))
  | v => v

def Value.reorderEntries (w : Shuffle) : List (String × Value) → List (String × Value)
  | [] => []
  | (name, v) :: rest => (name, Value.reorder w v) :: reorderEntries w rest

end

end Lexicon.Settings
