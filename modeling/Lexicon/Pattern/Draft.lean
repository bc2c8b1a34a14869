import Lexicon.Pattern.Piece

namespace Lexicon

/-- An expression with the depth to which its parts are nested, and about how many bytes an automaton
for it needs. A change of flags is an item that matches nothing and cannot be repeated. -/
structure Item : Type where
  regex : Regex
  depth : Nat
  size : Nat
  repeats : Bool := true

namespace Item

def join (combine : List Regex → Regex) (extra : Nat) (l : List Item) : Item where
  regex := combine (l.map regex)
  depth := (l.map depth).foldl max 0 + if l.length ≤ 1 then 0 else 1
  size := max 32 ((l.map size).foldl (· + ·) 0) + if l.length ≤ 1 then 0 else extra

/-- The size with all rounds written out. What matches nothing but the empty text is written once. -/
def sizeTimes (i : Item) (lo : Nat) (hi : Option Nat) : Nat :=
  if i.regex.hollow then i.size
  else match hi with
    | none => max lo 1 * i.size + 40
    | some hi => max 32 (lo * i.size) + (hi - lo) * (i.size + 40)

def times (i : Item) (lo : Nat) (hi : Option Nat) : Item where
  regex := .rep i.regex lo hi
  depth := i.depth + 1
  size := i.sizeTimes lo hi

def grouped (i : Item) (captures : Bool) : Item :=
  { i with depth := i.depth + 1, size := i.size + if captures then 64 else 0 }

end Item

/-- An open group: its finished alternatives and the items of the last one, both latest first. -/
structure Group : Type where
  done : List Item := []
  items : List Item := []

namespace Group

def add (g : Group) (i : Item) : Group := { g with items := i :: g.items }

def bar (g : Group) : Group := ⟨.join .concat 0 g.items.reverse :: g.done, []⟩

def close (g : Group) : Item := .join .choice 72 g.bar.done.reverse

def times (g : Group) (lo : Nat) (hi : Option Nat) : Option Group :=
  match g.items with
  | [] => none
  | i :: rest => if i.repeats then some { g with items := i.times lo hi :: rest } else none

end Group

/-- A pattern up to some piece: the flags in force, the names of its groups, the innermost open
group, and the groups around it. With each of these stand the flags to return to, and whether the
group that is open in it captures. -/
structure Draft : Type where
  flags : Flags := {}
  names : List String := []
  top : Group := {}
  below : List (Flags × Bool × Group) := []

namespace Draft

def push? (d : Draft) : Piece → Option Draft
  | .single r depth size => some { d with top := d.top.add ⟨r, depth, size, true⟩ }
  | .setFlags f => some { d with flags := f, top := d.top.add ⟨.empty, 0, 0, false⟩ }
  | .enter f captures name =>
    if name.any (· ∈ d.names) then none
    else some ⟨f, name.toList ++ d.names, {}, (d.flags, captures, d.top) :: d.below⟩
  | .leave =>
    match d.below with
    | [] => none
    | (f, captures, g) :: below =>
      some { d with flags := f, top := g.add (d.top.close.grouped captures), below }
  | .bar => some { d with top := d.top.bar }
  | .times lo hi => (d.top.times lo hi).map fun g => { d with top := g }

/-- Takes all pieces of a text. Each of them has at least one character, so the number of
characters is fuel enough. -/
def read [Regex.Engine] (d : Draft) : Nat → List Char → Option Draft
  | 0, _ => none
  | fuel + 1, cs =>
    match skip d.flags.extended cs with
    | [] => some d
    | cs => do
      let (p, rest) ← Piece.read d.flags cs
      let d ← d.push? p
      d.read fuel rest

def finish? (d : Draft) : Option Item := if d.below.isEmpty then some d.top.close else none

end Draft

namespace Regex

def maxDepth : Nat := 250

variable [Engine]

/-- Reads a pattern, however deep and large it is. -/
def item? (text : List Char) : Option Item :=
  (Draft.read {} (text.length + 1) text).bind Draft.finish?

def read? (text : List Char) : Option Regex := do
  let i ← item? text
  if i.depth ≤ maxDepth ∧ Engine.fits text i.size then some i.regex else none

end Regex

end Lexicon
