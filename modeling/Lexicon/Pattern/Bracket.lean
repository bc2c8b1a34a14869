import Lexicon.Pattern.Escape

namespace Lexicon

namespace Bracket

structure Nested : Type where
  set : CharSet
  depth : Nat

inductive Operator : Type
  | inter : Operator
  | diff : Operator
  | symmDiff : Operator

def Operator.apply : Operator → CharSet → CharSet → CharSet
  | inter => .inter
  | diff => .diff
  | symmDiff => .symmDiff

/-- An open bracket: the operand and operator before the one that is being read, and the sets of
that one, with their number. -/
structure Level : Type where
  negated : Bool
  pending : Option (Nested × Operator) := none
  set : CharSet := .none
  items : Nat := 0
  depth : Nat := 0

namespace Level

def add (l : Level) (n : Nested) : Level :=
  { l with set := .union l.set n.set, items := l.items + 1, depth := max l.depth n.depth }

def addSet (l : Level) (s : CharSet) : Level := l.add ⟨s, 0⟩

def operand (l : Level) : Nested := ⟨l.set, if l.items ≤ 1 then l.depth else l.depth + 1⟩

/-- The value of the bracket up to here. Both operands of an operator are widened to all cases
before it applies. -/
def value (f : Flags) (l : Level) : Nested :=
  match l.pending with
  | none => l.operand
  | some (left, op) =>
    ⟨op.apply (f.fold left.set) (f.fold l.operand.set), max left.depth l.operand.depth + 1⟩

def operate (f : Flags) (l : Level) (op : Operator) : Level :=
  { negated := l.negated, pending := some (l.value f, op) }

def close? (f : Flags) (l : Level) : Option Nested :=
  (f.foldSign? l.negated (l.value f).set).map fun s => ⟨s, (l.value f).depth + 1⟩

end Level

def namedSets : List (String × List (Char × Char)) :=
  [("alnum", [('0', '9'), ('A', 'Z'), ('a', 'z')]), ("alpha", [('A', 'Z'), ('a', 'z')]),
    ("ascii", [('\x00', '\x7f')]), ("blank", [('\t', '\t'), (' ', ' ')]),
    ("cntrl", [('\x00', '\x1f'), ('\x7f', '\x7f')]), ("digit", Kind.digit.asciiRanges),
    ("graph", [('!', '~')]), ("lower", [('a', 'z')]), ("print", [(' ', '~')]),
    ("punct", [('!', '/'), (':', '@'), ('[', '\x60'), ('\x7b', '~')]),
    ("space", Kind.blank.asciiRanges), ("upper", [('A', 'Z')]), ("word", Kind.word.asciiRanges),
    ("xdigit", [('0', '9'), ('A', 'F'), ('a', 'f')])]

def namedSet? : List Char → Option ((Bool × CharSet) × List Char)
  | ':' :: '^' :: cs => (body cs).map fun (s, rest) => ((true, s), rest)
  | ':' :: cs => (body cs).map fun (s, rest) => ((false, s), rest)
  | _ => none
where
  body (cs : List Char) : Option (CharSet × List Char) :=
    match cs.dropWhile (· ≠ ':') with
    | ':' :: ']' :: rest =>
      (namedSets.lookup (.ofList (cs.takeWhile (· ≠ ':')))).map (.ofRanges ·, rest)
    | _ => none

def first (extended negated : Bool) (cs : List Char) : Level × List Char :=
  match spelled extended (· == '-') false cs with
  | ([], ']' :: rest) => (Level.addSet { negated } (.single ']'), rest)
  | (hyphens, rest) => (hyphens.foldl (fun l c => l.addSet (.single c)) { negated }, rest)

def enterHere (extended : Bool) : List Char → Level × List Char
  | '^' :: rest => first extended true rest
  | cs => first extended false cs

def enter (extended : Bool) (cs : List Char) : Level × List Char :=
  enterHere extended (skip extended cs)

def atom (extended : Bool) : List Char → Option (Atom × List Char)
  | [] => none
  | '\\' :: rest => Escape.read extended rest
  | c :: rest => some (.char c, rest)

/-- The character behind a `-`. Of the remarks, blanks and the sign of one comment are left aside. -/
def peek (extended : Bool) (cs : List Char) : Option Char :=
  if extended then
    match Text.trimStart cs with
    | '#' :: rest => (Text.trimStart rest).head?
    | cs => cs.head?
  else cs.head?

/-- A `-` that `]` or another `-` follows makes no range. -/
def hyphenAlone (extended : Bool) (cs : List Char) : Bool :=
  peek extended cs == some ']' || peek extended cs == some '-'

inductive Part : Type
  | enter : Level → Part
  | leave : Part
  | operator : Operator → Part
  | set : CharSet → Part

def inner (f : Flags) (cs : List Char) : Option (Part × List Char) :=
  match namedSet? cs with
  | some ((negated, s), rest) => ((f.foldSign? negated s).map .set).map (·, rest)
  | none => some (.enter (enter f.extended cs).1, (enter f.extended cs).2)

def push? (f : Flags) (top : Level) (below : List Level) :
    Part → Option (Nested ⊕ Level × List Level)
  | .enter l => some (.inr (l, top :: below))
  | .leave =>
    (top.close? f).map fun n =>
      match below with
      | [] => .inl n
      | l :: below => .inr (l.add n, below)
  | .operator op => some (.inr (top.operate f op, below))
  | .set s => some (.inr (top.addSet s, below))

variable [Regex.Engine]

def upTo (f : Flags) (first : Atom) : List Char → Option (CharSet × List Char)
  | '-' :: behind =>
    if hyphenAlone f.extended behind then (first.set? f).map (·, '-' :: behind)
    else
      (atom f.extended (skip f.extended behind)).bind fun (last, rest) =>
        (first.range? f last).map (·, rest)
  | rest => (first.set? f).map (·, rest)

def range (f : Flags) (cs : List Char) : Option (CharSet × List Char) :=
  (atom f.extended cs).bind fun (first, rest) => upTo f first (skip f.extended rest)

def part (f : Flags) : List Char → Option (Part × List Char)
  | '[' :: rest => inner f rest
  | ']' :: rest => some (.leave, rest)
  | '&' :: '&' :: rest => some (.operator .inter, rest)
  | '-' :: '-' :: rest => some (.operator .diff, rest)
  | '~' :: '~' :: rest => some (.operator .symmDiff, rest)
  | cs => (range f cs).map fun (s, rest) => (.set s, rest)

/-- Reads to the end of the outermost bracket; `below` are the brackets around `top`. Each part has
at least one character, so the number of characters is fuel enough. -/
def levels (f : Flags) : Nat → Level → List Level → List Char → Option (Nested × List Char)
  | 0, _, _, _ => none
  | fuel + 1, top, below, cs => do
    let (p, rest) ← part f (skip f.extended cs)
    match ← push? f top below p with
    | .inl n => some (n, rest)
    | .inr (top, below) => levels f fuel top below rest

def read (f : Flags) (cs : List Char) : Option (Nested × List Char) :=
  levels f (cs.length + 1) (enter f.extended cs).1 [] (enter f.extended cs).2

end Bracket

end Lexicon
