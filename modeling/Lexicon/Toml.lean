import Lexicon.Toml.Literal

/-!
TOML documents. A document is read line by line into a tree that remembers how each of its tables
was made, because that decides what may be added to it later.
-/

namespace Lexicon

inductive Toml : Type
  | bool : Bool → Toml
  | int : Int → Toml
  | float : Float → Toml
  | text : String → Toml
  | array : List Toml → Toml
  | table : List (String × Toml) → Toml

namespace Toml

/-- How a table came about: by its own header, as a parent of a header, or by a dotted key. -/
inductive Origin : Type
  | header : Origin
  | parent : Origin
  | dotted : Origin
  deriving DecidableEq

inductive Tree : Type
  | leaf : Toml → Tree
  | table : Origin → List (String × Tree) → Tree
  | tables : List (List (String × Tree)) → Tree

namespace Tree

mutual

def toToml : Tree → Toml
  | leaf v => v
  | table _ l => .table (entries l)
  | tables l => .array (tableList l).reverse

def entries : List (String × Tree) → List (String × Toml)
  | [] => []
  | (name, t) :: rest => (name, t.toToml) :: entries rest

def tableList : List (List (String × Tree)) → List Toml
  | [] => []
  | l :: rest => .table (entries l) :: tableList rest

end

def put (name : String) (t : Tree) : List (String × Tree) → List (String × Tree)
  | [] => [(name, t)]
  | e :: rest => if e.1 = name then (name, t) :: rest else e :: put name t rest

/-- Changes the table at the end of a path of names. Tables that are missing on the way are made,
and an array of tables stands for its latest one. -/
def alter (f : List (String × Tree) → Option (List (String × Tree))) :
    List String → List (String × Tree) → Option (List (String × Tree))
  | [], l => f l
  | name :: path, l =>
    match l.lookup name with
    | none => (alter f path []).map fun inner => put name (table .parent inner) l
    | some (table o inner) => (alter f path inner).map fun inner => put name (table o inner) l
    | some (tables (inner :: older)) =>
      (alter f path inner).map fun inner => put name (tables (inner :: older)) l
    | some _ => none

def openTable (name : String) (l : List (String × Tree)) : Option (List (String × Tree)) :=
  match l.lookup name with
  | none => some (put name (table .header []) l)
  | some (table .parent inner) => some (put name (table .header inner) l)
  | some _ => none

def openNext (name : String) (l : List (String × Tree)) : Option (List (String × Tree)) :=
  match l.lookup name with
  | none => some (put name (tables [[]]) l)
  | some (tables older) => some (put name (tables ([] :: older)) l)
  | some _ => none

/-- Adds a value under a dotted key, of which `path` is all but the last name. The tables on the way
must not have a header, and the last of them must be made by dotted keys. -/
def addValue (name : String) (v : Toml) :
    List String → List (String × Tree) → Option (List (String × Tree))
  | [], l => if (l.lookup name).isSome then none else some (l ++ [(name, leaf v)])
  | key :: path, l =>
    match l.lookup key with
    | none => (addValue name v path []).map fun inner => put key (table .dotted inner) l
    | some (table o inner) =>
      if o = .header ∨ (o = .parent ∧ path.isEmpty) then none
      else (addValue name v path inner).map fun inner => put key (table o inner) l
    | some _ => none

end Tree

def isBareKey (c : Char) : Bool := c.isAlphanum || c == '_' || c == '-'

def simpleKey (cs : List Char) : Option (String × List Char) :=
  match cs with
  | '"' :: rest => basic [] (rest.length + 1) rest
  | '\x27' :: rest => literal rest
  | _ =>
    match cs.takeWhile isBareKey with
    | [] => none
    | name => some (.ofList name, cs.dropWhile isBareKey)

def key : Nat → List Char → Option (List String × List Char)
  | 0, _ => none
  | fuel + 1, cs => do
    let (name, rest) ← simpleKey (skipGap cs)
    match skipGap rest with
    | '.' :: rest => (key fuel rest).map fun (more, rest) => (name :: more, rest)
    | rest => some ([name], rest)

def splitKey (names : List String) : Option (List String × String) :=
  names.getLast?.map (names.dropLast, ·)

def comment (cs : List Char) : Option (List Char) :=
  match cs with
  | '#' :: rest =>
    let body := rest.takeWhile isPlain
    some (rest.drop body.length)
  | _ => some cs

def skipLines : Nat → List Char → List Char
  | 0, cs => cs
  | fuel + 1, cs =>
    match skipGap cs with
    | '#' :: rest => skipLines fuel (rest.dropWhile isPlain)
    | cs =>
      match lineBreak? cs with
      | some rest => skipLines fuel rest
      | none => cs

def isWordChar (c : Char) : Bool := c.isAlphanum || "+-_.:".toList.contains c

def plain (cs : List Char) : Option (Toml × List Char) :=
  let w := cs.takeWhile isWordChar
  let rest := cs.dropWhile isWordChar
  let later := match rest with
    | ' ' :: more =>
      let t := more.takeWhile isWordChar
      if (date w).any (·.2.isEmpty) && t.head?.any Char.isDigit then
        (dateTime? (w ++ ' ' :: t)).map (·, more.dropWhile isWordChar)
      else none
    | _ => none
  match later with
  | some (d, rest) => some (.text d, rest)
  | none =>
    if w = "true".toList then some (.bool true, rest)
    else if w = "false".toList then some (.bool false, rest)
    else
      match dateTime? w, integer? w, float? w with
      | some d, _, _ => some (.text d, rest)
      | none, some n, _ => some (.int n, rest)
      | none, none, some x => some (.float x, rest)
      | none, none, none => none

def maxDepth : Nat := 79

mutual

/-- A value. Every call has less fuel than its caller and each reads a character, or ends a list, so
twice the number of characters is fuel enough. -/
def value : Nat → Nat → List Char → Option (Toml × List Char)
  | 0, _, _ => none
  | fuel + 1, depth, cs =>
    match cs with
    | '"' :: _ => (string cs).map fun (s, rest) => (.text s, rest)
    | '\x27' :: _ => (string cs).map fun (s, rest) => (.text s, rest)
    | '[' :: rest =>
      match depth with
      | 0 => none
      | depth + 1 => (items fuel depth rest).map fun (l, rest) => (.array l, rest)
    | '\x7b' :: rest =>
      match depth, skipGap rest with
      | 0, _ => none
      | _ + 1, '\x7d' :: rest => some (.table [], rest)
      | depth + 1, rest =>
        (inlineTable fuel depth [] rest).map fun (l, rest) => (.table (Tree.entries l), rest)
    | cs => plain cs

def items : Nat → Nat → List Char → Option (List Toml × List Char)
  | 0, _, _ => none
  | fuel + 1, depth, cs =>
    match skipLines (cs.length + 1) cs with
    | ']' :: rest => some ([], rest)
    | cs => do
      let (v, rest) ← value fuel depth cs
      match skipLines (rest.length + 1) rest with
      | ']' :: rest => some ([v], rest)
      | ',' :: rest => (items fuel depth rest).map fun (l, rest) => (v :: l, rest)
      | _ => none

def inlineTable : Nat → Nat → List (String × Tree) → List Char →
    Option (List (String × Tree) × List Char)
  | 0, _, _, _ => none
  | fuel + 1, depth, done, cs => do
    let (names, rest) ← key (cs.length + 1) cs
    let (path, name) ← splitKey names
    let rest ← expect '=' rest
    let (v, rest) ← value fuel depth (skipGap rest)
    let done ← Tree.addValue name v path done
    match skipGap rest with
    | '\x7d' :: rest => some (done, rest)
    | ',' :: rest => inlineTable fuel depth done rest
    | _ => none

end

def lineEnd (cs : List Char) : Option (List Char) := do
  let rest ← comment (skipGap cs)
  if rest.isEmpty then some [] else lineBreak? rest

structure Draft : Type where
  path : List String
  root : List (String × Tree)

namespace Draft

def header (d : Draft) (cs : List Char) : Option (Draft × List Char) :=
  match cs with
  | '[' :: cs => do
    let (names, rest) ← key (cs.length + 1) cs
    let (path, name) ← splitKey names
    let rest ← expect ']' rest >>= expect ']'
    let root ← Tree.alter (Tree.openNext name) path d.root
    return (⟨names, root⟩, rest)
  | cs => do
    let (names, rest) ← key (cs.length + 1) cs
    let (path, name) ← splitKey names
    let rest ← expect ']' rest
    let root ← Tree.alter (Tree.openTable name) path d.root
    return (⟨names, root⟩, rest)

def pair (d : Draft) (cs : List Char) : Option (Draft × List Char) := do
  let (names, rest) ← key (cs.length + 1) cs
  let (path, name) ← splitKey names
  let rest ← expect '=' rest
  let rest := skipGap rest
  let (v, rest) ← value (2 * rest.length + 2) maxDepth rest
  let root ← Tree.alter (Tree.addValue name v path) d.path d.root
  return (⟨d.path, root⟩, rest)

def lines (d : Draft) : Nat → List Char → Option Draft
  | 0, _ => none
  | fuel + 1, cs =>
    match skipGap cs with
    | [] => some d
    | '[' :: rest => do
      let (d, rest) ← d.header rest
      let rest ← lineEnd rest
      d.lines fuel rest
    | c :: rest =>
      if c = '#' ∨ c = '\n' ∨ c = '\r' then (lineEnd (c :: rest)).bind fun rest => d.lines fuel rest
      else do
        let (d, rest) ← d.pair (c :: rest)
        let rest ← lineEnd rest
        d.lines fuel rest

end Draft

def parse? (text : String) : Option (List (String × Toml)) :=
  let cs := match text.toList with
    | '\uFEFF' :: rest => rest
    | cs => cs
  (Draft.lines ⟨[], []⟩ (cs.length + 1) cs).map fun d => Tree.entries d.root

end Toml

end Lexicon
