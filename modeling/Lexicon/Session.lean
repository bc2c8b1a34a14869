import Lexicon.Html
import Lexicon.Registry

/-!
Sessions: a registry and lexers in named slots, changed by one command after the other.

Each registration has a number, and a lexer keeps the number of the language that it was made from.
So a lexer stays what it is when its language is replaced, and two lexers share a language exactly
if their numbers agree. A command that fails changes nothing.
-/

namespace Lexicon

structure Session : Type where
  registry : Registry := []
  stamps : Dict Nat := []
  lexers : Dict (Nat × Lexer) := []
  count : Nat := 0

namespace Session

inductive Command : Type
  | clear : Command
  | bundled : Command
  | register : String → List Clause → Command
  | has : String → Command
  | get : String → Command
  | lexer : String → String → List String → Command
  | withDiscard : String → String → List String → Command
  | plainLexer : String → String → Command
  | copy : String → String → Command
  | discard : String → String → Command
  | lex : String → String → Option (List String) → Command
  | render : String → String → List String → Bool → Command
  | check : String → List String → Command
  | sameLanguage : String → String → Command

inductive Answer : Type
  | languages : List String → Answer
  | has : Bool → Answer
  | language : Option Language → Answer
  | discarded : List String → Answer
  | notDiscarded : List String → LexError → Answer
  | tokens : List Token → Answer
  | html : String → Answer
  | checked : Answer
  | same : Bool → Answer
  | failed : LexError → Answer
  | noLanguage : Answer
  | noSlot : Answer

def register (s : Session) (l : Language) : Session :=
  { s with
    registry := s.registry.register l
    stamps := Dict.insert l.name s.count s.stamps
    count := s.count + 1 }

def put (s : Session) (slot : String) (x : Nat × Lexer) : Session :=
  { s with lexers := Dict.insert slot x s.lexers }

def discarded (x : Lexer) : Answer := .discarded (Dict.sortedNames x.discarded)

def withSlot (s : Session) (slot : String) (f : Nat × Lexer → Session × Answer) :
    Session × Answer :=
  match Dict.get? s.lexers slot with
  | some x => f x
  | none => (s, .noSlot)

def step (s : Session) : Command → Session × Answer
  | .clear => ({ s with registry := [], stamps := [] }, .languages [])
  | .bundled =>
    let empty : Session := { s with registry := [], stamps := [] }
    let s := (Bundled.registry.map (·.2)).foldl register empty
    (s, .languages s.registry.languages)
  | .register name clauses =>
    match Language.build name clauses with
    | .ok l =>
      let s := s.register l
      (s, .languages s.registry.languages)
    | .error e => (s, .failed (.configuration e))
  | .has name => (s, .has (s.registry.has name))
  | .get name => (s, .language (s.registry.get? name))
  | .lexer slot name names =>
    match s.registry.lexer name names with
    | .ok x => (s.put slot ((Dict.get? s.stamps name).getD 0, x), discarded x)
    | .error e => (s, .failed e)
  | .withDiscard slot name names =>
    match s.registry.get? name with
    | some l =>
      match Lexer.withDiscard l names with
      | .ok x => (s.put slot ((Dict.get? s.stamps name).getD 0, x), discarded x)
      | .error e => (s, .failed e)
    | none => (s, .noLanguage)
  | .plainLexer slot name =>
    match s.registry.get? name with
    | some l => (s.put slot ((Dict.get? s.stamps name).getD 0, ⟨l, []⟩), .discarded [])
    | none => (s, .noLanguage)
  | .copy slot target => s.withSlot slot fun x => (s.put target x, discarded x.2)
  | .discard slot category => s.withSlot slot fun (n, x) =>
    match x.discard category with
    | .ok y => (s.put slot (n, y), discarded y)
    | .error e => (s, .notDiscarded (Dict.sortedNames x.discarded) e)
  | .lex slot text names => s.withSlot slot fun (_, x) =>
    match x.lexWith text names with
    | .ok tokens => (s, .tokens tokens)
    | .error e => (s, .failed e)
  | .render slot text raw annotate => s.withSlot slot fun (_, x) =>
    match x.lex text with
    | .ok tokens => (s, .html (Html.render raw annotate tokens))
    | .error e => (s, .failed e)
  | .check slot names => s.withSlot slot fun (_, x) =>
    match x.language.checkCategories names with
    | .ok () => (s, .checked)
    | .error e => (s, .failed (.configuration e))
  | .sameLanguage slot other => s.withSlot slot fun (n, _) => s.withSlot other fun (k, _) =>
    (s, .same (n == k))

def run (s : Session) : List Command → List Answer
  | [] => []
  | c :: rest =>
    let (s, a) := s.step c
    a :: s.run rest

end Session

end Lexicon
