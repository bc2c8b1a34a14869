import Lexicon.Language
import Lexicon.Scan

namespace Lexicon

/-- What the patterns of a language can still match behind a word: each pattern that may go on, by
its category, with what may follow. -/
structure Frontier : Type where
  last : Option Char
  alive : List (String × Residue)

namespace Frontier

def init (l : Language) : Frontier :=
  ⟨none, l.categories.flatMap fun c => c.patterns.map fun p => (c.name, [p.regex])⟩

def step (f : Frontier) (c : Char) : Frontier :=
  ⟨some c, f.alive.filterMap fun (name, t) =>
    let t := t.advance f.last c
    if t.isEmpty then none else some (name, t)⟩

def verdict (f : Frontier) : Option String :=
  (f.alive.find? fun (_, t) => t.accepts f.last).map (·.1)

end Frontier

namespace Language

def recogniser (l : Language) : Recogniser Frontier String :=
  ⟨Frontier.init l, Frontier.step, Frontier.verdict⟩

/-- Scans on from `s`. A word of a wrong category ends the scan, a word of a discarded one gives no
token. -/
def scanFrom (l : Language) (discard : List String) (s : Scan Frontier String) :
    Except LexError (List Token) :=
  match h : s.move l.recogniser with
  | .read t =>
    have := Scan.measure_lt_of_read h
    l.scanFrom discard t
  | .cut category t =>
    have := Scan.measure_lt_of_cut h
    if l.isWrong category then .error (.wrongCategory category s.text s.start)
    else if category ∈ discard then l.scanFrom discard t
    else (l.scanFrom discard t).map (⟨category, s.text, s.start⟩ :: ·)
  | .stuck => .error (.unlexable s.start s.text)
  | .done => .ok []
termination_by s.measure

def scan (l : Language) (discard : List String) (text : String) : Except LexError (List Token) :=
  l.scanFrom discard (.init l.recogniser 0 text.toList)

def reshape (l : Language) (tokens : List Token) : Except LexError (List Token) :=
  match l.pipeline with
  | some p => (p.run tokens).mapError .refused
  | none => .ok tokens

end Language

structure Lexer : Type where
  language : Language
  discarded : List String := []

namespace Lexer

def withDiscard (l : Language) (names : List String) : Except LexError Lexer :=
  match l.checkCategories names with
  | .ok () => .ok ⟨l, names⟩
  | .error e => .error (.configuration e)

def discard (x : Lexer) (category : String) : Except LexError Lexer :=
  if x.language.hasCategory category then .ok { x with discarded := category :: x.discarded }
  else .error (.configuration (.unknownCategory x.language.name category))

/-- The tokens of a text. Categories given with the call replace the discarded ones of the
lexer. -/
def lexWith (x : Lexer) (text : String) (names : Option (List String)) :
    Except LexError (List Token) := do
  if let some names := names then
    (x.language.checkCategories names).mapError .configuration
  let tokens ← x.language.scan (names.getD x.discarded) text
  x.language.reshape tokens

def lex (x : Lexer) (text : String) : Except LexError (List Token) := x.lexWith text none

end Lexer

end Lexicon
