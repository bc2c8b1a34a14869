import Lexicon.Pattern.Flags
import Lexicon.Pattern.Regex

namespace Lexicon

open Text

namespace Regex

inductive Property : Type
  | named : List Char → Property
  | valued : List Char → List Char → Property
  deriving DecidableEq

/-- What is known of the characters that have a property, and whether an automaton for a text, of
about so many bytes, is small enough. -/
class Engine : Type where
  property? : Property → Option CharSet
  fits : List Char → Nat → Bool

end Regex

inductive Kind : Type
  | digit : Kind
  | blank : Kind
  | word : Kind
  deriving DecidableEq

namespace Kind

def set : Kind → CharSet
  | digit => .digit
  | blank => .blank
  | word => .word

def asciiRanges : Kind → List (Char × Char)
  | digit => [('0', '9')]
  | blank => [('\t', '\r'), (' ', ' ')]
  | word => [('0', '9'), ('A', 'Z'), ('_', '_'), ('a', 'z')]

end Kind

/-- A character, one that is written with two hexadecimal digits, a set of characters or what is
outside of it, or a condition. -/
inductive Atom : Type
  | char : Char → Atom
  | byte : Char → Atom
  | kind : Bool → Kind → Atom
  | property : Bool → Regex.Property → Atom
  | look : Look → Atom
  deriving DecidableEq

namespace Flags

def fold (f : Flags) (s : CharSet) : CharSet :=
  if f.ignoreCase then if f.unicode then .anyCase s else .asciiCase s else s

/-- The set or what is outside of it, which has bytes beyond ASCII. -/
def sign? (f : Flags) (negated : Bool) (s : CharSet) : Option CharSet :=
  if negated then if f.unicode then some (.compl s) else none else some s

def foldSign? (f : Flags) (negated : Bool) (s : CharSet) : Option CharSet :=
  f.sign? negated (f.fold s)

def spells (f : Flags) (c : Char) : Bool := f.unicode || c.toNat < 128

def look (f : Flags) (l : Look) : Look := if f.unicode then l else .ascii l

end Flags

namespace Atom

def char? : Atom → Option Char
  | char c | byte c => some c
  | _ => none

def set? [Regex.Engine] (f : Flags) : Atom → Option CharSet
  | char c | byte c => if f.spells c then some (.single c) else none
  | kind negated k => f.sign? negated (if f.unicode then k.set else .ofRanges k.asciiRanges)
  | property negated p =>
    if f.unicode then (Regex.Engine.property? p).bind (f.foldSign? negated) else none
  | look _ => none

def range? (f : Flags) (first last : Atom) : Option CharSet := do
  let lo ← first.char?
  let hi ← last.char?
  if lo ≤ hi ∧ f.spells hi then some (.range lo hi) else none

def regex? [Regex.Engine] (f : Flags) : Atom → Option Regex
  | char c => some (.chars (f.fold (.single c)))
  | byte c => if f.spells c then some (.chars (f.fold (.single c))) else none
  | look l => some (.look (f.look l))
  | a => (a.set? f).map .chars

end Atom

end Lexicon
