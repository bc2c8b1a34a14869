import Lexicon.Text.Quoted

namespace Lexicon

structure Token : Type where
  category : String
  text : String
  start : Nat
  deriving DecidableEq

namespace Token

def is (t : Token) (category : String) : Bool := t.category == category

def size (t : Token) : Nat := t.text.utf8ByteSize

/-- Offsets are words of 64 bits. -/
def offsets : Nat := 0x10000000000000000

def stop (t : Token) : Nat := (t.start + t.size) % offsets

def last (t : Token) : Nat := max (t.stop - 1) t.start

def texts (l : List Token) : String := String.join (l.map text)

def coverFrom : Nat → List Char → List Token → Bool
  | _, rest, [] => rest.isEmpty
  | offset, rest, t :: ts =>
    t.start == offset && t.text.toList.isPrefixOf rest &&
      coverFrom (offset + t.size) (rest.drop t.text.length) ts

def cover (source : String) (l : List Token) : Bool := coverFrom 0 source.toList l

end Token

/-! Tokens written down, one line each: the start, the category and the quoted text. -/

namespace Listing

open Text

def line (t : Token) : String := s!"{t.start}\t{t.category}\t" ++ quoted t.text ++ "\n"

def render (l : List Token) : String := String.join (l.map line)

end Listing

end Lexicon
