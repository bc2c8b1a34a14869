import Lexicon.Text.Ranges
import Lexicon.Text.Case
import Lexicon.Text.Word

namespace Lexicon

open Text

inductive CharSet : Type
  | none : CharSet
  | range : Char → Char → CharSet
  | digit : CharSet
  | blank : CharSet
  | word : CharSet
  | listed : Ranges → CharSet
  | union : CharSet → CharSet → CharSet
  | inter : CharSet → CharSet → CharSet
  | compl : CharSet → CharSet
  | anyCase : CharSet → CharSet
  | asciiCase : CharSet → CharSet
  deriving DecidableEq

namespace CharSet

def contains : CharSet → Char → Bool
  | none, _ => false
  | range lo hi, c => lo ≤ c && c ≤ hi
  | digit, c => isDigit c
  | blank, c => isBlank c
  | word, c => isWord c
  | listed r, c => r.contains c
  | union s t, c => s.contains c || t.contains c
  | inter s t, c => s.contains c && t.contains c
  | compl s, c => !s.contains c
  | anyCase s, c => (caseClass c).any fun d => s.contains d
  | asciiCase s, c => s.contains c.toLower || s.contains c.toUpper

def single (c : Char) : CharSet := range c c

def all : CharSet := compl none

def diff (s t : CharSet) : CharSet := inter s (compl t)

def symmDiff (s t : CharSet) : CharSet := union (diff s t) (diff t s)

def ofRanges (l : List (Char × Char)) : CharSet := l.foldl (fun s r => union s (range r.1 r.2)) none

def spans : CharSet → Nat
  | none => 0
  | range _ _ => 1
  | digit => 71
  | blank => 10
  | word => 770
  | listed r => r.spans.length
  | union s t => s.spans + t.spans
  | inter s t => s.spans + t.spans
  | compl s => s.spans + 1
  | anyCase s => 2 * s.spans
  | asciiCase s => 2 * s.spans

def ascii : CharSet → Bool
  | none => true
  | range _ hi => hi.toNat < 128
  | union s t => s.ascii && t.ascii
  | inter s t => s.ascii || t.ascii
  | anyCase s => s.ascii
  | asciiCase s => s.ascii
  | _ => false

/-- About how many bytes an automaton needs for one character of the set. -/
def size : CharSet → Nat
  | range lo hi => if lo = hi then 32 * lo.utf8Size else 72
  | s => if s.ascii then 64 + 8 * s.spans else 72 * s.spans

@[simp] theorem contains_single (a c : Char) : (single a).contains c = decide (a = c) := by
  simp only [single, contains, Bool.and_eq_decide, decide_eq_true_eq]
  congr 1
  exact propext ⟨fun ⟨h, k⟩ => Char.le_antisymm h k, fun h => h ▸ ⟨Char.le_refl _, Char.le_refl _⟩⟩

@[simp] theorem contains_all (c : Char) : all.contains c = true := rfl

end CharSet

end Lexicon
