import Lexicon.Pattern.CharSet

/-!
Regular expressions with look-around of one character.

A text is read from left to right. What may follow the characters read so far is a list of
residual expressions, each of which continues a match; together with the last character read they
decide every later answer.
-/

namespace Lexicon

open Text

inductive Look : Type
  | textStart : Look
  | textEnd : Look
  | lineStart : Look
  | lineEnd : Look
  | lineStartCrlf : Look
  | lineEndCrlf : Look
  | wordEdge : Look
  | notWordEdge : Look
  | wordStart : Look
  | wordEnd : Look
  | afterNonWord : Look
  | beforeNonWord : Look
  | ascii : Look → Look
  deriving DecidableEq

namespace Look

def isAsciiWord (c : Char) : Bool := c.isAlphanum || c == '_'

def holdsFor (word : Char → Bool) (before after : Option Char) : Look → Bool
  | textStart => before.isNone
  | textEnd => after.isNone
  | lineStart => before.isNone || before == some '\n'
  | lineEnd => after.isNone || after == some '\n'
  | lineStartCrlf =>
    before.isNone || before == some '\n' || (before == some '\r' && after != some '\n')
  | lineEndCrlf => after.isNone || after == some '\r' || (after == some '\n' && before != some '\r')
  | wordEdge => before.any word != after.any word
  | notWordEdge => before.any word == after.any word
  | wordStart => !before.any word && after.any word
  | wordEnd => before.any word && !after.any word
  | afterNonWord => !before.any word
  | beforeNonWord => !after.any word
  | ascii l => l.holdsFor isAsciiWord before after

def holds (before after : Option Char) (l : Look) : Bool := l.holdsFor isWord before after

end Look

/-- In `rep r lo hi` the expression `r` stands from `lo` to `hi` times, without an upper bound if
`hi` is absent. -/
inductive Regex : Type
  | empty : Regex
  | chars : CharSet → Regex
  | look : Look → Regex
  | seq : Regex → Regex → Regex
  | alt : Regex → Regex → Regex
  | rep : Regex → Nat → Option Nat → Regex
  deriving DecidableEq

namespace Regex

def concat : List Regex → Regex
  | [] => empty
  | [r] => r
  | r :: rest => seq r (concat rest)

def choice : List Regex → Regex
  | [] => empty
  | [r] => r
  | r :: rest => alt r (choice rest)

def nullable (before after : Option Char) : Regex → Bool
  | empty => true
  | chars _ => false
  | look a => a.holds before after
  | seq r s => r.nullable before after && s.nullable before after
  | alt r s => r.nullable before after || s.nullable before after
  | rep r lo _ => lo == 0 || r.nullable before after

def followedBy : Regex → Regex → Regex
  | empty, s => s
  | r, s => seq r s

/-- The expressions for what may follow `c` in a match of `r` that starts between `before` and `c`.
Rounds of a repetition that match nothing here may stand before the one that reads `c`, and make up
for all that are still required. -/
def residuals (before : Option Char) (c : Char) : Regex → List Regex
  | empty => []
  | chars s => if s.contains c then [empty] else []
  | look _ => []
  | seq r s =>
    (r.residuals before c).map (·.followedBy s) ++
      if r.nullable before (some c) then s.residuals before c else []
  | alt r s => r.residuals before c ++ s.residuals before c
  | rep r lo hi =>
    if hi = some 0 then []
    else
      let lo' := if r.nullable before (some c) then 0 else lo - 1
      (r.residuals before c).map (·.followedBy (rep r lo' (hi.map (· - 1))))

/-- The expression whose matches are the texts in which `r` is found. -/
def found : Regex → Regex
  | seq (look .textStart) (seq r (look .textEnd)) => r
  | r => seq anything (seq r anything)
where
  anything : Regex := rep (chars .all) 0 none

def hollow : Regex → Bool
  | empty => true
  | chars _ => false
  | look _ => true
  | seq r s => r.hollow && s.hollow
  | alt r s => r.hollow && s.hollow
  | rep r _ hi => r.hollow || hi == some 0

end Regex

abbrev Residue : Type := List Regex

namespace Residue

def advance (before : Option Char) (c : Char) (t : Residue) : Residue :=
  (t.flatMap (·.residuals before c)).eraseDups

def accepts (last : Option Char) (t : Residue) : Bool := t.any (·.nullable last none)

def run (before : Option Char) (t : Residue) : List Char → Bool
  | [] => t.accepts before
  | c :: rest => run (some c) (t.advance before c) rest

end Residue

def Regex.isMatch (r : Regex) (text : List Char) : Bool := Residue.run none [r] text

end Lexicon
