import Lexicon.Pattern.Draft

/-!
Patterns: expressions that are asked whether a text matches as a whole.

The text of a pattern is put into a group between the start and the end of the text before it is
read, so that its alternatives stay between these. A text that closes this group itself is read
with what follows outside of the group.
-/

namespace Lexicon

structure Pattern : Type where
  source : String
  regex : Regex

namespace Pattern

def anchored (source : List Char) : List Char :=
  "\\A(?:".toList ++ source ++ ")\\z".toList

def compile? [Regex.Engine] (source : String) : Option Pattern :=
  (Regex.read? (anchored source.toList)).map fun r => ⟨source, r.found⟩

def isMatch (p : Pattern) (text : String) : Bool := p.regex.isMatch text.toList

end Pattern

end Lexicon
