import Lexicon.Text.Ranges

namespace Lexicon

open Text

structure Flags : Type where
  ignoreCase : Bool := false
  multiLine : Bool := false
  dotAll : Bool := false
  crlf : Bool := false
  unicode : Bool := true
  extended : Bool := false
  deriving DecidableEq

namespace Flags

/-- Sets one flag. Whether repetitions are greedy does not change what a whole text matches. -/
def set? (f : Flags) (on : Bool) : Char → Option Flags
  | 'i' => some { f with ignoreCase := on }
  | 'm' => some { f with multiLine := on }
  | 's' => some { f with dotAll := on }
  | 'R' => some { f with crlf := on }
  | 'x' => some { f with extended := on }
  | 'U' => some f
  | 'u' => some { f with unicode := on }
  | _ => none

/-- What stands behind a question mark that opens a group: flags, of which `-` turns off the later
ones, up to the closing `:` or `)`. `seen` holds what came before, latest first; nothing may stand
twice, and not a `-` at the end. -/
def read (f : Flags) (seen : List Char) : List Char → Option (Flags × List Char × Char × List Char)
  | [] => none
  | c :: rest =>
    if c = ':' ∨ c = ')' then if seen.head? = some '-' then none else some (f, seen, c, rest)
    else if c ∈ seen then none
    else if c = '-' then read f (c :: seen) rest
    else (f.set? ('-' ∉ seen) c).bind fun g => read g (c :: seen) rest

end Flags

def skipRemarks (inComment : Bool) : List Char → List Char
  | [] => []
  | c :: rest =>
    if inComment then skipRemarks (c ≠ '\n') rest
    else if isBlank c then skipRemarks false rest
    else if c = '#' then skipRemarks true rest
    else c :: rest

/-- Blanks and comments count for nothing in an extended pattern, and for themselves in others. -/
def skip (extended : Bool) (cs : List Char) : List Char :=
  if extended then skipRemarks false cs else cs

def spelled (extended : Bool) (wanted : Char → Bool) (inComment : Bool) :
    List Char → List Char × List Char
  | [] => ([], [])
  | c :: rest =>
    if inComment then spelled extended wanted (c ≠ '\n') rest
    else if extended && isBlank c then spelled extended wanted false rest
    else if extended && c == '#' then spelled extended wanted true rest
    else if wanted c then
      let (word, rest) := spelled extended wanted false rest
      (c :: word, rest)
    else ([], c :: rest)

def braced (extended : Bool) (wanted : Char → Bool) (cs : List Char) :
    Option (List Char × List Char) :=
  match spelled extended wanted false cs with
  | (word, '\x7d' :: rest) => some (word, rest)
  | _ => none

end Lexicon
