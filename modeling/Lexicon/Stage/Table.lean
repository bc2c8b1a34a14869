import Lexicon.Error
import Lexicon.Token

/-!
Tables. All delimiters are scanned as one category; where they stand in their line tells which of
them open and close a row. The first delimiter of a line opens a row. A later one closes it if the
line, or the whole list, ends there; all others divide cells. A paragraph break beside a row counts
as a newline, and a header separator makes the row above it a header.
-/

namespace Lexicon

structure Table : Type where
  delimiter : String := "table"
  headerSeparator : String := "table_header_line"
  newline : String := "newline"
  paragraph : String := "paragraph"
  lineStart : String := "table_line_start"
  lineEnd : String := "table_line_end"
  headerLineStart : String := "table_header_line_start"

namespace Table

def isBreak (n : Table) (t : Token) : Bool := t.is n.newline || t.is n.paragraph

def mark (n : Table) (rowOpen : Bool) (t : Token) (next : Option Token) : Token × Bool :=
  if t.is n.delimiter then
    if !rowOpen then ({ t with category := n.lineStart }, true)
    else if next.all n.isBreak then ({ t with category := n.lineEnd }, false)
    else (t, rowOpen)
  else (t, rowOpen && !n.isBreak t)

def normalise (n : Table) (previous : Option Token) (t : Token) (next : Option Token) : Token :=
  if t.is n.paragraph && (previous.any (·.is n.lineEnd) || next.any (·.is n.delimiter)) then
    { t with category := n.newline }
  else t

/-- Walks up from a newline, nearest token first, to the start of the row above it and makes that
the start of a header. Only the nearest token may be the end of this row. -/
def promote (n : Table) (nearest : Bool) : List Token → Option (List Token)
  | [] => none
  | t :: above =>
    if t.is n.lineStart then some ({ t with category := n.headerLineStart } :: above)
    else if n.isBreak t || (t.is n.lineEnd && !nearest) then none
    else (n.promote false above).map (t :: ·)

/-- Here `done` is the result so far, latest token first. -/
def applyFrom (n : Table) (done : List Token) (rowOpen : Bool) :
    List Token → Except Refusal (List Token)
  | [] => .ok done.reverse
  | t :: rest =>
    let next := rest.head?
    let (t, rowOpen) := n.mark rowOpen t next
    let t := n.normalise done.head? t next
    if t.is n.newline && next.any (·.is n.headerSeparator) then
      match n.promote true done with
      | some done => n.applyFrom (t :: done) rowOpen rest
      | none => .error (.orphanHeader t.stop)
    else n.applyFrom (t :: done) rowOpen rest

def apply (n : Table) (l : List Token) : Except Refusal (List Token) := n.applyFrom [] false l

end Table

end Lexicon
