import Lexicon.Token

namespace Lexicon

structure Splice : Type where
  literal : String
  always : List String := []
  unlessLineStart : List String := []
  lineBreaks : List String := []

namespace Splice

def special (s : Splice) (previous : Option Token) (t : Token) : Bool :=
  t.category ∈ s.always ||
    (t.category ∈ s.unlessLineStart && previous.any fun p => p.category ∉ s.lineBreaks)

/-- Here `last` is the latest token of the result, which may still grow. A special token joins a
literal before it, else one behind it, which then starts where the special one did; with no literal
at either side it becomes one. -/
def applyFrom (s : Splice) (last : Option Token) : List Token → List Token
  | [] => last.toList
  | t :: rest =>
    if s.special last t then
      match last with
      | some p =>
        if p.is s.literal then s.applyFrom (some { p with text := p.text ++ t.text }) rest
        else p :: onward t rest
      | none => onward t rest
    else last.toList ++ s.applyFrom (some t) rest
where
  onward (t : Token) : List Token → List Token
    | [] => [{ t with category := s.literal }]
    | n :: rest =>
      if n.is s.literal then
        s.applyFrom (some { n with text := t.text ++ n.text, start := t.start }) rest
      else s.applyFrom (some { t with category := s.literal }) (n :: rest)

def apply (s : Splice) (l : List Token) : List Token := s.applyFrom none l

end Splice

namespace Merge

/-- Here `last` is the latest token of the result, which may still grow. -/
def applyFrom (category : String) (last : Token) : List Token → List Token
  | [] => [last]
  | t :: rest =>
    if last.is category && t.is category then
      applyFrom category { last with text := last.text ++ t.text } rest
    else last :: applyFrom category t rest

def apply (category : String) : List Token → List Token
  | [] => []
  | t :: rest => applyFrom category t rest

end Merge

end Lexicon
