import Lexicon.Text.Ranges
import Lexicon.Token

namespace Lexicon.Html

open Text

def operands : List String :=
  ["identifier", "number", "integer", "float", "string", "special", "builtin", "nonterminal",
    "terminal"]

def operators : List String := ["operator", "definition"]

def assignments : List String := ["=", "::=", ":="]

def isOperand (t : Token) : Bool := t.category ∈ operands

def isOperator (t : Token) : Bool := t.category ∈ operators

def isKeyword (t : Token) : Bool := t.is "keyword"

def isAssignment (t : Token) : Bool := isOperator t && t.text ∈ assignments

def isComma (t : Token) : Bool :=
  (t.is "separator" || t.is "punctuation" || t.is "operator") && t.text == ","

def apart (s t : Token) : Bool :=
  !allBlank s.text && !allBlank t.text &&
    ((isOperand s && (isOperator t || isKeyword t)) ||
      (isKeyword s && (isOperand t || isKeyword t)) ||
      (isAssignment s || isAssignment t) || isComma s || (isOperator s && !isOperator t))

def escapeChar : Char → List Char
  | '&' => ['&', 'a', 'm', 'p', ';']
  | '<' => ['&', 'l', 't', ';']
  | '>' => ['&', 'g', 't', ';']
  | c => [c]

def escape (s : String) : String := .ofList (s.toList.flatMap escapeChar)

def token (raw : List String) (t : Token) : String :=
  if t.category ∈ raw then t.text
  else "<span class=\"" ++ t.category ++ "\">" ++ escape t.text ++ "</span>"

/-- Here `previous` is the token before the first of the list. -/
def renderFrom (raw : List String) (annotate : Bool) (previous : Option Token) :
    List Token → List String
  | [] => []
  | t :: rest =>
    let space := if annotate && previous.any (apart · t) then " " else ""
    space :: token raw t :: renderFrom raw annotate (some t) rest

def render (raw : List String) (annotate : Bool) (l : List Token) : String :=
  String.join (renderFrom raw annotate none l)

end Lexicon.Html
