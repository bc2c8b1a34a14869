import Lexicon.Text.Quoted

namespace Lexicon

open Text

inductive Fault : Type
  | noPatterns : String → Fault
  | badPattern : String → Fault
  | noCategories : String → Fault
  | repeatedCategory : String → String → Fault
  | unknownWrong : String → String → Fault
  | unknownCategory : String → String → Fault
  | unknownLanguage : String → Fault
  | other : String → Fault
  deriving DecidableEq

namespace Fault

def message : Fault → String
  | noPatterns category => s!"category '{category}' has no patterns"
  | badPattern source => "invalid pattern " ++ quoted source
  | noCategories language => s!"language '{language}' declares no categories"
  | repeatedCategory language category =>
    s!"language '{language}' declares category '{category}' twice"
  | unknownWrong language category =>
    s!"language '{language}' marks unknown category '{category}' as wrong"
  | unknownCategory language category => s!"language '{language}' has no category '{category}'"
  | unknownLanguage name => s!"unknown language '{name}'"
  | other text => text

end Fault

inductive Refusal : Type
  | orphanHeader : Nat → Refusal
  | because : String → String → Refusal
  deriving DecidableEq

namespace Refusal

def stage : Refusal → String
  | orphanHeader _ => "table-retag"
  | because stage _ => stage

def message : Refusal → String
  | orphanHeader offset => s!"header separator at offset {offset} has no table row above it"
  | because _ message => message

end Refusal

inductive LexError : Type
  | configuration : Fault → LexError
  | ambiguity : Nat → String → List String → LexError
  | wrongCategory : String → String → Nat → LexError
  | unlexable : Nat → String → LexError
  | refused : Refusal → LexError
  deriving DecidableEq

namespace LexError

def message : LexError → String
  | configuration fault => "configuration error: " ++ fault.message
  | ambiguity start text categories =>
    s!"ambiguous match at offset {start}: categories " ++ quotedList categories ++ " tie for " ++
      quoted text
  | wrongCategory category text start =>
    s!"wrong category '{category}' matched " ++ quoted text ++ s!" at offset {start}"
  | unlexable start text => s!"unlexable input at offset {start}: " ++ quoted text
  | refused r => s!"transformation '{r.stage}' failed: {r.message}"

end LexError

end Lexicon
