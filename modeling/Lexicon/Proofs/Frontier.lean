import Lexicon.Lexer

namespace Lexicon

namespace Category

def accepts (c : Category) (word : String) : Bool := c.patterns.any (·.isMatch word)

end Category

namespace Language

def classify (l : Language) (word : String) : Option String :=
  (l.categories.find? (·.accepts word)).map (·.name)

end Language

@[simp] theorem Residue.advance_nil (before : Option Char) (c : Char) :
    Residue.advance before c [] = [] := rfl

@[simp] theorem Residue.run_nil (before : Option Char) (word : List Char) :
    Residue.run before [] word = false := by
  induction word generalizing before with
  | nil => rfl
  | cons c word ih => simp [Residue.run, ih]

namespace Frontier

theorem verdict_foldl (f : Frontier) (word : List Char) :
    (word.foldl step f).verdict = (f.alive.find? fun e => e.2.run f.last word).map (·.1) := by
  induction word generalizing f with
  | nil => rfl
  | cons c word ih =>
    rw [List.foldl_cons, ih]
    simp only [step, List.find?_filterMap, Residue.run]
    have hrun : ∀ e : String × Residue,
        (Option.any (fun e : String × Residue => e.2.run (some c) word)
          (if (e.2.advance f.last c).isEmpty then none else some (e.1, e.2.advance f.last c))) =
        (e.2.advance f.last c).run (some c) word := by
      intro e
      cases h : e.2.advance f.last c <;> simp
    simp only [hrun]
    cases hf : f.alive.find? fun e => (e.2.advance f.last c).run (some c) word with
    | none => rfl
    | some e =>
      have he := List.find?_some hf
      cases h : e.2.advance f.last c with
      | nil => simp [h] at he
      | cons r t => simp [h]

end Frontier

theorem Pattern.isMatch_ofList (p : Pattern) (word : List Char) :
    p.isMatch (.ofList word) = Residue.run none [p.regex] word := by
  rw [Pattern.isMatch, Regex.isMatch, String.toList_ofList]

namespace Category

theorem find?_entries (c : Category) (word : List Char) :
    ((c.patterns.map fun p => (c.name, [p.regex])).find? fun e => Residue.run none e.2 word).map
      (·.1) = if c.accepts (.ofList word) then some c.name else none := by
  unfold accepts
  induction c.patterns with
  | nil => rfl
  | cons p rest ih =>
    rw [List.map_cons, List.find?_cons, List.any_cons, p.isMatch_ofList]
    cases Residue.run none [p.regex] word with
    | true => rfl
    | false => simpa using ih

end Category

namespace Language

theorem recogniser_judge (l : Language) (word : List Char) :
    l.recogniser.judge word = l.classify (.ofList word) := by
  refine (Frontier.verdict_foldl (Frontier.init l) word).trans ?_
  simp only [Frontier.init, classify]
  induction l.categories with
  | nil => rfl
  | cons c rest ih =>
    rw [List.flatMap_cons, List.find?_append, Option.map_or, c.find?_entries, ih, List.find?_cons]
    cases c.accepts (.ofList word) <;> rfl

end Language

end Lexicon
