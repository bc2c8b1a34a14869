import Lexicon.Bundled
import Lexicon.Proofs.Build
import Lexicon.Proofs.GapSurvey

/-!
The gaps of bundled languages. Some numbers are matched without their exponent and with the whole of
it, but not with its letter or its sign alone, and digits behind a leading zero are matched again
only at a point or an exponent. In front of these the scanner cuts too early, and nowhere else.
-/

namespace Lexicon

/-- The pattern matches the texts with a gap. Every cut is the longest match, except in front of
such a text. -/
structure Language.GapsAt (l : Language) (p : Pattern) : Prop where
  gapIn_iff : ∀ text, l.GapIn text ↔ p.isMatch (.ofList text)
  longestMatch_iff : ∀ text s category t, Scan.Reached l.recogniser text s →
    s.move l.recogniser = .cut category t →
    (l.LongestMatch s.remaining s.word.reverse ↔ p.isMatch (.ofList s.remaining) = false)

theorem Language.gapsAt_of_gapsIn {l : Language} {p : Pattern} {letters : List Char} {fuel : Nat}
    (h : l.gapsIn p letters fuel) : l.GapsAt p := by
  refine ⟨gapIn_iff_isMatch h, fun text s category t hs hm => ?_⟩
  rw [longestMatch_iff_of_cut hs hm, gapIn_iff_isMatch h, Bool.not_eq_true]

namespace Bundled

def luaGap : String := "(?s)\\.\\d+[eE][+-]\\d.*"

def pythonGap : String := "(?s)(?:\\.\\d+|\\d[\\d_]*_[\\d_]*(?:\\.\\d+)?)[eE][+-]\\d.*"

/-- Digits behind a leading zero or a digit beyond ASCII, which are no number, up to a point or an
exponent that makes them a malformed one. -/
def jsonGap : String :=
  "(?s)-?(?:0\\d\\d+[.eE]|(?:0\\d|[\\d--0-9]\\d*)\\.\\d\\d+[eE]).*"

def HasGaps (name : String) (clauses : List Clause) (source : String) : Prop :=
  ∃ l p, Language.build name clauses = .ok l ∧ Pattern.compile? source = some p ∧ l.GapsAt p

variable {name source : String} {clauses : List Clause}

theorem hasGaps_of_gapsIn (letters : String) (fuel : Nat)
    (h : (Language.build name clauses).toOption.any fun l =>
      decide ((Pattern.compile? source).any fun p => l.gapsIn p letters.toList fuel)) :
    HasGaps name clauses source := by
  obtain ⟨l, hl, hany⟩ := Language.exists_of_build h
  obtain ⟨p, hp, hgaps⟩ := (Option.any_eq_true ..).mp hany
  exact ⟨l, p, hl, hp, Language.gapsAt_of_gapsIn hgaps⟩

theorem HasGaps.exists_cut (h : HasGaps name clauses source) {text : String}
    (ht : (Pattern.compile? source).any (·.isMatch text)) :
    ∃ l s category t, Language.build name clauses = .ok l ∧
      Scan.Reached l.recogniser text.toList s ∧ s.move l.recogniser = .cut category t ∧
      ¬ l.LongestMatch s.remaining s.word.reverse := by
  obtain ⟨l, p, hl, hp, hgaps⟩ := h
  have hmatch : p.isMatch (.ofList text.toList) := by simpa [hp] using ht
  have hgap := (hgaps.gapIn_iff text.toList).mpr hmatch
  obtain ⟨_, s, category, t, hread, hm, -⟩ := Language.exists_cutsFirst_of_gapIn hgap
  refine ⟨l, s, category, t, hl, hread.reached, hm, ?_⟩
  rw [Language.longestMatch_iff_of_cut hread.reached hm, hread.remaining_eq]
  exact not_not_intro hgap

theorem lua_hasGaps : HasGaps "lua" lua luaGap :=
  hasGaps_of_gapsIn " \t\n\"#'+-./01:<=>AEGX[\\]~٠é" 50 (by decide +kernel)

theorem python_hasGaps : HasGaps "python" python pythonGap :=
  hasGaps_of_gapsIn " \t\n\r!\"#'(*+-./0128:<=>ABEGOX\\_j~٠é" 50 (by decide +kernel)

theorem json_hasGaps : HasGaps "json" json jsonGap :=
  hasGaps_of_gapsIn " \n\"+,-./01AE\\abeflnrstu٠é" 50 (by decide +kernel)

def gaps : List (String × List Clause × String) :=
  [("lua", lua, luaGap), ("python", python, pythonGap), ("json", json, jsonGap)]

theorem hasGaps_of_mem (h : (name, clauses, source) ∈ gaps) : HasGaps name clauses source := by
  simp only [gaps, List.mem_cons, Prod.mk.injEq, List.not_mem_nil, or_false] at h
  rcases h with ⟨rfl, rfl, rfl⟩ | ⟨rfl, rfl, rfl⟩ | ⟨rfl, rfl, rfl⟩
  · exact lua_hasGaps
  · exact python_hasGaps
  · exact json_hasGaps

/-- On the way through any text, each of these languages cuts off the longest match of what remains
if and only if what remains is no text with a gap. -/
theorem longestMatch_iff_not_isMatch (name : String) (clauses : List Clause) (source : String)
    (h : (name, clauses, source) ∈ gaps) (text : List Char) :
    ∃ l p, Language.build name clauses = .ok l ∧ Pattern.compile? source = some p ∧
      (l.GapIn text ↔ p.isMatch (.ofList text)) ∧
      ∀ s category t, Scan.Reached l.recogniser text s → s.move l.recogniser = .cut category t →
        (l.LongestMatch s.remaining s.word.reverse ↔ p.isMatch (.ofList s.remaining) = false) := by
  obtain ⟨l, p, hl, hp, hgaps⟩ := hasGaps_of_mem h
  exact ⟨l, p, hl, hp, hgaps.gapIn_iff text, hgaps.longestMatch_iff text⟩

theorem lua_exponent_gapIn :
    ∃ l, Language.build "lua" lua = .ok l ∧ l.GapIn ".5e+5".toList := by
  obtain ⟨l, p, hl, hp, hgap, -⟩ :=
    longestMatch_iff_not_isMatch "lua" lua luaGap List.mem_cons_self ".5e+5".toList
  have hmatch : (Pattern.compile? luaGap).any (·.isMatch ".5e+5") := by decide +kernel
  rw [hp, Option.any_some] at hmatch
  exact ⟨l, hl, hgap.mpr (by rwa [String.ofList_toList])⟩

theorem exists_cut_not_longestMatch :
    (∃ l s category t, Language.build "lua" lua = .ok l ∧
      Scan.Reached l.recogniser ".5e+5".toList s ∧ s.move l.recogniser = .cut category t ∧
      ¬ l.LongestMatch s.remaining s.word.reverse) ∧
    (∃ l s category t, Language.build "python" python = .ok l ∧
      Scan.Reached l.recogniser "1_0e+5".toList s ∧ s.move l.recogniser = .cut category t ∧
      ¬ l.LongestMatch s.remaining s.word.reverse) ∧
    ∃ l s category t, Language.build "json" json = .ok l ∧
      Scan.Reached l.recogniser "012.".toList s ∧ s.move l.recogniser = .cut category t ∧
      ¬ l.LongestMatch s.remaining s.word.reverse :=
  ⟨lua_hasGaps.exists_cut (by decide +kernel), python_hasGaps.exists_cut (by decide +kernel),
    json_hasGaps.exists_cut (by decide +kernel)⟩

end Bundled

end Lexicon
