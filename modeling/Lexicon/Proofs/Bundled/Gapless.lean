import Lexicon.Bundled
import Lexicon.Proofs.Build
import Lexicon.Proofs.GapSurvey

namespace Lexicon

def Pattern.nothing : Pattern := ⟨"[^\\s\\S]", .chars .none⟩

theorem Pattern.isMatch_nothing (text : List Char) : nothing.isMatch (.ofList text) = false := by
  rw [isMatch_ofList]
  cases text with
  | nil => rfl
  | cons c text => exact Residue.run_nil (some c) text

namespace Language

def gapless (l : Language) (letters : List Char) (fuel : Nat) : Bool :=
  l.gapsIn .nothing letters fuel

variable {l : Language} {letters : List Char} {fuel : Nat}

theorem not_gapIn_of_gapless (h : l.gapless letters fuel) (text : List Char) : ¬ l.GapIn text := by
  rw [gapIn_iff_isMatch h, Pattern.isMatch_nothing]
  exact Bool.false_ne_true

/-- Wherever the scanner cuts on its way through a text, it cuts off the longest match of what
remains of the text. -/
def CutsLongest (l : Language) : Prop :=
  ∀ text s category t, Scan.Reached l.recogniser text s → s.move l.recogniser = .cut category t →
    ∃ before, text = before ++ s.remaining ∧ s.start = (String.ofList before).utf8ByteSize ∧
      l.LongestMatch s.remaining s.word.reverse

theorem cutsLongest_of_gapless (h : l.gapless letters fuel) : l.CutsLongest := by
  intro text s category t hs hm
  obtain ⟨before, htext, hstart⟩ := hs.exists_append
  have hlongest := (longestMatch_iff_of_cut hs hm).mpr (not_gapIn_of_gapless h s.remaining)
  exact ⟨before, htext, hstart, hlongest⟩

end Language

namespace Bundled

theorem exists_cutsLongest {name : String} {clauses : List Clause} (letters : String) (fuel : Nat)
    (h : (Language.build name clauses).toOption.any fun l =>
      decide (l.gapless letters.toList fuel)) :
    ∃ l, Language.build name clauses = .ok l ∧ l.CutsLongest := by
  obtain ⟨l, hl, hgapless⟩ := Language.exists_of_build h
  exact ⟨l, hl, Language.cutsLongest_of_gapless hgapless⟩

/-- Ash, grammars and markup are cut by longest match. -/
theorem cutsLongest_of_mem (name : String) (clauses : List Clause)
    (h : (name, clauses) ∈ [("ash", ash), ("bnf", bnf), ("markup", markup)]) :
    ∃ l, Language.build name clauses = .ok l ∧ l.CutsLongest := by
  simp only [List.mem_cons, Prod.mk.injEq, List.not_mem_nil, or_false] at h
  rcases h with ⟨rfl, rfl⟩ | ⟨rfl, rfl⟩ | ⟨rfl, rfl⟩
  · exact exists_cutsLongest "é\t\n!\"#%(.0<=>A\\٠" 15 (by decide +kernel)
  · exact exists_cutsLongest "é\t\n \"'(-:;<=>A" 15 (by decide +kernel)
  · exact exists_cutsLongest "é\n#*-/@\\|" 30 (by decide +kernel)

theorem markup_separator_cutsFirst :
    ∃ l, Language.build "markup" markup = .ok l ∧
      ¬ l.Accepts "|-".toList ∧ ¬ l.Accepts "|--|-".toList ∧
      Scan.CutsFirst l.recogniser "|--|--".toList "|--|--".toList := by
  have hbuild : ∃ l, Language.build "markup" markup = .ok l ∧
      l.classify (.ofList ['|']) = some "table" ∧
      l.classify (.ofList "|-".toList) = none ∧ l.classify (.ofList "|--|-".toList) = none ∧
      l.classify (.ofList "|--|--".toList) = some "table_header_line" :=
    Language.exists_of_build (by decide +kernel)
  obtain ⟨l, hl, hbar, hdash, hdashes, hwhole⟩ := hbuild
  obtain ⟨l', hl', hlongest⟩ := cutsLongest_of_mem "markup" markup (by simp)
  obtain rfl : l = l' := by simpa [hl] using hl'
  have hmatches : l.recogniser.Matches "|--|--".toList 1 := by
    rw [Language.recogniser_matches]
    exact ⟨by decide, (l.classify_isSome_iff ['|']).mp (by rw [hbar]; rfl)⟩
  obtain ⟨_, s, category, t, hread, hm, rfl⟩ := Scan.exists_cutsFirst Nat.one_pos hmatches
  obtain ⟨-, -, -, hword⟩ := hlongest _ s category t hread.reached hm
  rw [hread.remaining_eq] at hword
  have hle := hword.longest _ (by decide) List.prefix_rfl
    ((l.classify_isSome_iff _).mp (by rw [hwhole]; rfl))
  refine ⟨l, hl, ?_, ?_, s, category, t, hread, hm, hword.isPrefix.eq_of_length_le hle⟩
  · rw [← l.classify_isSome_iff, hdash]
    simp
  · rw [← l.classify_isSome_iff, hdashes]
    simp

end Bundled

end Lexicon
