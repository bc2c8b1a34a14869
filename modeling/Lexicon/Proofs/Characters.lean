import Lexicon.Proofs.Composition
import Lexicon.Proofs.GapSurvey

namespace Lexicon

namespace Category

def avoids (c : Category) (d : Char) : Bool :=
  c.patterns.all fun p => p.regex.plain && p.regex.sets.all (!·.contains d)

theorem not_mem_of_avoids {c : Category} {d : Char} {word : String} (h : c.avoids d)
    (hw : c.accepts word) : d ∉ word.toList := by
  intro hd
  obtain ⟨p, hp, hmatch⟩ := List.any_eq_true.mp hw
  have hsets := List.all_eq_true.mp h p hp
  simp only [Bool.and_eq_true, List.all_eq_true, Bool.not_eq_true'] at hsets
  have hover : Residue.Over (fun s => s.contains d = false) [p.regex] := by
    intro r hr
    rw [List.mem_singleton.mp hr]
    exact Regex.over_of_plain hsets.1 hsets.2
  obtain ⟨s, hs, hsd⟩ := hover.exists_contains_of_run hmatch hd
  simp [hs] at hsd

end Category

namespace Language

variable {l : Language} {d : Char} {names : List String} {word name : String}

theorem exists_of_classify (h : l.classify word = some name) :
    ∃ c ∈ l.categories, c.name = name ∧ c.accepts word := by
  obtain ⟨c, hc, rfl⟩ := Option.map_eq_some_iff.mp h
  have hacc := List.find?_some hc
  exact ⟨c, List.mem_of_find?_eq_some hc, rfl, hacc⟩

def confines (l : Language) (d : Char) (names : List String) : Bool :=
  l.categories.all fun c => c.name ∈ names || c.avoids d

theorem mem_of_confines (h : l.confines d names) (hc : l.classify word = some name)
    (hd : d ∈ word.toList) : name ∈ names := by
  obtain ⟨c, hmem, rfl, hacc⟩ := exists_of_classify hc
  have hcase := List.all_eq_true.mp h c hmem
  simp only [Bool.or_eq_true, decide_eq_true_eq] at hcase
  exact hcase.resolve_right fun havoids => Category.not_mem_of_avoids havoids hacc hd

/-- Is every sample a word, by patterns that see nothing in a character but what a sample shows? -/
def readsAll (l : Language) : Bool :=
  (l.regexes.all fun r => r.plain && r.sets.all (·.simple)) &&
    samples.all fun c => l.regexes.run none [c]

theorem accepts_singleton (h : l.readsAll) (c : Char) : l.Accepts [c] := by
  simp only [readsAll, Bool.and_eq_true, List.all_eq_true] at h
  have hover : l.regexes.Over (·.simple) := fun r hr =>
    Regex.over_of_plain (h.1 r hr).1 (h.1 r hr).2
  obtain ⟨d, hd, hsets⟩ := exists_sample c
  have hrun : l.regexes.run none [c] = l.regexes.run none [d] := by
    simp only [Residue.run]
    rw [hover.advance_congr fun s hs => (hsets s hs).symm]
    exact hover.advance.accepts_congr
  rw [← run_regexes, hrun]
  exact h.2 d hd

end Language

namespace Segmentation

variable {l : Language} {names : List String} {start : Nat} {text : List Char}

theorem classify_eq {t : Token} {tokens : List Token}
    (h : Segmentation l [] start text (.ok tokens)) (ht : t ∈ tokens) :
    l.classify t.text = some t.category := by
  induction tokens generalizing start text with
  | nil => cases ht
  | cons u tokens ih =>
    obtain ⟨rest, -, -, hc, -, -, hrest⟩ := cons_iff.mp h
    cases ht with
    | head => exact hc
    | tail _ ht => exact ih hrest ht

theorem exists_eq_ok {result : Except LexError (List Token)}
    (h : Segmentation l names start text result) (hr : ∀ c, l.Accepts [c]) (hw : l.wrong = []) :
    ∃ tokens, result = .ok tokens := by
  induction h with
  | done => exact ⟨[], rfl⟩
  | @unlexable start text hne hno =>
    cases text with
    | nil => exact absurd rfl hne
    | cons c text => exact absurd ⟨by simp, hr c⟩ (hno 1 Nat.one_pos)
  | wrong _ _ hwrong => simp [Language.isWrong, hw] at hwrong
  | word _ _ _ _ ih =>
    obtain ⟨tokens, rfl⟩ := ih
    split
    · exact ⟨tokens, rfl⟩
    · exact ⟨_, rfl⟩

end Segmentation

theorem Language.exists_scan_eq_ok {l : Language} (h : l.readsAll) (hw : l.wrong = [])
    (names : List String) (text : String) : ∃ tokens, l.scan names text = .ok tokens :=
  (l.segmentation_scan names text).exists_eq_ok (accepts_singleton h) hw

end Lexicon
