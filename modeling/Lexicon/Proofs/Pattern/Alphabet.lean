import Lexicon.Proofs.Pattern.Residue

namespace Lexicon

open Text

namespace Text.Ranges

theorem exists_of_holds {n : Nat} {spans : List (Nat × Nat)} (h : holds n spans) :
    ∃ e ∈ spans, e.1 ≤ n ∧ n ≤ e.2 := by
  induction spans with
  | nil => simp [holds] at h
  | cons e rest ih =>
    simp only [holds, Bool.and_eq_true, Bool.or_eq_true, decide_eq_true_eq] at h
    obtain ⟨hlo, hhi | hrest⟩ := h
    · exact ⟨e, by simp, hlo, hhi⟩
    · obtain ⟨e', he', hle⟩ := ih hrest
      exact ⟨e', by simp [he'], hle⟩

theorem not_contains_of_disjoint {r r' : Ranges}
    (h : ∀ e ∈ r.spans, ∀ e' ∈ r'.spans, e.2 < e'.1 ∨ e'.2 < e.1) {c : Char} (hc : r.contains c) :
    r'.contains c = false := by
  rw [Bool.eq_false_iff]
  intro hc'
  obtain ⟨e, he, hlo, hhi⟩ := exists_of_holds hc
  obtain ⟨e', he', hlo', hhi'⟩ := exists_of_holds hc'
  have hdisj := h e he e' he'
  omega

end Text.Ranges

theorem Text.isBlank_of_isDigit {c : Char} (h : isDigit c) : isBlank c = false :=
  Ranges.not_contains_of_disjoint (by decide +kernel) h

namespace CharSet

def simple : CharSet → Bool
  | none => true
  | range _ hi => hi.toNat < 128
  | digit => true
  | blank => true
  | word => false
  | listed _ => false
  | union s t => s.simple && t.simple
  | inter s t => s.simple && t.simple
  | compl s => s.simple
  | anyCase _ => false
  | asciiCase _ => false

theorem contains_congr {s : CharSet} (hs : s.simple) {c d : Char} (hc : 128 ≤ c.toNat)
    (hd : 128 ≤ d.toNat) (hdigit : isDigit c = isDigit d) (hblank : isBlank c = isBlank d) :
    s.contains c = s.contains d := by
  induction s with
  | none => rfl
  | range lo hi =>
    have hhi : hi.toNat < 128 := by simpa [simple] using hs
    have beyond : ∀ e : Char, 128 ≤ e.toNat → ¬ e ≤ hi := by
      intro e he hle
      have : e.toNat ≤ hi.toNat := hle
      omega
    simp [contains, beyond c hc, beyond d hd]
  | digit => exact hdigit
  | blank => exact hblank
  | word => simp [simple] at hs
  | listed r => simp [simple] at hs
  | union s t ihs iht =>
    simp only [simple, Bool.and_eq_true] at hs
    simp only [contains, ihs hs.1, iht hs.2]
  | inter s t ihs iht =>
    simp only [simple, Bool.and_eq_true] at hs
    simp only [contains, ihs hs.1, iht hs.2]
  | compl s ih => simp only [contains, ih hs]
  | anyCase s => simp [simple] at hs
  | asciiCase s => simp [simple] at hs

end CharSet

/-- All of ASCII, and a digit, a blank and a letter beyond it. -/
def samples : List Char := (List.range 128).map Char.ofNat ++ ['٠', '\u2003', 'é']

theorem exists_sample (c : Char) :
    ∃ d ∈ samples, ∀ s : CharSet, s.simple → s.contains d = s.contains c := by
  by_cases hc : c.toNat < 128
  · refine ⟨c, ?_, fun _ _ => rfl⟩
    rw [samples, List.mem_append, List.mem_map]
    exact .inl ⟨c.toNat, List.mem_range.mpr hc, Char.ofNat_toNat c⟩
  · have hge : 128 ≤ c.toNat := Nat.le_of_not_lt hc
    have stands : ∀ d ∈ ['٠', '\u2003', 'é'], 128 ≤ d.toNat → isDigit d = isDigit c →
        isBlank d = isBlank c →
        ∃ d ∈ samples, ∀ s : CharSet, s.simple → s.contains d = s.contains c := by
      intro d hd hd128 hdigit hblank
      exact ⟨d, by simp [samples, hd], fun s hs => CharSet.contains_congr hs hd128 hge hdigit hblank⟩
    cases hdigit : isDigit c with
    | true =>
      have hblank := isBlank_of_isDigit hdigit
      exact stands '٠' (by simp) (by decide) (by rw [hdigit]; decide) (by rw [hblank]; decide)
    | false =>
      cases hblank : isBlank c with
      | true =>
        exact stands '\u2003' (by simp) (by decide) (by rw [hdigit]; decide)
          (by rw [hblank]; decide)
      | false =>
        exact stands 'é' (by simp) (by decide) (by rw [hdigit]; decide) (by rw [hblank]; decide)

/-- Is there a letter for every sample that the sets do not tell from it? The letters and the samples
inside and outside of a set are told apart at once. -/
def covers : List CharSet → List Char → List Char → Bool
  | [], letters, samples => samples.isEmpty || !letters.isEmpty
  | s :: sets, letters, samples =>
    samples.isEmpty ||
      (covers sets (letters.filter s.contains) (samples.filter s.contains) &&
        covers sets (letters.filter (!s.contains ·)) (samples.filter (!s.contains ·)))

theorem exists_of_covers {sets : List CharSet} {letters samples : List Char}
    (h : covers sets letters samples) {c : Char} (hc : c ∈ samples) :
    ∃ d ∈ letters, ∀ s ∈ sets, s.contains d = s.contains c := by
  have hne : samples.isEmpty = false := by
    rw [List.isEmpty_eq_false_iff]
    exact List.ne_nil_of_mem hc
  induction sets generalizing letters samples with
  | nil =>
    simp only [covers, hne, Bool.false_or, Bool.not_eq_true', List.isEmpty_eq_false_iff] at h
    obtain ⟨d, hd⟩ := List.exists_mem_of_ne_nil letters h
    exact ⟨d, hd, by simp⟩
  | cons s sets ih =>
    simp only [covers, hne, Bool.false_or, Bool.and_eq_true] at h
    have side : ∀ q : Char → Bool, covers sets (letters.filter q) (samples.filter q) → q c →
        ∃ d ∈ letters, q d ∧ ∀ u ∈ sets, u.contains d = u.contains c := by
      intro q hq hqc
      have hmem : c ∈ samples.filter q := List.mem_filter.mpr ⟨hc, hqc⟩
      obtain ⟨d, hd, hsets⟩ := ih hq hmem (by simpa using ⟨c, hc, hqc⟩)
      obtain ⟨hd, hqd⟩ := List.mem_filter.mp hd
      exact ⟨d, hd, hqd, hsets⟩
    cases hsc : s.contains c with
    | true =>
      obtain ⟨d, hd, hsd, hsets⟩ := side _ h.1 hsc
      exact ⟨d, hd, by simpa [hsc, hsd] using hsets⟩
    | false =>
      obtain ⟨d, hd, hsd, hsets⟩ := side (!s.contains ·) h.2 (by simp [hsc])
      rw [Bool.not_eq_true'] at hsd
      exact ⟨d, hd, by simpa [hsc, hsd] using hsets⟩

theorem exists_letter {letters : List Char} {sets : List CharSet} (h : covers sets letters samples)
    (hs : ∀ s ∈ sets, s.simple) (c : Char) :
    ∃ d ∈ letters, ∀ s ∈ sets, s.contains d = s.contains c := by
  obtain ⟨e, he, hec⟩ := exists_sample c
  obtain ⟨d, hd, hde⟩ := exists_of_covers h he
  exact ⟨d, hd, fun s hmem => (hde s hmem).trans (hec s (hs s hmem))⟩

end Lexicon
