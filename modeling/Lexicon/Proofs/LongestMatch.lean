import Lexicon.Proofs.Segmentation

/-!
When the scanner cuts off the longest word. A language has a gap in a text if a match comes back
after it was lost for two characters or more; the first cut of a text is its longest match if and
only if there is no gap in it.
-/

namespace Lexicon.Language

structure LongestMatch (l : Language) (text word : List Char) : Prop where
  ne_nil : word ≠ []
  isPrefix : word <+: text
  accepts : l.Accepts word
  longest : ∀ v, v ≠ [] → v <+: text → l.Accepts v → v.length ≤ word.length

def GapIn (l : Language) (text : List Char) : Prop :=
  ∃ i k j, 0 < i ∧ i < k ∧ k + 1 < j ∧ j ≤ text.length ∧
    l.Accepts (text.take i) ∧ l.Accepts (text.take j) ∧
    ¬ l.Accepts (text.take k) ∧ ¬ l.Accepts (text.take (k + 1))

variable {l : Language} {text word : List Char} {n : Nat}

theorem gapIn_iff : l.GapIn text ↔ Gap (l.Matches text) := by
  constructor
  · rintro ⟨i, k, j, hi, hik, hkj, hj, hMi, hMj, hk, hk'⟩
    exact ⟨i, k, j, hi, hik, hkj, ⟨by omega, hMi⟩, fun h => hk h.2, fun h => hk' h.2, hj, hMj⟩
  · rintro ⟨i, k, j, hi, hik, hkj, hMi, hk, hk', hMj⟩
    have hj := hMj.1
    exact ⟨i, k, j, hi, hik, hkj, hj, hMi.2, hMj.2, fun h => hk ⟨by omega, h⟩,
      fun h => hk' ⟨by omega, h⟩⟩

theorem longestMatch_take_iff (hn : 0 < n) (hM : l.Matches text n) :
    l.LongestMatch text (text.take n) ↔ ∀ j, l.Matches text j → j ≤ n := by
  have hlen : (text.take n).length = n := List.length_take_of_le hM.1
  constructor
  · intro h j hj
    by_cases hj0 : j = 0
    · omega
    · have hjlen : (text.take j).length = j := List.length_take_of_le hj.1
      have hne : text.take j ≠ [] := List.ne_nil_of_length_pos (by omega)
      have hle := h.longest (text.take j) hne (List.take_prefix j text) hj.2
      omega
  · intro h
    refine ⟨List.ne_nil_of_length_pos (by omega), List.take_prefix n text, hM.2, ?_⟩
    intro v _ hv hacc
    have hvM : l.Matches text v.length := ⟨hv.length_le, by rwa [← List.prefix_iff_eq_take.mp hv]⟩
    have hle := h v.length hvM
    omega

theorem longestMatch_iff_of_firstCut (h : FirstCut (l.Matches text) n) :
    l.LongestMatch text (text.take n) ↔ ¬ l.GapIn text := by
  rw [longestMatch_take_iff h.pos h.hit, h.longest_iff, gapIn_iff]

theorem longestMatch_iff_of_cut {s t : Scan Frontier String} {category : String}
    (h : Scan.Reached l.recogniser text s) (hm : s.move l.recogniser = .cut category t) :
    l.LongestMatch s.remaining s.word.reverse ↔ ¬ l.GapIn s.remaining := by
  rw [← s.take_remaining]
  exact longestMatch_iff_of_firstCut (cut_spec h.sound hm).1

theorem longestMatch_iff_of_cutsFirst (h : Scan.CutsFirst l.recogniser text word) :
    l.LongestMatch text word ↔ ¬ l.GapIn text := by
  obtain ⟨s, category, t, hread, hm, rfl⟩ := h
  have hcut := longestMatch_iff_of_cut hread.reached hm
  rwa [hread.remaining_eq] at hcut

theorem exists_cutsFirst_of_gapIn (h : l.GapIn text) :
    ∃ word, Scan.CutsFirst l.recogniser text word := by
  obtain ⟨i, k, j, hi, hik, hkj, hj, hMi, -⟩ := h
  exact Scan.exists_cutsFirst hi (l.recogniser_matches ▸ ⟨by omega, hMi⟩)

/-- Every first cut of every text is a longest match if and only if no text has a gap. -/
theorem cutsFirst_longestMatch_iff (l : Language) :
    (∀ text word, Scan.CutsFirst l.recogniser text word → l.LongestMatch text word) ↔
      ¬ ∃ (w : List Char) (i k j : Nat), 0 < i ∧ i < k ∧ k + 1 < j ∧ j ≤ w.length ∧
        l.Accepts (w.take i) ∧ l.Accepts (w.take j) ∧
        ¬ l.Accepts (w.take k) ∧ ¬ l.Accepts (w.take (k + 1)) := by
  constructor
  · rintro h ⟨w, hgap⟩
    obtain ⟨word, hcut⟩ := exists_cutsFirst_of_gapIn hgap
    exact (longestMatch_iff_of_cutsFirst hcut).mp (h w word hcut) hgap
  · intro h text word hcut
    exact (longestMatch_iff_of_cutsFirst hcut).mpr fun hgap => h ⟨text, hgap⟩

end Lexicon.Language
