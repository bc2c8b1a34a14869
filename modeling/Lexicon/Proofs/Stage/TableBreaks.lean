import Lexicon.Proofs.Stage.Table
import Lexicon.Proofs.Stage.TableOrphans

namespace Lexicon.Table

def EndsRow (n : Table) (before : List Token) : Prop :=
  ∃ line d, before = line ++ [d] ∧ d.category = n.delimiter ∧
    ∃ t ∈ n.lineOf line, t.category = n.delimiter

def TouchesRow (n : Table) (before after : List Token) : Prop :=
  n.EndsRow before ∨ ∃ t ∈ after.head?, t.category = n.delimiter

variable {n : Table} {b c d t : Token} {start : String} {i : Nat}
  {body row line before between below after tokens result : List Token}

theorem not_endsRow_nil : ¬ n.EndsRow [] := by
  simp [EndsRow]

theorem endsRow_concat_iff : n.EndsRow (line ++ [d]) ↔
    d.category = n.delimiter ∧ ∃ t ∈ n.lineOf line, t.category = n.delimiter := by
  constructor
  · rintro ⟨line', d', heq, hd, hfirst⟩
    obtain ⟨rfl, hdd⟩ := List.append_inj' heq rfl
    obtain rfl : d = d' := by simpa using hdd
    exact ⟨hd, hfirst⟩
  · rintro ⟨hd, hfirst⟩
    exact ⟨line, d, rfl, hd, hfirst⟩

theorem Retagged.eq_paragraph (hn : n.names.Nodup) (h : n.Retagged t c)
    (hc : c.category = n.paragraph) : t.category = n.paragraph := by
  rcases h.category with heq | hwritten
  · rw [← heq, hc]
  · rw [hc] at hwritten
    grind [names, written]

theorem retagged_getElem? (h : List.Forall₂ n.Retagged tokens result) (hc : c ∈ result[i]?) :
    ∃ t ∈ tokens[i]?, n.Retagged t c := by
  induction h generalizing i with
  | nil => simp at hc
  | cons hr _ ih =>
    cases i with
    | zero =>
      obtain rfl : _ = c := by simpa using hc
      exact ⟨_, rfl, hr⟩
    | succ i => exact ih hc

theorem closing_eq_paragraph_iff (hn : n.names.Nodup) (hb : b.category = n.paragraph)
    (row : List Token) (next : Option Token) :
    (n.closing row b next).category = n.paragraph ↔
      ¬ ((∃ t ∈ row.getLast?, t.category = n.lineEnd) ∨ ∃ t ∈ next, t.category = n.delimiter) := by
  have hne : n.newline ≠ n.paragraph := by grind [names]
  unfold closing
  split
  · rename_i hcond
    exact ⟨fun h => absurd h hne, fun h => absurd hcond.2 h⟩
  · rename_i hcond
    exact ⟨fun _ h => hcond ⟨hb, h⟩, fun _ => hb⟩

theorem inRow_eq_lineEnd_iff (hstart : start ≠ n.lineEnd) (ht : t.category ≠ n.lineEnd) :
    n.inRow start before t [] = n.lineEnd ↔
      t.category = n.delimiter ∧ ∃ u ∈ before, u.category = n.delimiter := by
  by_cases hd : t.category = n.delimiter
  · by_cases hfirst : ∀ u ∈ before, u.category ≠ n.delimiter
    · simpa [inRow, hd, if_pos hfirst, hstart] using hfirst
    · simpa [inRow, hd, if_neg hfirst] using hfirst
  · simp [inRow, hd, ht]

theorem AsRow.getLast?_lineEnd_iff (hrow : n.AsRow start body row) (hbody : n.Body body)
    (hstart : start ≠ n.lineEnd) :
    (∃ t ∈ row.getLast?, t.category = n.lineEnd) ↔ n.EndsRow body := by
  rcases List.eq_nil_or_concat body with rfl | ⟨line, d, rfl⟩
  · have hnil : row = [] := List.length_eq_zero_iff.mp hrow.length_eq
    simp [hnil, not_endsRow_nil]
  · rw [List.concat_eq_append] at hrow hbody ⊢
    have hlast : row.getLast? = some { d with category := n.inRow start line d [] } := by
      rw [List.getLast?_eq_getElem?, hrow.length_eq, List.length_append, List.length_singleton,
        Nat.add_sub_cancel]
      exact hrow.getElem?_eq line d [] rfl
    have hfresh : d.category ≠ n.lineEnd := fun h => hbody.fresh d (by simp) (by simp [outputs, h])
    have hline : n.lineOf line = line :=
      lineOf_eq_self fun t ht => hbody.unbroken t (by simp [ht])
    simp [hlast, endsRow_concat_iff, hline, inRow_eq_lineEnd_iff hstart hfresh]

theorem endsRow_append_iff (hn : n.names.Nodup) (hb : n.isBreak b = true) :
    n.EndsRow (body ++ b :: between) ↔ n.EndsRow between := by
  rcases List.eq_nil_or_concat between with rfl | ⟨line, d, rfl⟩
  · have hne : b.category ≠ n.delimiter := fun hd => not_mem_of_isBreak hn hb (by simp [hd])
    simp [endsRow_concat_iff, not_endsRow_nil, hne]
  · rw [List.concat_eq_append, ← List.cons_append, ← List.append_assoc, endsRow_concat_iff,
      endsRow_concat_iff, lineOf_append hb]

theorem Classified.paragraph_iff (hn : n.names.Nodup)
    (htokens : ∀ t ∈ tokens, t.category ∉ n.outputs) (h : n.Classified tokens result)
    (heq : tokens = before ++ b :: after) (hb : b.category = n.paragraph) :
    (∃ c ∈ result[before.length]?, c.category = n.paragraph) ↔ ¬ n.TouchesRow before after := by
  have hbreak : n.isBreak b = true := isBreak_iff.mpr (.inr hb)
  induction h generalizing before with
  | last hbody _ =>
    have hnot := hbody b (by simp [heq])
    rw [hbreak] at hnot
    cases hnot
  | @line body row below rest b' hbody hb' hrow _ ih =>
    have hfresh := List.forall_mem_append.mp htokens
    have hlength := hrow.length_eq
    rcases split_line hbody hbreak heq with ⟨rfl, rfl, rfl⟩ | ⟨between, rfl, rfl⟩
    · have hline : n.Body before := ⟨hbody, hfresh.1⟩
      have hend := hrow.getLast?_lineEnd_iff hline (opening_ne_lineEnd hn _)
      have hclosing := closing_eq_paragraph_iff hn hb row after.head?
      rw [hend] at hclosing
      simpa [← hlength, TouchesRow] using hclosing
    · have hbelow := (List.forall_mem_cons.mp hfresh.2).2
      rw [TouchesRow, endsRow_append_iff hn hb']
      refine Iff.trans ?_ (ih hbelow rfl)
      have hindex : (body ++ b' :: between).length = row.length + (between.length + 1) := by
        simp [hlength]
      rw [hindex, List.getElem?_append_right (by omega), Nat.add_sub_cancel_left,
        List.getElem?_cons_succ]

/-- If the categories are all different and no token comes in with one that the stage writes, the
paragraphs of the result are those that have no delimiter behind them and none before them, unless
that is alone in its line. -/
theorem apply_keeps_paragraph_iff (n : Table) (tokens result : List Token) (hn : n.names.Nodup)
    (htokens : ∀ t ∈ tokens, t.category ∉ n.outputs) (h : n.apply tokens = .ok result)
    (before : List Token) (b : Token) (after : List Token) (heq : tokens = before ++ b :: after) :
    (∃ c ∈ result[before.length]?, c.category = n.paragraph) ↔
      b.category = n.paragraph ∧ ¬ n.TouchesRow before after := by
  have hclassified := classified_apply hn htokens h
  constructor
  · rintro ⟨c, hc, hparagraph⟩
    obtain ⟨t, ht, hretagged⟩ := retagged_getElem? (forall₂_apply h) hc
    obtain rfl : b = t := by simpa [heq] using ht
    have hb := hretagged.eq_paragraph hn hparagraph
    exact ⟨hb, (hclassified.paragraph_iff hn htokens heq hb).mp ⟨c, hc, hparagraph⟩⟩
  · rintro ⟨hb, htouches⟩
    exact (hclassified.paragraph_iff hn htokens heq hb).mpr htouches

theorem row_paragraph_normalised :
    ∃ before after result : List Token,
      before = [⟨"table", "|", 0⟩, ⟨"normal", "é", 1⟩, ⟨"table", "|", 3⟩] ∧
      after = [⟨"normal", "x", 6⟩] ∧
      result = [⟨"table_line_start", "|", 0⟩, ⟨"normal", "é", 1⟩, ⟨"table_line_end", "|", 3⟩,
        ⟨"newline", "\n\n", 4⟩, ⟨"normal", "x", 6⟩] ∧
      (names {}).Nodup ∧
      (∀ t ∈ before ++ ⟨"paragraph", "\n\n", 4⟩ :: after, t.category ∉ outputs {}) ∧
      apply {} (before ++ ⟨"paragraph", "\n\n", 4⟩ :: after) = .ok result ∧
      TouchesRow {} before after := by
  refine ⟨_, _, _, rfl, rfl, rfl, by decide, by decide, by decide +kernel, ?_⟩
  have hkept := apply_keeps_paragraph_iff {}
    [⟨"table", "|", 0⟩, ⟨"normal", "é", 1⟩, ⟨"table", "|", 3⟩, ⟨"paragraph", "\n\n", 4⟩,
      ⟨"normal", "x", 6⟩]
    [⟨"table_line_start", "|", 0⟩, ⟨"normal", "é", 1⟩, ⟨"table_line_end", "|", 3⟩,
      ⟨"newline", "\n\n", 4⟩, ⟨"normal", "x", 6⟩] (by decide) (by decide) (by decide +kernel)
    [⟨"table", "|", 0⟩, ⟨"normal", "é", 1⟩, ⟨"table", "|", 3⟩] _ [⟨"normal", "x", 6⟩] rfl
  simpa using hkept

theorem lone_delimiter_keeps_paragraph :
    ∃ tokens result : List Token,
      tokens = [⟨"table", "|", 0⟩, ⟨"paragraph", "\n\n", 1⟩, ⟨"normal", "x", 3⟩] ∧
      result = [⟨"table_line_start", "|", 0⟩, ⟨"paragraph", "\n\n", 1⟩, ⟨"normal", "x", 3⟩] ∧
      (names {}).Nodup ∧ (∀ t ∈ tokens, t.category ∉ outputs {}) ∧ apply {} tokens = .ok result :=
  ⟨_, _, rfl, rfl, by decide, by decide, by decide +kernel⟩

end Lexicon.Table
