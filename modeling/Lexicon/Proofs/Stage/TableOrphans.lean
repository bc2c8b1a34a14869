import Mathlib.Data.List.DropRight
import Lexicon.Proofs.Stage.TableLines

/-!
When the table stage fails. A header separator is an orphan if the line above it has no delimiter.
The stage fails at the first orphan and at nothing else: the walk up from a break finds the row of
the line that the break ends, and never comes to another line.
-/

namespace Lexicon.Table

def lineOf (n : Table) (before : List Token) : List Token := before.rtakeWhile (!n.isBreak ·)

/-- The break was a newline before, or is a paragraph directly behind a delimiter that becomes the
end of a row. -/
def ComesOutNewline (n : Table) (line : List Token) (b : Token) : Prop :=
  b.category = n.newline ∨ b.category = n.paragraph ∧
    ∃ before d, line = before ++ [d] ∧ d.category = n.delimiter ∧
      n.inRow n.lineStart before d [] = n.lineEnd

structure Orphan (n : Table) (line : List Token) (b : Token) (next : Option Token) : Prop where
  newline : n.ComesOutNewline line b
  separator : ∃ t ∈ next, t.category = n.headerSeparator
  rowless : ∀ t ∈ line, t.category ≠ n.delimiter

def Sheltered (n : Table) (before after : List Token) : Prop :=
  ∀ above c between, before = above ++ c :: between →
    ¬ n.Orphan (n.lineOf above) c (between ++ after).head?

structure FirstOrphan (n : Table) (before : List Token) (b : Token) (below : List Token) : Prop
    extends Orphan n (n.lineOf before) b below.head? where
  sheltered : n.Sheltered before (b :: below)

/-- Wherever the pass comes to a break, the walk up from there finds the row of the line if the line
has a delimiter, and leaves what stands above the line as it is. -/
def WalksLines (n : Table) (tokens : List Token) : Prop :=
  ∀ before b below, tokens = before ++ b :: below → n.isBreak b = true →
    n.Sheltered before (b :: below) →
    ∃ above rowOpen, n.apply tokens =
        n.applyFrom ((n.row n.lineStart (n.lineOf before)).reverse ++ above) rowOpen (b :: below) ∧
      n.promote true ((n.row n.lineStart (n.lineOf before)).reverse ++ above) =
        if ∃ t ∈ n.lineOf before, t.category = n.delimiter then
          some ((n.row n.headerLineStart (n.lineOf before)).reverse ++ above)
        else none

variable {n : Table} {b c : Token} {line body above before below after tokens : List Token}
  {next : Option Token} {r : Refusal}

theorem lineOf_eq_self (h : ∀ t ∈ body, n.isBreak t = false) : n.lineOf body = body := by
  rw [lineOf, List.rtakeWhile_eq_self_iff]
  simpa using h

theorem lineOf_append (hb : n.isBreak b = true) (body above : List Token) :
    n.lineOf (body ++ b :: above) = n.lineOf above := by
  induction above using List.reverseRecOn with
  | nil => simp [lineOf, hb]
  | append_singleton above t ih =>
    rw [← List.cons_append, ← List.append_assoc]
    simp only [lineOf, List.rtakeWhile_concat] at ih ⊢
    rw [ih]

theorem ComesOutNewline.isBreak (h : n.ComesOutNewline line b) : n.isBreak b = true :=
  isBreak_iff.mpr (h.imp id And.left)

theorem orphan_iff (hn : n.names.Nodup) (hline : n.Body line)
    (hc : n.closing (n.row n.lineStart line) b next = c) :
    n.Orphan line b next ↔ n.Heads c next ∧ ∀ t ∈ line, t.category ≠ n.delimiter := by
  constructor
  · rintro ⟨hnewline, hseparator, hrowless⟩
    have hb : b.category = n.newline := by
      refine hnewline.resolve_right ?_
      rintro ⟨-, before, d, rfl, hd, -⟩
      exact hrowless d (by simp) hd
    have hne : n.newline ≠ n.paragraph := by grind [names]
    have hcb : c = b := by
      rw [← hc, closing, if_neg (by simp [hb, hne])]
    exact ⟨⟨hcb ▸ hb, hseparator⟩, hrowless⟩
  · rintro ⟨⟨hnewline, t, ht, hseparator⟩, hrowless⟩
    refine ⟨.inl ?_, ⟨t, ht, hseparator⟩, hrowless⟩
    rw [row_eq_self hrowless] at hc
    unfold closing at hc
    split at hc
    · rename_i hcond
      rcases hcond.2 with ⟨u, hu, hend⟩ | ⟨u, hu, hd⟩
      · exact absurd (by simp [outputs, hend]) (hline.fresh u (List.mem_of_getLast? hu))
      · have hne : n.delimiter ≠ n.headerSeparator := by grind [names]
        cases Option.mem_unique ht hu
        exact absurd (hd.symm.trans hseparator) hne
    · rw [hc, hnewline]

theorem split_line (hbody : ∀ t ∈ body, n.isBreak t = false) (hc : n.isBreak c = true)
    (h : body ++ b :: below = above ++ c :: after) :
    (above = body ∧ c = b ∧ after = below) ∨
      ∃ between, above = body ++ b :: between ∧ below = between ++ c :: after := by
  rcases List.append_eq_append_iff.mp h with ⟨mid, rfl, hmid⟩ | ⟨mid, rfl, hmid⟩
  · cases mid with
    | nil =>
      cases hmid
      exact .inl ⟨by simp, rfl, rfl⟩
    | cons t between =>
      cases hmid
      exact .inr ⟨between, rfl, rfl⟩
  · cases mid with
    | nil =>
      cases hmid
      exact .inl ⟨by simp, rfl, rfl⟩
    | cons t mid =>
      cases hmid
      simp [hbody c (by simp)] at hc

theorem sheltered_of_unbroken (hbody : ∀ t ∈ body, n.isBreak t = false) (after : List Token) :
    n.Sheltered body after := by
  rintro above c between rfl horphan
  have hc := horphan.newline.isBreak
  simp [hbody c (by simp)] at hc

theorem sheltered_line_iff (hbody : ∀ t ∈ body, n.isBreak t = false) (hb : n.isBreak b = true) :
    n.Sheltered (body ++ b :: before) after ↔
      ¬ n.Orphan body b (before ++ after).head? ∧ n.Sheltered before after := by
  constructor
  · intro h
    refine ⟨?_, ?_⟩
    · simpa [lineOf_eq_self hbody] using h body b before rfl
    · rintro above c between rfl
      simpa [lineOf_append hb] using h (body ++ b :: above) c between (by simp)
  · rintro ⟨hfirst, hbefore⟩ above c between heq horphan
    rcases split_line hbody horphan.newline.isBreak heq with ⟨rfl, rfl, rfl⟩ | ⟨mid, rfl, rfl⟩
    · rw [lineOf_eq_self hbody] at horphan
      exact hfirst horphan
    · rw [lineOf_append hb] at horphan
      exact hbefore mid c between rfl horphan

theorem exists_applyFrom_lineOf (hn : n.names.Nodup)
    (hbefore : ∀ t ∈ before, t.category ∉ n.outputs) (h : n.Sheltered before after)
    (hdone : above.head?.all n.isBreak) :
    ∃ done, done.head?.all n.isBreak ∧ n.applyFrom above false (before ++ after) =
      n.applyFrom done false (n.lineOf before ++ after) := by
  induction before using line_induction (n := n) generalizing above with
  | last body hbody => exact ⟨above, hdone, by rw [lineOf_eq_self hbody]⟩
  | line body b below hbody hb ih =>
    have hfresh := List.forall_mem_append.mp hbefore
    have hline : n.Body body := ⟨hbody, hfresh.1⟩
    obtain ⟨hfirst, hbelow⟩ := (sheltered_line_iff hbody hb).mp h
    have hclosing := isBreak_closing hb (n.row n.lineStart body) (below ++ after).head?
    rw [orphan_iff hn hline rfl] at hfirst
    rw [lineOf_append hb, List.append_assoc, List.cons_append,
      applyFrom_line hn hline hb hdone rfl, if_neg hfirst]
    exact ih (List.forall_mem_cons.mp hfresh.2).2 hbelow (by simpa using hclosing)

theorem exists_apply_lineOf (hn : n.names.Nodup) (hbefore : ∀ t ∈ before, t.category ∉ n.outputs)
    (h : n.Sheltered before after) :
    ∃ done, done.head?.all n.isBreak ∧ n.apply (before ++ after) =
      n.applyFrom done false (n.lineOf before ++ after) :=
  exists_applyFrom_lineOf hn hbefore h rfl

theorem body_lineOf (h : ∀ t ∈ before, t.category ∉ n.outputs) : n.Body (n.lineOf before) := by
  refine ⟨fun t ht => ?_, fun t ht => h t (List.rtakeWhile_suffix _ _ |>.mem ht)⟩
  simpa using List.mem_rtakeWhile_imp ht

theorem apply_eq_error_of_firstOrphan (hn : n.names.Nodup)
    (hbefore : ∀ t ∈ before, t.category ∉ n.outputs) (h : n.FirstOrphan before b below) :
    n.apply (before ++ b :: below) = .error (.orphanHeader b.stop) := by
  have hline := body_lineOf hbefore
  obtain ⟨done, hdone, hpass⟩ := exists_apply_lineOf hn hbefore h.sheltered
  rw [hpass, applyFrom_line hn hline h.newline.isBreak hdone rfl,
    if_pos ((orphan_iff hn hline rfl).mp h.toOrphan)]

theorem exists_firstOrphan_of_apply (hn : n.names.Nodup)
    (htokens : ∀ t ∈ tokens, t.category ∉ n.outputs) (h : n.apply tokens = .error r) :
    ∃ before b below, tokens = before ++ b :: below ∧ n.FirstOrphan before b below := by
  induction tokens using line_induction (n := n) with
  | last body hbody => simp [apply_body hn ⟨hbody, htokens⟩] at h
  | line body b below hbody hb ih =>
    have hfresh := List.forall_mem_append.mp htokens
    have hbelow := (List.forall_mem_cons.mp hfresh.2).2
    have hline : n.Body body := ⟨hbody, hfresh.1⟩
    rw [apply_line hn hline hb hbelow rfl] at h
    by_cases horphan : n.Orphan body b below.head?
    · rw [← lineOf_eq_self hbody] at horphan
      exact ⟨body, b, below, rfl, horphan, sheltered_of_unbroken hbody _⟩
    · rw [if_neg (mt (orphan_iff hn hline rfl).mpr horphan)] at h
      have herror : n.apply below = .error r := by
        cases hrest : n.apply below with
        | error e => simpa [hrest, Except.map] using h
        | ok result => simp [hrest, Except.map] at h
      obtain ⟨above, c, after, rfl, hfirst⟩ := ih hbelow herror
      refine ⟨body ++ b :: above, c, after, by simp, ?_, ?_⟩
      · rw [lineOf_append hb]
        exact hfirst.toOrphan
      · exact (sheltered_line_iff hbody hb).mpr ⟨horphan, hfirst.sheltered⟩

theorem exists_firstOrphan (before : List Token) (b : Token) (below : List Token)
    (h : n.Orphan (n.lineOf before) b below.head?) :
    ∃ above c after, before ++ b :: below = above ++ c :: after ∧ n.FirstOrphan above c after := by
  by_cases hs : n.Sheltered before (b :: below)
  · exact ⟨before, b, below, rfl, h, hs⟩
  · simp only [Sheltered, not_forall, not_not] at hs
    obtain ⟨above, c, between, hbefore, horphan⟩ := hs
    have hlt : above.length < before.length := by simp [hbefore]
    obtain ⟨first, d, after, heq, hfirst⟩ := exists_firstOrphan above c _ horphan
    exact ⟨first, d, after, by rw [← heq, hbefore]; simp, hfirst⟩
termination_by before.length

theorem walksLines (hn : n.names.Nodup) (htokens : ∀ t ∈ tokens, t.category ∉ n.outputs) :
    n.WalksLines tokens := by
  rintro before b below rfl hb hs
  have hbefore := (List.forall_mem_append.mp htokens).1
  have hline := body_lineOf hbefore
  obtain ⟨above, habove, hpass⟩ := exists_apply_lineOf hn hbefore hs
  obtain ⟨o, ho⟩ := exists_applyFrom_row hn hline above
    (show (b :: below).head?.all n.isBreak by simp [hb])
  exact ⟨above, o, hpass.trans ho, promote_row hn hline habove⟩

theorem stop_eq (h : b.start + b.size < Token.offsets) : b.stop = b.start + b.size :=
  Nat.mod_eq_of_lt h

/-- If the categories are all different and no token comes in with one that the stage writes, the
stage fails if and only if there is an orphan, and reports the offset behind the first such break.
No walk up leaves its line or misses the row of it. -/
theorem apply_fails_iff_orphan (n : Table) (tokens : List Token) (hn : n.names.Nodup)
    (htokens : ∀ t ∈ tokens, t.category ∉ n.outputs) :
    ((∃ r, n.apply tokens = .error r) ↔ ∃ before b below, tokens = before ++ b :: below ∧
      n.Orphan (n.lineOf before) b below.head?) ∧
    (∀ r, n.apply tokens = .error r → r.stage = "table-retag" ∧
      ∃ before b below, tokens = before ++ b :: below ∧ n.FirstOrphan before b below ∧
        r = .orphanHeader b.stop ∧
        (b.start + b.size < Token.offsets → b.stop = b.start + b.size)) ∧
    n.WalksLines tokens := by
  have herror : ∀ before b below, tokens = before ++ b :: below → n.FirstOrphan before b below →
      n.apply tokens = .error (.orphanHeader b.stop) := by
    rintro before b below rfl hfirst
    exact apply_eq_error_of_firstOrphan hn (List.forall_mem_append.mp htokens).1 hfirst
  refine ⟨⟨?_, ?_⟩, ?_, walksLines hn htokens⟩
  · rintro ⟨r, hr⟩
    obtain ⟨before, b, below, heq, hfirst⟩ := exists_firstOrphan_of_apply hn htokens hr
    exact ⟨before, b, below, heq, hfirst.toOrphan⟩
  · rintro ⟨before, b, below, rfl, horphan⟩
    obtain ⟨above, c, after, heq, hfirst⟩ := exists_firstOrphan before b below horphan
    exact ⟨_, herror above c after heq hfirst⟩
  · intro r hr
    obtain ⟨before, b, below, heq, hfirst⟩ := exists_firstOrphan_of_apply hn htokens hr
    obtain rfl : .orphanHeader b.stop = r := by
      simpa [hr] using (herror before b below heq hfirst).symm
    exact ⟨rfl, before, b, below, heq, hfirst, rfl, stop_eq⟩

theorem second_header_orphan :
    ∃ tokens : List Token,
      tokens = [⟨"table", "|", 0⟩, ⟨"newline", "\n", 1⟩, ⟨"table_header_line", "|--", 2⟩,
        ⟨"paragraph", "\n\n", 5⟩, ⟨"normal", "é", 7⟩, ⟨"newline", "\n", 9⟩,
        ⟨"table_header_line", "|--", 10⟩] ∧
      (names {}).Nodup ∧ (∀ t ∈ tokens, t.category ∉ outputs {}) ∧
      apply {} tokens = .error (.orphanHeader 10) ∧
      (∃ before b below, tokens = before ++ b :: below ∧ FirstOrphan {} before b below ∧
        b.stop = 10) ∧ WalksLines {} tokens := by
  have hreport : ∀ tokens : List Token, (∀ t ∈ tokens, t.category ∉ outputs {}) →
      apply {} tokens = .error (.orphanHeader 10) →
      (∃ before b below, tokens = before ++ b :: below ∧ FirstOrphan {} before b below ∧
        b.stop = 10) ∧ WalksLines {} tokens := by
    intro tokens htokens herror
    obtain ⟨-, hfails, hwalks⟩ := apply_fails_iff_orphan {} tokens (by decide) htokens
    obtain ⟨-, before, b, below, heq, hfirst, hr, -⟩ := hfails _ herror
    exact ⟨⟨before, b, below, heq, hfirst, (Refusal.orphanHeader.inj hr).symm⟩, hwalks⟩
  exact ⟨_, rfl, by decide, by decide, by decide +kernel,
    hreport _ (by decide) (by decide +kernel)⟩

end Lexicon.Table
