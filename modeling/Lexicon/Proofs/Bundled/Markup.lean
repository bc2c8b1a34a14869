import Lexicon.Bundled
import Lexicon.Proofs.Characters
import Lexicon.Proofs.Discard

namespace Lexicon.Bundled

open Token

def lineBreaks : List String := ["newline", "paragraph"]

structure Normalised (tokens : List Token) : Prop where
  no_escape : ∀ t ∈ tokens, t.category ≠ "escape"
  normal_apart : tokens.IsChain fun t u => ¬ (t.category = "normal" ∧ u.category = "normal")
  title_opens : tokens.IsChain fun t u => u.category = "title" → t.category ∈ lineBreaks
  breaks : ∀ t ∈ tokens, '\n' ∈ t.text.toList → t.category ∈ lineBreaks

def markupSplice : Splice where
  literal := "normal"
  always := ["escape"]
  unlessLineStart := ["title"]
  lineBreaks := lineBreaks

theorem run_markupPipeline (tokens : List Token) :
    Pipeline.run markupPipeline tokens =
      Table.apply {} (Merge.apply "normal" (markupSplice.apply tokens)) := by
  change Except.bind (Table.apply {} (Merge.apply "normal" (markupSplice.apply tokens))) .ok = _
  cases Table.apply {} (Merge.apply "normal" (markupSplice.apply tokens)) <;> rfl

structure IsMarkup (l : Language) : Prop where
  reads : l.readsAll
  breaks : l.confines '\n' lineBreaks
  names : l.categoryNames = ["table_header_line", "table", "paragraph", "newline", "escape", "bold",
    "italic", "code", "title", "normal"]
  wrong : l.wrong = []
  pipeline : l.pipeline = some markupPipeline

theorem exists_markup : ∃ l, Language.build "markup" markup = .ok l ∧ IsMarkup l := by
  have hbuild : ∃ l, Language.build "markup" markup = .ok l ∧ l.readsAll ∧
      l.confines '\n' lineBreaks ∧ l.categoryNames = ["table_header_line", "table", "paragraph",
        "newline", "escape", "bold", "italic", "code", "title", "normal"] :=
    Language.exists_of_build (by decide +kernel)
  obtain ⟨l, hl, hreads, hbreaks, hnames⟩ := hbuild
  have hbuilt := Language.built_of_build hl
  exact ⟨l, hl, hreads, hbreaks, hnames, hbuilt.wrong_eq, hbuilt.pipeline_eq⟩

theorem isMarkup_of_build {l : Language} (h : Language.build "markup" markup = .ok l) :
    IsMarkup l := by
  obtain ⟨l', hl', hmarkup⟩ := exists_markup
  obtain rfl : l = l' := by simpa [h] using hl'
  exact hmarkup

section

variable {t u : Token} {tokens result : List Token}

def BreaksLine (t : Token) : Prop := '\n' ∈ t.text.toList → t.category ∈ lineBreaks

theorem breaksLine_splice (h : ∀ t ∈ tokens, BreaksLine t) :
    ∀ t ∈ markupSplice.apply tokens, BreaksLine t := by
  have hliteral : ∀ t : Token, t.category = "normal" → BreaksLine t → '\n' ∉ t.text.toList := by
    intro t ht hb
    exact mt hb (by simp [ht, lineBreaks])
  have hfolds : ∀ t : Token, markupSplice.Folds t.category → BreaksLine t →
      '\n' ∉ t.text.toList := by
    intro t ht hb
    apply mt hb
    rcases ht with ht | ht <;> simp_all [markupSplice, lineBreaks]
  have hturns : markupSplice.Turns BreaksLine BreaksLine := by
    refine ⟨fun t ht _ => ht, ?_, ?_, ?_⟩
    · intro p t hp hlit ht hf hmem
      simp [hliteral p hlit hp, hfolds t hf ht] at hmem
    · intro t n ht hf hn hlit hmem
      simp [hliteral n hlit hn, hfolds t hf ht] at hmem
    · intro t ht hf hmem
      exact absurd hmem (hfolds t hf ht)
  exact Splice.forall_mem_apply hturns h

theorem breaksLine_merge (h : ∀ t ∈ tokens, BreaksLine t) :
    ∀ t ∈ Merge.apply "normal" tokens, BreaksLine t := by
  apply Merge.forall_mem_apply ?_ h
  intro t u ht hu htc huc hmem
  simp only [String.toList_append, List.mem_append] at hmem
  rcases hmem with hmem | hmem
  · exact ht hmem
  · exact htc ▸ huc ▸ hu hmem

structure Alike (t u : Token) : Prop where
  text_eq : u.text = t.text
  break_iff : u.category ∈ lineBreaks ↔ t.category ∈ lineBreaks
  escape_iff : u.category = "escape" ↔ t.category = "escape"
  normal_iff : u.category = "normal" ↔ t.category = "normal"
  title_iff : u.category = "title" ↔ t.category = "title"

theorem alike_of_retags (h : Table.Retags {} t u) : Alike t u := by
  cases h with
  | rowStart ht => constructor <;> simp [ht, lineBreaks]
  | rowEnd ht => constructor <;> simp [ht, lineBreaks]
  | newline ht => constructor <;> simp [ht, lineBreaks]
  | header ht => constructor <;> simp [ht, lineBreaks]

theorem alike_of_retagged (h : Table.Retagged {} t u) : Alike t u := by
  induction h with
  | refl => constructor <;> rfl
  | tail _ hstep ih =>
    have hlast := alike_of_retags hstep
    exact ⟨hlast.text_eq.trans ih.text_eq, hlast.break_iff.trans ih.break_iff,
      hlast.escape_iff.trans ih.escape_iff, hlast.normal_iff.trans ih.normal_iff,
      hlast.title_iff.trans ih.title_iff⟩

theorem Normalised.of_retagged (h : Normalised tokens)
    (hr : List.Forall₂ (Table.Retagged {}) tokens result) : Normalised result := by
  refine ⟨?_, ?_, ?_, ?_⟩
  · intro u hu
    obtain ⟨t, ht, htu⟩ := Table.exists_retagged_of_mem hr hu
    exact mt (alike_of_retagged htu).escape_iff.mp (h.no_escape t ht)
  · apply Table.isChain_of_forall₂ ?_ hr h.normal_apart
    intro t t' u u' ht hu
    rw [(alike_of_retagged ht).normal_iff, (alike_of_retagged hu).normal_iff]
    exact id
  · apply Table.isChain_of_forall₂ ?_ hr h.title_opens
    intro t t' u u' ht hu
    rw [(alike_of_retagged ht).break_iff, (alike_of_retagged hu).title_iff]
    exact id
  · intro u hu hmem
    obtain ⟨t, ht, htu⟩ := Table.exists_retagged_of_mem hr hu
    have halike := alike_of_retagged htu
    rw [halike.text_eq] at hmem
    exact halike.break_iff.mpr (h.breaks t ht hmem)

theorem normalised_merge_splice (h : ∀ t ∈ tokens, BreaksLine t) :
    Normalised (Merge.apply "normal" (markupSplice.apply tokens)) := by
  have hescape : ∀ t ∈ markupSplice.apply tokens, t.category ≠ "escape" := by
    intro t ht
    have hnot := Splice.not_mem_always_of_mem_apply (by decide) t ht
    simpa [markupSplice] using hnot
  have htitle := markupSplice.isChain_apply (by decide) tokens
  refine ⟨Merge.forall_mem_apply (fun t u ht _ _ _ => ht) hescape, Merge.isChain_apply_ne _ _, ?_,
    breaksLine_merge (breaksLine_splice h)⟩
  apply Merge.isChain_apply (R := fun p t => t = "title" → p ∈ lineBreaks)
  refine htitle.imp fun p t hstands _ => ?_
  simpa [Splice.Stands, markupSplice] using hstands

theorem normalised_of_run (h : ∀ t ∈ tokens, BreaksLine t)
    (hr : Pipeline.run markupPipeline tokens = .ok result) : Normalised result := by
  rw [run_markupPipeline] at hr
  exact (normalised_merge_splice h).of_retagged (Table.forall₂_apply hr)

end

theorem lexWith_eq_run {x : Lexer} {names : Option (List String)} {text : String}
    {scanned : List Token} (hl : IsMarkup x.language)
    (hdeclared : ∀ n ∈ names.getD x.discarded, x.language.hasCategory n)
    (hscan : x.language.scan [] text = .ok scanned) :
    x.lexWith text names =
      (Pipeline.run markupPipeline (without (names.getD x.discarded) scanned)).mapError
        .refused := by
  rw [Lexer.lexWith_eq_of_declared x names hdeclared, hscan]
  simp only [Except.map, Except.bind, Language.reshape_eq_run, hl.pipeline, Option.getD_some]

theorem lexWith_eq_ok {x : Lexer} {names : Option (List String)} {text : String}
    {scanned spliced tokens : List Token} (hl : IsMarkup x.language)
    (hdeclared : ∀ n ∈ names.getD x.discarded, x.language.hasCategory n)
    (hscan : x.language.scan [] text = .ok scanned)
    (hsplice : markupSplice.apply (without (names.getD x.discarded) scanned) = spliced)
    (htable : Table.apply {} (Merge.apply "normal" spliced) = .ok tokens) :
    x.lexWith text names = .ok tokens := by
  rw [lexWith_eq_run hl hdeclared hscan, run_markupPipeline, hsplice, htable]
  rfl

/-- Every text is lexed to tokens in normal form, or refused for a header separator that has no row
above it. -/
theorem markup_refused_or_normalised :
    ∃ l, Language.build "markup" markup = .ok l ∧
      ∀ (x : Lexer) (names : Option (List String)) (text : String), x.language = l →
        (∀ n ∈ names.getD x.discarded, l.hasCategory n) →
        (∃ r, r.stage = "table-retag" ∧ x.lexWith text names = .error (.refused r)) ∨
        ∃ tokens, x.lexWith text names = .ok tokens ∧ Normalised tokens := by
  obtain ⟨l, hbuild, hl⟩ := exists_markup
  refine ⟨l, hbuild, ?_⟩
  rintro x names text rfl hdeclared
  obtain ⟨scanned, hscan⟩ := Language.exists_scan_eq_ok hl.reads hl.wrong [] text
  have hkept : ∀ t ∈ without (names.getD x.discarded) scanned, BreaksLine t := by
    intro t ht hmem
    have hclass := (Language.scan_eq_iff.mp hscan).classify_eq (List.mem_filter.mp ht).1
    exact Language.mem_of_confines hl.breaks hclass hmem
  rw [lexWith_eq_run hl hdeclared hscan]
  cases hrun : Pipeline.run markupPipeline (without (names.getD x.discarded) scanned) with
  | error r =>
    rw [run_markupPipeline] at hrun
    obtain ⟨offset, rfl⟩ := Table.exists_orphanHeader_of_applyFrom hrun
    exact .inl ⟨_, rfl, rfl⟩
  | ok tokens => exact .inr ⟨tokens, rfl, normalised_of_run hkept hrun⟩

theorem markup_title_normalised :
    ∃ l tokens, Language.build "markup" markup = .ok l ∧ l.hasCategory "bold" ∧
      tokens = [⟨"title", "#", 0⟩, ⟨"normal", " \\|", 1⟩, ⟨"newline", "\n", 6⟩,
        ⟨"title", "#", 7⟩] ∧
      Lexer.lexWith ⟨l, ["bold"]⟩ "# **\\|\n#" none = .ok tokens ∧ Normalised tokens := by
  have hscan : ∃ l, Language.build "markup" markup = .ok l ∧ l.scan [] "# **\\|\n#" =
      .ok [⟨"title", "#", 0⟩, ⟨"normal", " ", 1⟩, ⟨"bold", "**", 2⟩, ⟨"escape", "\\|", 4⟩,
        ⟨"newline", "\n", 6⟩, ⟨"title", "#", 7⟩] := Language.exists_of_build (by decide +kernel)
  obtain ⟨l, hbuild, hscan⟩ := hscan
  have hl := isMarkup_of_build hbuild
  have hbold : l.hasCategory "bold" := by simp [Language.hasCategory, hl.names]
  have hlex : Lexer.lexWith ⟨l, ["bold"]⟩ "# **\\|\n#" none =
      .ok [⟨"title", "#", 0⟩, ⟨"normal", " \\|", 1⟩, ⟨"newline", "\n", 6⟩, ⟨"title", "#", 7⟩] := by
    refine lexWith_eq_ok hl (by simpa using hbold) hscan (by cbv) ?_
    decide +kernel
  obtain ⟨l', hbuild', hmarkup⟩ := markup_refused_or_normalised
  obtain rfl : l = l' := by simpa [hbuild] using hbuild'
  refine ⟨l, _, hbuild, hbold, rfl, hlex, ?_⟩
  rcases hmarkup ⟨l, ["bold"]⟩ none "# **\\|\n#" rfl (by simpa using hbold) with
    ⟨r, -, hr⟩ | ⟨tokens, hok, hnormal⟩
  · simp [hlex] at hr
  · obtain rfl : _ = tokens := by simpa [hlex] using hok
    exact hnormal

end Lexicon.Bundled
