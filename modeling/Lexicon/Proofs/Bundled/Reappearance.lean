import Lexicon.Proofs.Bundled.Markup

namespace Lexicon.Bundled

open Token

def Reappears (names : List String) : Prop :=
  ("normal" ∈ names ∧ ("escape" ∉ names ∨ "title" ∉ names)) ∨
    ("newline" ∈ names ∧ "paragraph" ∉ names ∧ "table" ∉ names)

section

variable {tokens result : List Token}

theorem forall_mem_merge_splice {P : String → Prop} (hnormal : P "normal")
    (h : ∀ t ∈ tokens, P t.category) :
    ∀ t ∈ Merge.apply "normal" (markupSplice.apply tokens), P t.category := by
  have hturns : markupSplice.Turns (fun t => P t.category) (fun t => P t.category) :=
    ⟨fun t ht _ => ht, fun p t hp _ _ _ => hp, fun t n _ _ hn _ => hn, fun _ _ _ => hnormal⟩
  exact Merge.forall_mem_apply (fun t u ht _ _ _ => ht) (Splice.forall_mem_apply hturns h)

theorem exists_alike_of_run (hr : Pipeline.run markupPipeline tokens = .ok result) :
    ∀ u ∈ result, ∃ t ∈ Merge.apply "normal" (markupSplice.apply tokens), Alike t u := by
  rw [run_markupPipeline] at hr
  intro u hu
  obtain ⟨t, ht, htu⟩ := Table.exists_retagged_of_mem (Table.forall₂_apply hr) hu
  exact ⟨t, ht, alike_of_retagged htu⟩

theorem normal_not_mem_of_run (hr : Pipeline.run markupPipeline tokens = .ok result)
    (h : ∀ t ∈ tokens, t.category ∉ ["normal", "escape", "title"]) :
    ∀ t ∈ result, t.category ≠ "normal" := by
  have hturns : markupSplice.Turns (·.category ∉ ["normal", "escape", "title"])
      (·.category ≠ "normal") := by
    have hfolds : ∀ c, markupSplice.Folds c → c ∈ ["normal", "escape", "title"] := by
      simp [Splice.Folds, markupSplice]
    refine ⟨?_, ?_, ?_, ?_⟩
    · intro t ht _ hc
      simp [hc] at ht
    · exact fun _ t _ _ ht hf => absurd (hfolds _ hf) ht
    · exact fun t _ ht hf _ _ => absurd (hfolds _ hf) ht
    · exact fun t ht hf => absurd (hfolds _ hf) ht
  have hmerged : ∀ t ∈ Merge.apply "normal" (markupSplice.apply tokens), t.category ≠ "normal" :=
    Merge.forall_mem_apply (fun t u ht _ _ _ => ht) (Splice.forall_mem_apply hturns h)
  intro u hu
  obtain ⟨t, ht, halike⟩ := exists_alike_of_run hr u hu
  exact mt halike.normal_iff.mp (hmerged t ht)

theorem break_not_mem_of_run (hr : Pipeline.run markupPipeline tokens = .ok result)
    (h : ∀ t ∈ tokens, t.category ∉ lineBreaks) : ∀ t ∈ result, t.category ∉ lineBreaks := by
  intro u hu
  obtain ⟨t, ht, halike⟩ := exists_alike_of_run hr u hu
  have hmerged := forall_mem_merge_splice (P := (· ∉ lineBreaks)) (by decide) h t ht
  exact mt halike.break_iff.mp hmerged

theorem newline_not_mem_of_run (hr : Pipeline.run markupPipeline tokens = .ok result)
    (h : ∀ t ∈ tokens, t.category ∉ ["newline", "table", "table_line_start", "table_line_end"]) :
    ∀ t ∈ result, t.category ≠ "newline" := by
  have hmerged := forall_mem_merge_splice
    (P := (· ∉ ["newline", "table", "table_line_start", "table_line_end"])) (by decide) h
  simp only [List.mem_cons, List.not_mem_nil, or_false, not_or] at hmerged
  rw [run_markupPipeline] at hr
  have heq := Table.eq_of_applyFrom_eq_ok (by simp) (fun t ht => ?_) hr
  · rw [heq]
    exact fun t ht => (hmerged t ht).1
  · obtain ⟨-, hdelimiter, hstart, hend⟩ := hmerged t ht
    exact ⟨hdelimiter, hstart, hend⟩

end

theorem category_of_mem_without {l : Language} {names : List String} {text : String}
    {scanned : List Token} (hscan : l.scan [] text = .ok scanned) :
    ∀ t ∈ without names scanned, l.hasCategory t.category ∧ t.category ∉ names := by
  intro t ht
  obtain ⟨hmem, hnot⟩ := List.mem_filter.mp ht
  have hclass := (Language.scan_eq_iff.mp hscan).classify_eq hmem
  obtain ⟨c, hc, hname, -⟩ := Language.exists_of_classify hclass
  refine ⟨?_, by simpa using hnot⟩
  rw [← hname, Language.hasCategory, decide_eq_true_eq]
  exact List.mem_map_of_mem hc

theorem mem_of_reappearing {l : Language} (hl : IsMarkup l) {c : String} (hw : l.Writes c)
    (hc : l.hasCategory c) : c = "normal" ∨ c = "newline" := by
  rw [Language.hasCategory, decide_eq_true_eq, hl.names] at hc
  obtain ⟨s, hs, hw⟩ := hw
  rw [hl.pipeline] at hs
  simp only [Option.getD_some, markupPipeline, List.mem_cons, List.not_mem_nil, or_false] at hs
  rcases hs with rfl | rfl | rfl
  · exact .inl (Stage.eq_literal_of_writes hw)
  · exact absurd hw Stage.not_writes_merge
  · have hwritten := Stage.mem_written_of_writes hw
    simp only [Table.written, List.mem_cons, List.not_mem_nil, or_false] at hwritten
    rcases hwritten with rfl | rfl | rfl | rfl <;> simp at hc ⊢

theorem not_mem_of_run {l : Language} (hl : IsMarkup l) {names : List String}
    {kept tokens : List Token} (hkept : ∀ t ∈ kept, l.hasCategory t.category ∧ t.category ∉ names)
    (hr : ¬ Reappears names) (hrun : Pipeline.run markupPipeline kept = .ok tokens) :
    ("normal" ∈ names → ∀ t ∈ tokens, t.category ≠ "normal") ∧
      ("newline" ∈ names → ∀ t ∈ tokens, t.category ≠ "newline") := by
  simp only [Reappears, not_or, not_and, Classical.not_not] at hr
  have hne : ∀ c ∈ names, ∀ t ∈ kept, t.category ≠ c := by
    rintro c hc t ht rfl
    exact (hkept t ht).2 hc
  constructor
  · intro hnormal
    obtain ⟨hescape, htitle⟩ := hr.1 hnormal
    apply normal_not_mem_of_run hrun
    intro t ht
    simp [hne _ hnormal t ht, hne _ hescape t ht, hne _ htitle t ht]
  · intro hnewline
    by_cases hparagraph : "paragraph" ∈ names
    · have hbreak : ∀ t ∈ kept, t.category ∉ lineBreaks := by
        intro t ht
        simp [lineBreaks, hne _ hnewline t ht, hne _ hparagraph t ht]
      intro t ht hc
      exact break_not_mem_of_run hrun hbreak t ht (by simp [hc, lineBreaks])
    · have htable := hr.2 hnewline hparagraph
      apply newline_not_mem_of_run hrun
      intro t ht
      -- Rows are marked by the last stage only, so that no scanned token is of these categories.
      have hdeclared := (hkept t ht).1
      rw [Language.hasCategory, decide_eq_true_eq, hl.names] at hdeclared
      have hstart : t.category ≠ "table_line_start" := by
        rintro hc
        simp [hc] at hdeclared
      have hend : t.category ≠ "table_line_end" := by
        rintro hc
        simp [hc] at hdeclared
      simp [hne _ hnewline t ht, hne _ htable t ht, hstart, hend]

theorem not_mem_of_not_reappears {x : Lexer} {names : Option (List String)} {text : String}
    {tokens : List Token} (hl : IsMarkup x.language)
    (hdeclared : ∀ n ∈ names.getD x.discarded, x.language.hasCategory n)
    (hr : ¬ Reappears (names.getD x.discarded)) (h : x.lexWith text names = .ok tokens) :
    ∀ t ∈ tokens, t.category ∉ names.getD x.discarded := by
  intro t ht hd
  obtain ⟨scanned, hscan, hreshape⟩ := Lexer.exists_scan_of_lexWith h
  have hrun := Language.run_of_reshape hreshape
  rw [hl.pipeline, Option.getD_some] at hrun
  obtain ⟨hnormal, hnewline⟩ := not_mem_of_run hl (category_of_mem_without hscan) hr hrun
  rcases mem_of_reappearing hl (Lexer.writes_of_mem_discarded h ht hd) (hdeclared _ hd)
    with hc | hc
  · exact hnormal (hc ▸ hd) t ht hc
  · exact hnewline (hc ▸ hd) t ht hc

theorem scan_markup {l : Language} (h : Language.build "markup" markup = .ok l) :
    l.scan [] "\\|" = .ok [⟨"escape", "\\|", 0⟩] ∧
    l.scan [] "#######" = .ok [⟨"title", "######", 0⟩, ⟨"title", "#", 6⟩] ∧
    l.scan [] "\n\n|" = .ok [⟨"paragraph", "\n\n", 0⟩, ⟨"table", "|", 2⟩] := by
  have hbuild : ∃ l, Language.build "markup" markup = .ok l ∧
      l.scan [] "\\|" = .ok [⟨"escape", "\\|", 0⟩] ∧
      l.scan [] "#######" = .ok [⟨"title", "######", 0⟩, ⟨"title", "#", 6⟩] ∧
      l.scan [] "\n\n|" = .ok [⟨"paragraph", "\n\n", 0⟩, ⟨"table", "|", 2⟩] :=
    Language.exists_of_build (by decide +kernel)
  obtain ⟨l', hl', hscan⟩ := hbuild
  obtain rfl : l = l' := by simpa [h] using hl'
  exact hscan

section

variable {x : Lexer} {names : Option (List String)}

theorem lexWith_escape (hbuild : Language.build "markup" markup = .ok x.language)
    (hdeclared : ∀ n ∈ names.getD x.discarded, x.language.hasCategory n)
    (h : "escape" ∉ names.getD x.discarded) :
    x.lexWith "\\|" names = .ok [⟨"normal", "\\|", 0⟩] := by
  have hsplice : markupSplice.apply [⟨"escape", "\\|", 0⟩] = [⟨"normal", "\\|", 0⟩] := by cbv
  apply lexWith_eq_ok (isMarkup_of_build hbuild) hdeclared (scan_markup hbuild).1
  · simpa [without, h] using hsplice
  · decide +kernel

theorem lexWith_titles (hbuild : Language.build "markup" markup = .ok x.language)
    (hdeclared : ∀ n ∈ names.getD x.discarded, x.language.hasCategory n)
    (h : "title" ∉ names.getD x.discarded) :
    x.lexWith "#######" names = .ok [⟨"title", "######", 0⟩, ⟨"normal", "#", 6⟩] := by
  have hsplice : markupSplice.apply [⟨"title", "######", 0⟩, ⟨"title", "#", 6⟩] =
      [⟨"title", "######", 0⟩, ⟨"normal", "#", 6⟩] := by cbv
  apply lexWith_eq_ok (isMarkup_of_build hbuild) hdeclared (scan_markup hbuild).2.1
  · simpa [without, h] using hsplice
  · decide +kernel

theorem lexWith_row (hbuild : Language.build "markup" markup = .ok x.language)
    (hdeclared : ∀ n ∈ names.getD x.discarded, x.language.hasCategory n)
    (hp : "paragraph" ∉ names.getD x.discarded) (ht : "table" ∉ names.getD x.discarded) :
    x.lexWith "\n\n|" names =
      .ok [⟨"newline", "\n\n", 0⟩, ⟨"table_line_start", "|", 2⟩] := by
  have hsplice : markupSplice.apply [⟨"paragraph", "\n\n", 0⟩, ⟨"table", "|", 2⟩] =
      [⟨"paragraph", "\n\n", 0⟩, ⟨"table", "|", 2⟩] := by cbv
  apply lexWith_eq_ok (isMarkup_of_build hbuild) hdeclared (scan_markup hbuild).2.2
  · simpa [without, hp, ht] using hsplice
  · decide +kernel

theorem exists_mem_of_reappears (hbuild : Language.build "markup" markup = .ok x.language)
    (hdeclared : ∀ n ∈ names.getD x.discarded, x.language.hasCategory n)
    (hr : Reappears (names.getD x.discarded)) :
    ∃ text tokens, x.lexWith text names = .ok tokens ∧
      ∃ t ∈ tokens, t.category ∈ names.getD x.discarded := by
  rcases hr with ⟨hnormal, hnot | hnot⟩ | ⟨hnewline, hparagraph, htable⟩
  · exact ⟨_, _, lexWith_escape hbuild hdeclared hnot, ⟨"normal", "\\|", 0⟩, by simp, hnormal⟩
  · exact ⟨_, _, lexWith_titles hbuild hdeclared hnot, ⟨"normal", "#", 6⟩, by simp, hnormal⟩
  · exact ⟨_, _, lexWith_row hbuild hdeclared hparagraph htable, ⟨"newline", "\n\n", 0⟩, by simp,
      hnewline⟩

end

/-- A discarded category comes back only if a stage of the language writes it, as splicing does with
its literal category and a table with the roles of its delimiters and breaks. In markup, no text
brings one back if and only if none is discarded apart from what may turn into it. -/
theorem discarded_absent_unless_written (x : Lexer) (names : Option (List String)) :
    (∀ text tokens, x.lexWith text names = .ok tokens →
      ∀ t ∈ tokens, t.category ∈ names.getD x.discarded → x.language.Writes t.category) ∧
    (∀ s ∈ x.language.pipeline.getD [], s.Standard → ∀ c, s.Writes c →
      (∃ p, s = .splice p ∧ c = p.literal) ∨ ∃ n, s = .table n ∧ c ∈ n.written) ∧
    (Language.build "markup" markup = .ok x.language →
      (∀ n ∈ names.getD x.discarded, x.language.hasCategory n) →
      ((∀ text tokens, x.lexWith text names = .ok tokens →
        ∀ t ∈ tokens, t.category ∉ names.getD x.discarded) ↔
        ¬ Reappears (names.getD x.discarded))) := by
  refine ⟨?_, fun s _ hs c hc => hs.writes hc, ?_⟩
  · intro text tokens h t ht hd
    exact Lexer.writes_of_mem_discarded h ht hd
  · intro hbuild hdeclared
    constructor
    · intro habsent hr
      obtain ⟨text, tokens, h, t, ht, hd⟩ := exists_mem_of_reappears hbuild hdeclared hr
      exact habsent text tokens h t ht hd
    · intro hr text tokens h
      exact not_mem_of_not_reappears (isMarkup_of_build hbuild) hdeclared hr h

theorem markup_text_discarded :
    ∃ l, Language.build "markup" markup = .ok l ∧
      Lexer.lexWith ⟨l, ["normal"]⟩ "\\|" none = .ok [⟨"normal", "\\|", 0⟩] ∧
      l.Writes "normal" ∧ (∀ n ∈ ["normal", "escape", "title"], l.hasCategory n) ∧
      ∀ text tokens, Lexer.lexWith ⟨l, ["normal", "escape", "title"]⟩ text none = .ok tokens →
        ∀ t ∈ tokens, t.category ∉ ["normal", "escape", "title"] := by
  obtain ⟨l, hbuild, hl⟩ := exists_markup
  have hdeclared : ∀ n ∈ ["normal", "escape", "title"], l.hasCategory n := by
    simp [Language.hasCategory, hl.names]
  have hnormal : Lexer.lexWith ⟨l, ["normal"]⟩ "\\|" none = .ok [⟨"normal", "\\|", 0⟩] :=
    lexWith_escape hbuild (by simp [Language.hasCategory, hl.names]) (by simp)
  have hwritten := (discarded_absent_unless_written ⟨l, ["normal"]⟩ none).1 _ _ hnormal
  have habsent := discarded_absent_unless_written ⟨l, ["normal", "escape", "title"]⟩ none
  refine ⟨l, hbuild, hnormal, ?_, hdeclared, ?_⟩
  · exact hwritten ⟨"normal", "\\|", 0⟩ (by simp) (by simp)
  · exact (habsent.2.2 hbuild hdeclared).mpr (by simp [Reappears])

theorem markup_discarded_reappears :
    ∃ l x y, Language.build "markup" markup = .ok l ∧
      Lexer.withDiscard l ["normal"] = .ok x ∧ x.lex "\\|" = .ok [⟨"normal", "\\|", 0⟩] ∧
      Lexer.withDiscard l ["newline"] = .ok y ∧
      y.lex "\n\n|" = .ok [⟨"newline", "\n\n", 0⟩, ⟨"table_line_start", "|", 2⟩] := by
  obtain ⟨l, hbuild, hl⟩ := exists_markup
  have hnormal : l.hasCategory "normal" := by simp [Language.hasCategory, hl.names]
  have hnewline : l.hasCategory "newline" := by simp [Language.hasCategory, hl.names]
  refine ⟨l, ⟨l, ["normal"]⟩, ⟨l, ["newline"]⟩, hbuild, ?_, ?_, ?_, ?_⟩
  · simp [Lexer.withDiscard, Language.checkCategories, hnormal]
  · exact lexWith_escape hbuild (by simpa using hnormal) (by simp)
  · simp [Lexer.withDiscard, Language.checkCategories, hnewline]
  · exact lexWith_row hbuild (by simpa using hnewline) (by simp) (by simp)

end Lexicon.Bundled
