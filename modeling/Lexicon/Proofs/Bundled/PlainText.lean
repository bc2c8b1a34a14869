import Lexicon.Proofs.Bundled.Markup
import Lexicon.Proofs.PlainText
import Lexicon.Proofs.Registry

namespace Lexicon.Bundled

theorem exists_tags : ∀ e ∈ declarations, ∃ l, Language.build e.1 e.2 = .ok l ∧
    l.tags ["blank", "newline", "paragraph"] := by
  have hall : declarations.all fun e => (Language.build e.1 e.2).toOption.any fun l =>
      decide (l.tags ["blank", "newline", "paragraph"]) := by decide +kernel
  exact fun e he => Language.exists_of_build (List.all_eq_true.mp hall e he)

theorem mem_markupPipeline {e : String × List Clause} (he : e ∈ declarations) {l : Language}
    (hl : Language.build e.1 e.2 = .ok l) {s : Stage} (hs : s ∈ l.pipeline.getD []) :
    s ∈ markupPipeline := by
  rw [(Language.built_of_build hl).pipeline_eq] at hs
  simp only [declarations, List.mem_cons, List.not_mem_nil, or_false] at he
  rcases he with rfl | rfl | rfl | rfl | rfl | rfl
  case inr.inr.inr.inr.inl => exact hs
  all_goals cases hs

theorem guards_of_mem_markupPipeline :
    ∀ s ∈ markupPipeline, s.Guards ["blank", "newline", "paragraph"] := by
  simp only [markupPipeline, List.forall_mem_cons]
  exact ⟨Stage.guards_splice (by decide), Stage.guards_merge _, Stage.guards_table (by decide),
    List.forall_mem_nil _⟩

theorem mem_of_writes {s : Stage} {category : String} (hs : s ∈ markupPipeline)
    (h : s.Writes category) : category ∈ "normal" :: Table.written {} := by
  simp only [markupPipeline, List.mem_cons, List.not_mem_nil, or_false] at hs
  rcases hs with rfl | rfl | rfl
  · rw [Stage.eq_literal_of_writes h]
    exact List.mem_cons_self
  · exact absurd h Stage.not_writes_merge
  · exact List.mem_cons_of_mem _ (Stage.mem_written_of_writes h)

theorem languages_registry :
    registry.languages = ["ash", "bnf", "json", "lua", "markup", "python"] := by
  have hsound : ∀ e ∈ declarations, ∃ l, Language.build e.1 e.2 = .ok l := fun e he =>
    (exists_tags e he).imp fun _ h => h.1
  have hnames : registry.languages =
      Dict.names (declarations.foldl (fun d e => Dict.insert e.1 () d) []) :=
    names_foldl_enter hsound rfl
  rw [hnames]
  decide +kernel

theorem exists_get?_of_mem {name : String} {clauses : List Clause}
    (hmem : (name, clauses) ∈ declarations) :
    ∃ l, registry.get? name = some l ∧ Language.build name clauses = .ok l := by
  have hnames : ∀ e ∈ declarations, e.1 ∈ ["ash", "bnf", "json", "lua", "markup", "python"] := by
    decide
  have hname : name ∈ registry.languages := languages_registry ▸ hnames _ hmem
  exact (Dict.exists_get?_of_mem_names hname).imp fun _ hl => ⟨hl, build_of_get? hmem hl⟩

theorem legible_of_get? {name : String} {l : Language} (h : registry.get? name = some l) :
    l.Legible ["blank", "newline", "paragraph"] ∧ ∀ s ∈ l.pipeline.getD [], s.Standard := by
  obtain ⟨clauses, hmem, hl⟩ := exists_declaration_of_get? h
  obtain ⟨l', hl', htags⟩ := exists_tags _ hmem
  obtain rfl : l = l' := by simpa [hl] using hl'
  have hmarkup : ∀ s ∈ l.pipeline.getD [], s ∈ markupPipeline := fun s hs =>
    mem_markupPipeline hmem hl hs
  refine ⟨⟨htags, ?_, fun s hs => guards_of_mem_markupPipeline s (hmarkup s hs)⟩,
    fun s hs => standard_of_mem_markupPipeline s (hmarkup s hs)⟩
  rintro category ⟨s, hs, hw⟩
  have hall : ∀ c ∈ "normal" :: Table.written {}, '>' ∉ c.toList := by decide
  exact hall _ (mem_of_writes (hmarkup s hs) hw)

/-- The HTML of a text in any of the six bundled languages gives the text back, if nothing is
discarded. -/
theorem plainText_render_of_registry :
    registry.languages = ["ash", "bnf", "json", "lua", "markup", "python"] ∧
    ∀ (name : String) (x : Lexer) (names : Option (List String)) (text : String)
      (tokens : List Token), registry.get? name = some x.language →
      names.getD x.discarded = [] → x.lexWith text names = .ok tokens →
      Html.plainText (Html.render ["blank", "newline"] false tokens) = text := by
  refine ⟨languages_registry, fun name x names text tokens hl hd h => ?_⟩
  obtain ⟨hlegible, hstandard⟩ := legible_of_get? hl
  exact Lexer.plainText_render hlegible hstandard (by simp) hd h

theorem markup_row_plainText :
    ∃ l tokens, registry.get? "markup" = some l ∧
      tokens = [⟨"normal", "&lt;", 0⟩, ⟨"newline", "\n\n", 4⟩, ⟨"table_line_start", "|", 6⟩,
        ⟨"normal", "<é>", 7⟩, ⟨"table_line_end", "|", 11⟩] ∧
      Lexer.lexWith ⟨l, []⟩ "&lt;\n\n|<é>|" none = .ok tokens ∧
      Html.plainText (Html.render ["blank", "newline"] false tokens) = "&lt;\n\n|<é>|" := by
  obtain ⟨l, hget, hl⟩ := exists_get?_of_mem
    (show ("markup", markup) ∈ declarations by simp [declarations])
  have hscan : ∃ l, Language.build "markup" markup = .ok l ∧ l.scan [] "&lt;\n\n|<é>|" =
      .ok [⟨"normal", "&lt;", 0⟩, ⟨"paragraph", "\n\n", 4⟩, ⟨"table", "|", 6⟩,
        ⟨"normal", "<é>", 7⟩, ⟨"table", "|", 11⟩] := Language.exists_of_build (by decide +kernel)
  obtain ⟨l', hl', hscan⟩ := hscan
  obtain rfl : l = l' := by simpa [hl] using hl'
  have hlex : Lexer.lexWith ⟨l, []⟩ "&lt;\n\n|<é>|" none =
      .ok [⟨"normal", "&lt;", 0⟩, ⟨"newline", "\n\n", 4⟩, ⟨"table_line_start", "|", 6⟩,
        ⟨"normal", "<é>", 7⟩, ⟨"table_line_end", "|", 11⟩] := by
    refine lexWith_eq_ok (isMarkup_of_build hl) (by simp) hscan (by cbv) ?_
    decide +kernel
  exact ⟨l, _, hget, rfl, hlex,
    plainText_render_of_registry.2 "markup" ⟨l, []⟩ none _ _ hget rfl hlex⟩

end Lexicon.Bundled
