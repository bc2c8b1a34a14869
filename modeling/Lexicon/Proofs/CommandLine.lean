import Lexicon.CommandLine
import Lexicon.Proofs.Bundled.PlainText
import Lexicon.Proofs.Declaration
import Lexicon.Proofs.Json
import Lexicon.Proofs.Listing
import Lexicon.Proofs.Service
import Lexicon.Proofs.Yaml

namespace Lexicon

/-! What the tokens of bundled languages look like -/

theorem Lexer.start_le_of_lexWith {x : Lexer} {text : String} {names : Option (List String)}
    {tokens : List Token} (hs : ∀ s ∈ x.language.pipeline.getD [], s.Standard)
    (h : x.lexWith text names = .ok tokens) : ∀ t ∈ tokens, t.start ≤ text.utf8ByteSize := by
  obtain ⟨scanned, hscan, hreshape⟩ := exists_scan_of_lexWith h
  have hkeeps := fun s hmem => (hs s hmem).keeps_start_le text.utf8ByteSize
  refine Language.of_reshape hkeeps (fun t ht => ?_) hreshape
  have hmem : t ∈ scanned := List.mem_of_mem_filter ht
  obtain ⟨before, after, htext, hstart⟩ := (Language.scan_eq_iff.mp hscan).tiles.split hmem
  rw [String.ofList_toList] at htext
  rw [hstart, htext, String.utf8ByteSize_append, String.utf8ByteSize_append]
  omega

theorem Lexer.category_of_lexWith {x : Lexer} {text : String} {names : Option (List String)}
    {tokens : List Token} (h : x.lexWith text names = .ok tokens) :
    ∀ t ∈ tokens, t.category ∈ x.language.categoryNames ∨ x.language.Writes t.category := by
  obtain ⟨scanned, hscan, hreshape⟩ := exists_scan_of_lexWith h
  intro t ht
  by_contra hnot
  rw [not_or] at hnot
  refine Language.not_mem_of_not_writes hnot.2 (fun u hu heq => hnot.1 ?_) hreshape t ht rfl
  rw [← heq]
  exact Language.category_of_scan hscan u (List.mem_of_mem_filter hu)

namespace Bundled

theorem listable_of_lexWith {name text : String} {x : Lexer} {names : Option (List String)}
    {tokens : List Token} (hl : registry.get? name = some x.language)
    (h : x.lexWith text names = .ok tokens) : ∀ t ∈ tokens, Listing.Listable t := by
  obtain ⟨clauses, hmem, hbuild⟩ := exists_declaration_of_get? hl
  have hbuilt := Language.built_of_build hbuild
  have hnames : x.language.categoryNames = Language.declaredNames clauses :=
    Language.names_of_categories (Language.built_categories hbuilt.categories_eq).2.1
  have hdeclared : ∀ e ∈ declarations, ∀ c ∈ Language.declaredNames e.2,
      '\t' ∉ c.toList ∧ '\n' ∉ c.toList := by decide
  have hwritten : ∀ c ∈ "normal" :: Table.written {}, '\t' ∉ c.toList ∧ '\n' ∉ c.toList := by decide
  intro t ht
  rcases Lexer.category_of_lexWith h t ht with hc | ⟨s, hs, hw⟩
  · exact hdeclared _ hmem _ (hnames ▸ hc)
  · exact hwritten _ (mem_of_writes (mem_markupPipeline hmem hbuild hs) hw)

end Bundled

namespace CommandLine

def LexArguments.inquiry (a : LexArguments) (text : String) : Inquiry :=
  ⟨some a.language, some text, a.discard.map .joined, if a.annotate then some true else none⟩

/-- The printed text is the HTML of a reply, or a text that only its tokens have. -/
def Format.Shows (f : Format) (reply : Reply) (out : String) : Prop :=
  match f with
  | tokens => Listing.read out = some reply.tokens
  | json => Json.readTokens out = some reply.tokens
  | yaml => Yaml.read out = some reply.tokens
  | html => out = reply.rendered

variable {r : Registry} {c : Settings} {s : Service} {files : Files} {stdin : ByteArray}
  {a : LexArguments} {w : Walk} {text out : String} {reply : Reply}

theorem source_toUTF8 (text : String) : source files text.toUTF8 none = .ok text := by
  have hvalid : String.fromUTF8? text.toUTF8 = some text := dif_pos text.isValidUTF8
  simp only [source, Files.decode, hvalid]
  rfl

theorem lex_eq_bind (htext : source files stdin a.path = .ok text) :
    lex r c files stdin a =
      ((r.lexer a.language ((a.inquiry text).discarded c a.language .given)).mapError .lexing).bind
        fun x => ((x.lex text).mapError .lexing).map (a.format.render c a.annotate) := by
  simp only [lex, htext, LexArguments.inquiry, Inquiry.discarded]
  cases a.discard <;> rfl

theorem lex_eq_ok_iff (htext : source files stdin a.path = .ok text) (w : Walk) :
    lex r c files stdin a = .ok out ↔
      ∃ tokens, r.Lexes a.language ((a.inquiry text).discarded c a.language w) text tokens ∧
        out = a.format.render c a.annotate tokens := by
  have hlexes : ∀ tokens,
      r.Lexes a.language ((a.inquiry text).discarded c a.language w) text tokens ↔
        r.Lexes a.language ((a.inquiry text).discarded c a.language .given) text tokens :=
    fun _ => Registry.lexes_congr fun n =>
      (Inquiry.mem_discarded_iff n).trans (Inquiry.mem_discarded_iff n).symm
  rw [lex_eq_bind htext]
  simp only [hlexes]
  simp only [Registry.Lexes]
  cases r.lexer a.language ((a.inquiry text).discarded c a.language .given) with
  | error e => simp [Except.mapError, Except.bind]
  | ok x =>
    cases hlex : x.lex text with
    | error e => simp [Except.mapError, Except.bind, Except.map, hlex]
    | ok tokens => simp [Except.mapError, Except.bind, Except.map, hlex, eq_comm]

theorem shows_render {tokens : List Token} (htext : text.utf8ByteSize < Token.offsets)
    {names : List String} (h : Bundled.registry.Lexes a.language names text tokens) :
    a.format.Shows ⟨text, a.language, tokens, Html.render c.render.rawCategories
      ((a.inquiry text).annotate.getD c.render.annotate) tokens⟩
      (a.format.render c a.annotate tokens) := by
  obtain ⟨l, hget, -, hlex⟩ := Registry.lexes_iff.mp h
  have hstart : ∀ t ∈ tokens, t.start < Text.span 64 := fun t ht =>
    Nat.lt_of_le_of_lt
      (Lexer.start_le_of_lexWith (Bundled.legible_of_get? hget).2 hlex t ht) htext
  cases hf : a.format with
  | tokens => exact Listing.read_render (Bundled.listable_of_lexWith hget hlex)
  | json => exact Json.readTokens_pretty tokens hstart
  | yaml => exact Yaml.read_render tokens
  | html =>
    cases ha : a.annotate <;> simp [Format.Shows, Format.render, LexArguments.inquiry, ha]

theorem lex_of_answer (hs : Service.start Bundled.registry c = .ok s)
    (htext : source files stdin a.path = .ok text)
    (hsize : text.utf8ByteSize ≤ c.server.maxInputBytes)
    (hoffsets : text.utf8ByteSize < Token.offsets)
    (h : s.answer (a.inquiry text) w = .ok reply) :
    ∃ out, lex Bundled.registry c files stdin a = .ok out ∧ a.format.Shows reply out := by
  obtain ⟨tokens, hlexes, rfl⟩ := (Service.answer_eq_ok_iff hs ⟨rfl, rfl, hsize⟩).mp h
  exact ⟨_, (lex_eq_ok_iff htext w).mpr ⟨tokens, hlexes, rfl⟩, shows_render hoffsets hlexes⟩

theorem answer_of_lex (hs : Service.start r c = .ok s)
    (htext : source files stdin a.path = .ok text)
    (hsize : text.utf8ByteSize ≤ c.server.maxInputBytes)
    (h : lex r c files stdin a = .ok out) : ∃ reply, s.answer (a.inquiry text) w = .ok reply := by
  obtain ⟨tokens, hlexes, -⟩ := (lex_eq_ok_iff htext w).mp h
  exact ⟨_, (Service.answer_eq_ok_iff hs ⟨rfl, rfl, hsize⟩).mpr ⟨tokens, hlexes, rfl⟩⟩

theorem run_eq_ofResult {args : List String} {config : Option String}
    (hargs : parse args = .ok ⟨config, .lex a⟩) (hc : settings files config = .ok c) :
    run r files stdin args = .ofResult (lex r c files stdin a) := by
  simp only [run, hargs, execute, hc, bind, Except.bind]

theorem code_ofResult_eq_zero_iff (result : Except Failure String) :
    (Outcome.ofResult result).code = 0 ↔ ∃ stdout, result = .ok stdout := by
  unfold Outcome.ofResult
  split <;> simp

/-- Lexing from the command line succeeds exactly if the service answers the same inquiry with a
reply, and then what is printed shows this reply in the format that is asked for. -/
theorem lex_agrees_with_answer (c : Settings) (s : Service) (files : Files) (stdin : ByteArray)
    (a : LexArguments) (text : String) (w : Walk)
    (hs : Service.start Bundled.registry c = .ok s)
    (htext : source files stdin a.path = .ok text)
    (hsize : text.utf8ByteSize ≤ c.server.maxInputBytes)
    (hoffsets : text.utf8ByteSize < Token.offsets) :
    ((∃ out, lex Bundled.registry c files stdin a = .ok out) ↔
      ∃ reply, s.answer (a.inquiry text) w = .ok reply) ∧
    (∀ reply, s.answer (a.inquiry text) w = .ok reply →
      ∃ out, lex Bundled.registry c files stdin a = .ok out ∧ a.format.Shows reply out) ∧
    ∀ args config, parse args = .ok ⟨config, .lex a⟩ → settings files config = .ok c →
      ((run Bundled.registry files stdin args).code = 0 ↔
        ∃ reply, s.answer (a.inquiry text) w = .ok reply) ∧
      ∀ reply, s.answer (a.inquiry text) w = .ok reply →
        ∃ out, run Bundled.registry files stdin args = { code := 0, stdout := out } ∧
          a.format.Shows reply out := by
  have hreply : ∀ reply, s.answer (a.inquiry text) w = .ok reply →
      ∃ out, lex Bundled.registry c files stdin a = .ok out ∧ a.format.Shows reply out :=
    fun _ h => lex_of_answer hs htext hsize hoffsets h
  have hiff : (∃ out, lex Bundled.registry c files stdin a = .ok out) ↔
      ∃ reply, s.answer (a.inquiry text) w = .ok reply := by
    constructor
    · rintro ⟨out, h⟩
      exact answer_of_lex hs htext hsize h
    · rintro ⟨reply, h⟩
      exact (hreply reply h).imp fun _ hout => hout.1
  refine ⟨hiff, hreply, fun args config hargs hc => ?_⟩
  rw [run_eq_ofResult hargs hc, code_ofResult_eq_zero_iff]
  refine ⟨hiff, fun reply h => ?_⟩
  obtain ⟨out, hout, hshows⟩ := hreply reply h
  exact ⟨out, by rw [hout]; rfl, hshows⟩

theorem json_agrees_with_answer :
    ∃ s reply, Service.start Bundled.registry ⟨⟨"", 4⟩, ⟨["number"], false⟩, []⟩ = .ok s ∧
      s.answer ⟨some "json", some "[1 ]", some (.joined " blank,,"), some true⟩ = .ok reply ∧
      reply.tokens = [⟨"punctuation", "[", 0⟩, ⟨"number", "1", 1⟩, ⟨"punctuation", "]", 3⟩] ∧
      (∃ out, lex Bundled.registry ⟨⟨"", 4⟩, ⟨["number"], false⟩, []⟩ [] "[1 ]".toUTF8
        ⟨"json", none, .html, some " blank,,", true⟩ = .ok out ∧ out = reply.rendered) ∧
      (∃ out, lex Bundled.registry ⟨⟨"", 4⟩, ⟨["number"], false⟩, []⟩ [] "[1 ]".toUTF8
        ⟨"json", none, .json, some " blank,,", true⟩ = .ok out ∧
          Json.readTokens out = some reply.tokens) := by
  obtain ⟨l, hget, hl⟩ := Bundled.exists_get?_of_mem
    (show ("json", Bundled.json) ∈ Bundled.declarations by simp [Bundled.declarations])
  have hbuild : ∃ l, Language.build "json" Bundled.json = .ok l ∧ l.hasCategory "blank" ∧
      Lexer.lex ⟨l, ["blank"]⟩ "[1 ]" = .ok [⟨"punctuation", "[", 0⟩, ⟨"number", "1", 1⟩,
        ⟨"punctuation", "]", 3⟩] := Language.exists_of_build (by decide +kernel)
  obtain ⟨l', hl', hblank, hlex⟩ := hbuild
  obtain rfl : l = l' := by simpa [hl] using hl'
  have hnames : DiscardParam.splitNames " blank,," = ["blank"] := by decide +kernel
  generalize hc : (⟨⟨"", 4⟩, ⟨["number"], false⟩, []⟩ : Settings) = c
  have hsize : "[1 ]".utf8ByteSize ≤ c.server.maxInputBytes := by
    subst hc
    decide
  obtain ⟨s, hs⟩ : ∃ s, Service.start Bundled.registry c = .ok s := by
    refine Service.exists_start_iff.mpr fun name l _ n hn => ?_
    subst hc
    cases hn
  have hlexes := Registry.lexes_iff.mpr ⟨l, hget, by simpa using hblank, hlex⟩
  rw [← hnames] at hlexes
  have hanswer := (Service.answer_eq_ok_iff (w := .given) hs (q := ⟨some "json", some "[1 ]",
    some (.joined " blank,,"), some true⟩) ⟨rfl, rfl, hsize⟩).mpr ⟨_, hlexes, rfl⟩
  have hagree := fun f => (lex_agrees_with_answer c s [] "[1 ]".toUTF8
    ⟨"json", none, f, some " blank,,", true⟩ "[1 ]" .given hs (source_toUTF8 _) hsize
    (by decide)).2.1 _ hanswer
  exact ⟨s, _, hs, hanswer, rfl, hagree .html, hagree .json⟩

end CommandLine

end Lexicon
