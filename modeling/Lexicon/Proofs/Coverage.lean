import Lexicon.Bundled
import Lexicon.Proofs.Segmentation
import Lexicon.Proofs.Stage.Pipeline

namespace Lexicon

namespace Token

structure Covers (source : String) (tokens : List Token) : Prop where
  first : ∀ t, tokens[0]? = some t → t.start = 0
  next : ∀ i t u, tokens[i]? = some t → tokens[i + 1]? = some u → u.start = t.start + t.size
  text_ne : ∀ t ∈ tokens, t.text ≠ ""
  boundaries : ∀ t ∈ tokens, (String.Pos.Raw.mk t.start).IsValid source ∧
    (String.Pos.Raw.mk (t.start + t.size)).IsValid source
  bytes : ∀ t ∈ tokens,
    source.toByteArray.extract t.start (t.start + t.size) = t.text.toByteArray
  texts_eq : texts tokens = source

/-- The tokens follow each other from `offset` on, none is empty, and they make up `rest`. -/
def Tiles : Nat → List Char → List Token → Prop
  | _, rest, [] => rest = []
  | offset, rest, t :: tokens =>
    t.start = offset ∧ t.text ≠ "" ∧
      ∃ tail, rest = t.text.toList ++ tail ∧ Tiles (offset + t.size) tail tokens

def span (t : Token) : Nat × String := (t.start, t.text)

namespace Tiles

variable {offset : Nat} {rest : List Char} {t u : Token} {tokens others : List Token}

theorem of_spans (h : Tiles offset rest tokens) (hs : others.map span = tokens.map span) :
    Tiles offset rest others := by
  induction tokens generalizing offset rest others with
  | nil =>
    cases others with
    | nil => exact h
    | cons u others => simp at hs
  | cons t tokens ih =>
    cases others with
    | nil => simp at hs
    | cons u others =>
      simp only [List.map_cons, List.cons.injEq, span, Prod.mk.injEq] at hs
      obtain ⟨⟨hstart, htext⟩, hs⟩ := hs
      obtain ⟨ht, hne, tail, hrest, htail⟩ := h
      refine ⟨hstart.trans ht, htext ▸ hne, tail, htext ▸ hrest, ?_⟩
      rw [size, htext]
      exact ih htail hs

theorem retag (h : Tiles offset rest (t :: tokens)) (category : String) :
    Tiles offset rest ({ t with category } :: tokens) := h

theorem join (h : Tiles offset rest (t :: u :: tokens)) (category : String) :
    Tiles offset rest (⟨category, t.text ++ u.text, t.start⟩ :: tokens) := by
  obtain ⟨ht, hne, _, rfl, -, -, tail, rfl, htail⟩ := h
  refine ⟨ht, fun he => hne (String.append_eq_empty_iff.mp he).1, tail, by simp, ?_⟩
  simpa [size, Nat.add_assoc] using htail

theorem of_tail (h : ∀ offset rest, Tiles offset rest tokens → Tiles offset rest others)
    (ht : Tiles offset rest (t :: tokens)) : Tiles offset rest (t :: others) := by
  obtain ⟨hstart, hne, tail, hrest, htail⟩ := ht
  exact ⟨hstart, hne, tail, hrest, h _ _ htail⟩

theorem texts_eq (h : Tiles offset rest tokens) : texts tokens = .ofList rest := by
  induction tokens generalizing offset rest with
  | nil => rw [show rest = [] from h]; rfl
  | cons t tokens ih =>
    obtain ⟨-, -, tail, rfl, htail⟩ := h
    rw [texts, List.map_cons, String.join_cons, String.ofList_append, String.ofList_toList]
    exact congrArg (t.text ++ ·) (ih htail)

theorem text_ne (h : Tiles offset rest tokens) (ht : t ∈ tokens) : t.text ≠ "" := by
  induction tokens generalizing offset rest with
  | nil => cases ht
  | cons u tokens ih =>
    obtain ⟨-, hne, tail, -, htail⟩ := h
    cases ht with
    | head => exact hne
    | tail _ ht => exact ih htail ht

theorem start_eq (h : Tiles offset rest tokens) (ht : tokens[0]? = some t) : t.start = offset := by
  cases tokens with
  | nil => simp at ht
  | cons u tokens =>
    obtain rfl : u = t := by simpa using ht
    exact h.1

theorem start_next {i : Nat} (h : Tiles offset rest tokens) (ht : tokens[i]? = some t)
    (hu : tokens[i + 1]? = some u) : u.start = t.start + t.size := by
  induction i generalizing offset rest tokens with
  | zero =>
    cases tokens with
    | nil => simp at ht
    | cons v tokens =>
      obtain rfl : v = t := by simpa using ht
      obtain ⟨hstart, -, tail, -, htail⟩ := h
      rw [hstart]
      exact htail.start_eq (by simpa using hu)
  | succ i ih =>
    cases tokens with
    | nil => simp at ht
    | cons v tokens =>
      obtain ⟨-, -, tail, -, htail⟩ := h
      exact ih htail (by simpa using ht) (by simpa using hu)

theorem split (h : Tiles offset rest tokens) (ht : t ∈ tokens) :
    ∃ before after : String, String.ofList rest = before ++ t.text ++ after ∧
      t.start = offset + before.utf8ByteSize := by
  induction tokens generalizing offset rest with
  | nil => cases ht
  | cons u tokens ih =>
    obtain ⟨hstart, -, tail, rfl, htail⟩ := h
    rw [String.ofList_append, String.ofList_toList]
    cases ht with
    | head => exact ⟨"", .ofList tail, by simp, by simp [hstart]⟩
    | tail _ ht =>
      obtain ⟨before, after, htext, hoff⟩ := ih htail ht
      refine ⟨u.text ++ before, after, by rw [htext]; simp [String.append_assoc], ?_⟩
      rw [hoff, size, String.utf8ByteSize_append, Nat.add_assoc]

end Tiles

theorem covers_of_tiles {source : String} {tokens : List Token}
    (h : Tiles 0 source.toList tokens) : Covers source tokens := by
  have hsplit : ∀ t ∈ tokens, ∃ before after : String, source = before ++ t.text ++ after ∧
      t.start = before.utf8ByteSize := by
    intro t ht
    obtain ⟨before, after, htext, hoff⟩ := h.split ht
    rw [String.ofList_toList] at htext
    exact ⟨before, after, htext, by rw [hoff, Nat.zero_add]⟩
  refine ⟨fun t => h.start_eq, fun i t u => h.start_next, fun t => h.text_ne, ?_, ?_, ?_⟩
  · intro t ht
    obtain ⟨before, after, rfl, hoff⟩ := hsplit t ht
    constructor
    · refine String.Pos.Raw.isValid_iff_exists_append.mpr
        ⟨before, t.text ++ after, String.append_assoc .., ?_⟩
      rw [hoff]
      rfl
    · refine String.Pos.Raw.isValid_iff_exists_append.mpr ⟨before ++ t.text, after, rfl, ?_⟩
      rw [hoff, size, ← String.utf8ByteSize_append]
      rfl
  · intro t ht
    obtain ⟨before, after, rfl, hoff⟩ := hsplit t ht
    rw [hoff, size, String.append_assoc, String.toByteArray_append, String.toByteArray_append]
    have hcut := ByteArray.extract_append_size_add (a := before.toByteArray)
      (b := t.text.toByteArray ++ after.toByteArray) (i := 0) (j := t.text.toByteArray.size)
    exact hcut.trans (ByteArray.extract_append_eq_left rfl)
  · rw [h.texts_eq, String.ofList_toList]

end Token

open Token

namespace Segmentation

theorem tiles {l : Language} {start : Nat} {text : List Char} {tokens : List Token}
    (h : Segmentation l [] start text (.ok tokens)) : Tiles start text tokens := by
  generalize hr : Except.ok tokens = result at h
  induction h generalizing tokens with
  | done =>
    cases hr
    rfl
  | unlexable => cases hr
  | wrong => cases hr
  | word hn hc hw hrest ih =>
    rename_i start n text category rest
    cases rest with
    | error e => cases hr
    | ok ts =>
      cases hr
      refine ⟨rfl, ?_, text.drop n, by simp, ih rfl⟩
      have hlen : (text.take n).length = n := List.length_take_of_le hn.hit.1
      have hpos := hn.pos
      rw [Ne, String.ofList_eq_empty_iff, ← List.length_eq_zero_iff]
      omega

end Segmentation

theorem Merge.tiles_applyFrom (category : String) {last : Token} {tokens : List Token}
    {offset : Nat} {rest : List Char} (h : Tiles offset rest (last :: tokens)) :
    Tiles offset rest (applyFrom category last tokens) := by
  induction tokens generalizing last offset rest with
  | nil => exact h
  | cons t tokens ih =>
    rw [applyFrom]
    split
    · exact ih (h.join last.category)
    · exact Tiles.of_tail (fun _ _ => ih) h

theorem Merge.tiles_apply (category : String) {tokens : List Token} {offset : Nat}
    {rest : List Char} (h : Tiles offset rest tokens) :
    Tiles offset rest (apply category tokens) := by
  cases tokens with
  | nil => exact h
  | cons t tokens => exact tiles_applyFrom category h

theorem Splice.tiles_applyFrom (s : Splice) (last : Option Token) (tokens : List Token) :
    ∀ offset rest, Tiles offset rest (last.toList ++ tokens) →
      Tiles offset rest (s.applyFrom last tokens) := by
  refine applyFrom.induct s
    (fun t tokens => ∀ offset rest, Tiles offset rest (t :: tokens) →
      Tiles offset rest (applyFrom.onward s t tokens))
    (fun last tokens => ∀ offset rest, Tiles offset rest (last.toList ++ tokens) →
      Tiles offset rest (s.applyFrom last tokens))
    ?_ ?_ ?_ ?_ ?_ ?_ ?_ ?_ last tokens
  · intro t offset rest h
    rw [applyFrom.onward]
    exact h.retag s.literal
  · intro t n tokens hn ih offset rest h
    rw [applyFrom.onward, if_pos hn]
    exact ih offset rest (h.join n.category)
  · intro t n tokens hn ih offset rest h
    rw [applyFrom.onward, if_neg hn]
    exact ih offset rest (h.retag s.literal)
  · intro last offset rest h
    rw [applyFrom]
    simpa using h
  · intro n tokens p hp hs ih offset rest h
    rw [applyFrom, if_pos hs]
    simp only [if_pos hp]
    exact ih offset rest (h.join p.category)
  · intro n tokens p hp hs ih offset rest h
    rw [applyFrom, if_pos hs]
    simp only [if_neg hp]
    exact Tiles.of_tail ih h
  · intro n tokens hs ih offset rest h
    rw [applyFrom, if_pos hs]
    exact ih offset rest h
  · intro last n tokens hs ih offset rest h
    cases last with
    | none =>
      rw [applyFrom, if_neg hs]
      exact ih offset rest h
    | some p =>
      rw [applyFrom, if_neg hs]
      exact Tiles.of_tail ih h

namespace Table

variable (n : Table)

theorem span_mark (rowOpen : Bool) (t : Token) (next : Option Token) :
    (n.mark rowOpen t next).1.span = t.span := by
  unfold mark
  split <;> (try split) <;> (try split) <;> rfl

theorem span_normalise (previous : Option Token) (t : Token) (next : Option Token) :
    (n.normalise previous t next).span = t.span := by
  unfold normalise
  split <;> rfl

theorem spans_promote {nearest : Bool} {tokens result : List Token}
    (h : n.promote nearest tokens = some result) : result.map span = tokens.map span := by
  induction tokens generalizing nearest result with
  | nil => simp [promote] at h
  | cons t above ih =>
    rw [promote] at h
    split at h
    · cases h
      rfl
    · split at h
      · cases h
      · obtain ⟨rest, hrest, rfl⟩ := Option.map_eq_some_iff.mp h
        rw [List.map_cons, List.map_cons, ih hrest]

theorem spans_applyFrom {done tokens result : List Token} {rowOpen : Bool}
    (h : n.applyFrom done rowOpen tokens = .ok result) :
    result.map span = done.reverse.map span ++ tokens.map span := by
  induction tokens generalizing done rowOpen with
  | nil =>
    cases h
    simp
  | cons t rest ih =>
    have hspan : ∀ done', done'.map span = done.map span →
        ((n.normalise done.head? (n.mark rowOpen t rest.head?).1 rest.head? :: done').reverse.map
          span) ++ rest.map span = done.reverse.map span ++ (t :: rest).map span := by
      intro done' hd
      simp [span_normalise, span_mark, hd]
    simp only [applyFrom] at h
    split at h
    · split at h
      · rename_i done' hd
        exact (ih h).trans (hspan done' (n.spans_promote hd))
      · cases h
    · exact (ih h).trans (hspan done rfl)

theorem spans_apply {tokens result : List Token} (h : n.apply tokens = .ok result) :
    result.map span = tokens.map span := by
  simpa using n.spans_applyFrom h

end Table

theorem Stage.Standard.keeps_tiles {s : Stage} (hs : s.Standard) (offset : Nat) (rest : List Char) :
    s.Keeps (Tiles offset rest) := by
  intro tokens result h hr
  cases hs with
  | splice s =>
    cases hr
    exact s.tiles_applyFrom none tokens offset rest h
  | merge category =>
    cases hr
    exact Merge.tiles_apply category h
  | table n => exact h.of_spans (n.spans_apply hr)
  | refuse name message => cases hr

theorem Stage.Standard.keeps_start_le {s : Stage} (hs : s.Standard) (n : Nat) :
    s.Keeps fun l => ∀ t ∈ l, t.start ≤ n := by
  intro tokens result h hr
  cases hs with
  | splice s =>
    cases hr
    have hturns : s.Turns (·.start ≤ n) (·.start ≤ n) :=
      ⟨fun t ht _ => ht, fun p t hp _ _ _ => hp, fun t u ht _ _ _ => ht, fun t ht _ => ht⟩
    exact Splice.forall_mem_apply hturns h
  | merge category =>
    cases hr
    exact Merge.forall_mem_apply (fun t u ht _ _ _ => ht) h
  | table m =>
    intro t ht
    have hspan := List.mem_map_of_mem (f := Token.span) ht
    rw [m.spans_apply hr] at hspan
    obtain ⟨u, hu, heq⟩ := List.mem_map.mp hspan
    have hstart : u.start = t.start := congrArg Prod.fst heq
    rw [← hstart]
    exact h u hu
  | refuse name message => cases hr

theorem Language.tiles_reshape {l : Language} {tokens result : List Token} {offset : Nat}
    {rest : List Char} (hl : ∀ s ∈ l.pipeline.getD [], s.Standard)
    (h : Tiles offset rest tokens) (hr : l.reshape tokens = .ok result) :
    Tiles offset rest result :=
  of_reshape (fun s hs => (hl s hs).keeps_tiles offset rest) h hr

/-- A text that is lexed with nothing discarded is covered by its tokens, if all stages of the
language are standard ones. -/
theorem Lexer.covers_of_lexWith (x : Lexer) (text : String) (names : Option (List String))
    (tokens : List Token) (hs : ∀ s ∈ x.language.pipeline.getD [], s.Standard)
    (hd : names.getD x.discarded = [])
    (h : x.lexWith text names = .ok tokens) : Covers text tokens := by
  have hn : ∀ ns ∈ names, ∀ n ∈ ns, x.language.hasCategory n := by
    intro ns hns n hn
    cases hns
    simp_all
  rw [lexWith_eq_scan_reshape hn, hd] at h
  cases hscan : x.language.scan [] text with
  | error e => simp [hscan, Except.bind] at h
  | ok scanned =>
    rw [hscan] at h
    exact covers_of_tiles (Language.tiles_reshape hs (Language.scan_eq_iff.mp hscan).tiles h)

theorem Bundled.standard_of_mem_markupPipeline :
    ∀ s ∈ Bundled.markupPipeline, s.Standard := by
  simp only [markupPipeline, List.forall_mem_cons]
  exact ⟨.splice _, .merge _, .table _, List.forall_mem_nil _⟩

theorem Lexer.markup_table_covers :
    ∃ l tokens, Language.build "markup" Bundled.markup = .ok l ∧
      tokens = [⟨"normal", "\\é", 0⟩, ⟨"table_header_line_start", "|", 3⟩, ⟨"newline", "\n", 4⟩,
        ⟨"table_header_line", "|--", 5⟩] ∧
      lex ⟨l, []⟩ "\\é|\n|--" = .ok tokens ∧ Covers "\\é|\n|--" tokens := by
  have hbuild : ∃ l, Language.build "markup" Bundled.markup = .ok l ∧ l.scan [] "\\é|\n|--" =
      .ok [⟨"escape", "\\é", 0⟩, ⟨"table", "|", 3⟩, ⟨"newline", "\n", 4⟩,
        ⟨"table_header_line", "|--", 5⟩] := Language.exists_of_build (by decide +kernel)
  obtain ⟨l, hl, hscan⟩ := hbuild
  have hp : l.pipeline = some Bundled.markupPipeline := (Language.built_of_build hl).pipeline_eq
  have hrun : Pipeline.run Bundled.markupPipeline [⟨"escape", "\\é", 0⟩, ⟨"table", "|", 3⟩,
      ⟨"newline", "\n", 4⟩, ⟨"table_header_line", "|--", 5⟩] =
      .ok [⟨"normal", "\\é", 0⟩, ⟨"table_header_line_start", "|", 3⟩, ⟨"newline", "\n", 4⟩,
        ⟨"table_header_line", "|--", 5⟩] := by
    simp [Pipeline.run, Bundled.markupPipeline, Stage.splice, Stage.merge, Stage.table,
      Splice.apply, Splice.applyFrom, Splice.applyFrom.onward, Splice.special, Token.is,
      Merge.apply, Merge.applyFrom, Table.apply, Table.applyFrom, Table.mark, Table.normalise,
      Table.isBreak, Table.promote, Except.bind]
  have hlex : lex ⟨l, []⟩ "\\é|\n|--" =
      .ok [⟨"normal", "\\é", 0⟩, ⟨"table_header_line_start", "|", 3⟩, ⟨"newline", "\n", 4⟩,
        ⟨"table_header_line", "|--", 5⟩] := by
    rw [lex, lexWith_eq_scan_reshape (by simp)]
    simp only [Option.getD_none, hscan, Except.bind, Language.reshape, hp, hrun]
    rfl
  have hstandard : ∀ s ∈ l.pipeline.getD [], s.Standard := by
    rw [hp]
    exact Bundled.standard_of_mem_markupPipeline
  exact ⟨l, _, hl, rfl, hlex, covers_of_lexWith ⟨l, []⟩ _ none _ hstandard rfl hlex⟩

end Lexicon
