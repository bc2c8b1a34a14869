import Lexicon.Proofs.Characters
import Lexicon.Proofs.Coverage
import Lexicon.Proofs.Discard
import Lexicon.Proofs.Html

namespace Lexicon

open Token

namespace Table

def turns (n : Table) : List (String × String) :=
  [(n.delimiter, n.lineStart), (n.delimiter, n.lineEnd), (n.paragraph, n.newline),
    (n.lineStart, n.headerLineStart)]

def guards (n : Table) (names : List String) : Bool :=
  n.turns.all fun (old, new) => new ∉ names || old ∈ names

variable {n : Table} {names : List String} {t u : Token}

theorem Retags.mem_turns (h : n.Retags t u) : (t.category, u.category) ∈ n.turns := by
  cases h with
  | rowStart ht => simp [turns, ht]
  | rowEnd ht => simp [turns, ht]
  | newline ht => simp [turns, ht]
  | header ht => simp [turns, ht]

theorem Retags.text_eq (h : n.Retags t u) : u.text = t.text := by
  cases h <;> rfl

theorem Retagged.guarded (hn : n.guards names) (h : n.Retagged t u) :
    u.text = t.text ∧ (u.category ∈ names → t.category ∈ names) := by
  induction h with
  | refl => exact ⟨rfl, id⟩
  | tail _ hstep ih =>
    have hturn := List.all_eq_true.mp hn _ hstep.mem_turns
    simp only [Bool.or_eq_true, decide_eq_true_eq] at hturn
    refine ⟨hstep.text_eq.trans ih.1, fun hu => ih.2 ?_⟩
    exact hturn.resolve_left fun hnot => hnot hu

end Table

def Token.Guarded (names : List String) (P : String → Prop) (tokens : List Token) : Prop :=
  ∀ t ∈ tokens, t.category ∈ names → P t.text

/-- A text of a token of the given categories is put together from texts of such tokens. -/
def Stage.Guards (names : List String) (s : Stage) : Prop :=
  ∀ P : String → Prop, (∀ s t, P s → P t → P (s ++ t)) → s.Keeps (Guarded names P)

section

variable {names : List String} {P : String → Prop} {tokens result : List Token}

theorem Splice.guarded_apply {s : Splice} (hs : s.literal ∉ names) (h : Guarded names P tokens) :
    Guarded names P (s.apply tokens) := by
  refine Splice.forall_mem_apply ⟨fun t ht _ => ht, ?_, ?_, ?_⟩ h
  · exact fun p t _ hp _ _ hmem => absurd (hp ▸ hmem) hs
  · exact fun t n _ _ _ hn hmem => absurd (hn ▸ hmem) hs
  · exact fun t _ _ hmem => absurd hmem hs

theorem Merge.guarded_apply (hP : ∀ s t, P s → P t → P (s ++ t)) {category : String}
    (h : Guarded names P tokens) : Guarded names P (apply category tokens) := by
  apply Merge.forall_mem_apply ?_ h
  intro t u ht hu htc huc hmem
  exact hP _ _ (ht hmem) (hu (huc ▸ htc ▸ hmem))

theorem Table.guarded_apply {n : Table} (hn : n.guards names) (h : Guarded names P tokens)
    (hr : n.apply tokens = .ok result) : Guarded names P result := by
  intro u hu hmem
  obtain ⟨t, ht, htu⟩ := exists_retagged_of_mem (forall₂_apply hr) hu
  obtain ⟨htext, hcategory⟩ := htu.guarded hn
  rw [htext]
  exact h t ht (hcategory hmem)

namespace Stage

theorem guards_splice {s : Splice} (hs : s.literal ∉ names) : (splice s).Guards names := by
  intro P _ tokens result h hr
  cases hr
  exact Splice.guarded_apply hs h

theorem guards_merge (category : String) : (merge category).Guards names := by
  intro P hP tokens result h hr
  cases hr
  exact Merge.guarded_apply hP h

theorem guards_table {n : Table} (hn : n.guards names) : (table n).Guards names :=
  fun _ _ _ _ h hr => Table.guarded_apply hn h hr

end Stage

end

namespace Language

def tags (l : Language) (names : List String) : Bool :=
  (l.categoryNames.all fun name => '>' ∉ name.toList) &&
    ['<', '&'].all fun d => l.confines d (l.categoryNames.filter (· ∉ names))

structure Legible (l : Language) (names : List String) : Prop where
  tags : l.tags names
  written : ∀ category, l.Writes category → '>' ∉ category.toList
  guards : ∀ s ∈ l.pipeline.getD [], s.Guards names

variable {l : Language} {names raw : List String} {text : String} {scanned tokens : List Token}

theorem guarded_of_scan (h : l.tags names) (hscan : l.scan [] text = .ok scanned) :
    Guarded names Html.Plain scanned := by
  simp only [tags, Bool.and_eq_true, List.all_eq_true] at h
  intro t ht hmem
  have hclass := (scan_eq_iff.mp hscan).classify_eq ht
  have hnot : ∀ d ∈ ['<', '&'], d ∉ t.text.toList := by
    intro d hd hdt
    have hother := mem_of_confines (h.2 d hd) hclass hdt
    simp only [List.mem_filter, decide_eq_true_eq] at hother
    exact hother.2 hmem
  exact ⟨hnot '<' (by simp), hnot '&' (by simp)⟩

theorem category_of_scan (hscan : l.scan [] text = .ok scanned) :
    ∀ t ∈ scanned, t.category ∈ l.categoryNames := by
  intro t ht
  obtain ⟨c, hc, hname, -⟩ := exists_of_classify ((scan_eq_iff.mp hscan).classify_eq ht)
  rw [← hname]
  exact List.mem_map_of_mem hc

theorem legible_of_reshape (h : l.Legible names) (hraw : ∀ c ∈ raw, c ∈ names)
    (hscan : l.scan [] text = .ok scanned) (hreshape : l.reshape scanned = .ok tokens) :
    ∀ t ∈ tokens, Html.Legible raw t := by
  have hguarded := of_reshape (fun s hs => h.guards s hs _ Html.plain_append)
    (guarded_of_scan h.tags hscan) hreshape
  have htags := h.tags
  simp only [Language.tags, Bool.and_eq_true, List.all_eq_true, decide_eq_true_eq] at htags
  intro t ht
  refine ⟨?_, fun hmem => hguarded t ht (hraw _ hmem)⟩
  by_cases hw : l.Writes t.category
  · exact h.written _ hw
  · refine htags.1 _ (Classical.byContradiction fun hnot => ?_)
    exact not_mem_of_not_writes hw
      (fun u hu heq => hnot (heq ▸ category_of_scan hscan u hu)) hreshape t ht rfl

end Language

theorem Lexer.plainText_render {x : Lexer} {names : Option (List String)} {guarded raw : List String}
    {text : String} {tokens : List Token} (hx : x.language.Legible guarded)
    (hstandard : ∀ s ∈ x.language.pipeline.getD [], s.Standard)
    (hraw : ∀ c ∈ raw, c ∈ guarded) (hd : names.getD x.discarded = [])
    (h : x.lexWith text names = .ok tokens) :
    Html.plainText (Html.render raw false tokens) = text := by
  obtain ⟨scanned, hscan, hreshape⟩ := exists_scan_of_lexWith h
  have hall : without (names.getD x.discarded) scanned = scanned := by simp [hd, without]
  rw [hall] at hreshape
  have hlegible := Language.legible_of_reshape hx hraw hscan hreshape
  have htiles := Language.tiles_reshape hstandard (Language.scan_eq_iff.mp hscan).tiles hreshape
  rw [Html.plainText_render hlegible, htiles.texts_eq, String.ofList_toList]

end Lexicon
