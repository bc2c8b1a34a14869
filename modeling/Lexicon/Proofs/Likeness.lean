import Mathlib.Data.List.Forall2
import Lexicon.Bundled
import Lexicon.Proofs.Characters

/-!
Languages that cannot be told apart by their results. Of its categories a language shows no more than
which of them accepts a word first. So the order and number of the patterns in a category do not
count, nor does the order of neighbours that have no word in common, nor a last category whose words
all have one already.
-/

namespace Lexicon

theorem ofList_take_ne {text : List Char} {n : Nat} (hn : 0 < n) (hle : n ≤ text.length) :
    String.ofList (text.take n) ≠ "" := by
  rw [Ne, String.ofList_eq_empty_iff, ← List.length_eq_zero_iff, List.length_take_of_le hle]
  omega

namespace Language

structure Like (l l' : Language) : Prop where
  classify_eq : ∀ word ≠ "", l.classify word = l'.classify word
  isWrong_eq : ∀ word ≠ "", ∀ name ∈ l.classify word, l.isWrong name = l'.isWrong name
  pipeline_eq : l.pipeline = l'.pipeline

/-- Lexers of the two languages that discard the same categories, all of them declared in both, give
the same results. -/
def LexesLike (l l' : Language) : Prop :=
  ∀ (x x' : Lexer) (names : Option (List String)) (text : String),
    x.language = l → x'.language = l' →
    (∀ n, n ∈ names.getD x.discarded ↔ n ∈ names.getD x'.discarded) →
    (∀ n ∈ names.getD x.discarded, l.hasCategory n ∧ l'.hasCategory n) →
    x.lexWith text names = x'.lexWith text names

namespace Like

variable {l l' : Language} {discard discard' : List String} {text : List Char} {n : Nat}

theorem matches_iff (h : Like l l') (hn : 0 < n) : l.Matches text n ↔ l'.Matches text n := by
  simp only [Matches, ← classify_isSome_iff]
  refine and_congr_right fun hle => ?_
  rw [h.classify_eq _ (ofList_take_ne hn hle)]

theorem firstCut (h : Like l l') (hn : FirstCut (l.Matches text) n) :
    FirstCut (l'.Matches text) n :=
  hn.congr fun _ hi _ => h.matches_iff hi

theorem word_eq {category : String} (h : Like l l') (hn : FirstCut (l.Matches text) n)
    (hc : l.classify (.ofList (text.take n)) = some category) :
    l'.classify (.ofList (text.take n)) = some category ∧
      l'.isWrong category = l.isWrong category := by
  have hne := ofList_take_ne hn.pos hn.hit.1
  exact ⟨(h.classify_eq _ hne).symm.trans hc, (h.isWrong_eq _ hne category hc).symm⟩

theorem segmentation {start : Nat} {result : Except LexError (List Token)} (h : Like l l')
    (hd : ∀ n, n ∈ discard ↔ n ∈ discard') (hs : Segmentation l discard start text result) :
    Segmentation l' discard' start text result := by
  induction hs with
  | done => exact .done
  | unlexable hne hno =>
    exact .unlexable hne fun n hn hM => hno n hn ((h.matches_iff hn).mpr hM)
  | wrong hn hc hw =>
    obtain ⟨hc', hw'⟩ := h.word_eq hn hc
    exact .wrong (h.firstCut hn) hc' (hw'.trans hw)
  | word hn hc hw _ ih =>
    obtain ⟨hc', hw'⟩ := h.word_eq hn hc
    simp only [hd]
    exact .word (h.firstCut hn) hc' (hw'.trans hw) ih

theorem scan_eq (h : Like l l') (hd : ∀ n, n ∈ discard ↔ n ∈ discard') (text : String) :
    l.scan discard text = l'.scan discard' text :=
  (scan_eq_iff.mpr (h.segmentation hd (l.segmentation_scan discard text))).symm

theorem lexesLike (h : Like l l') : LexesLike l l' := by
  rintro x x' names text rfl rfl hd hdeclared
  have hreshape : x.language.reshape = x'.language.reshape := by
    funext tokens
    rw [reshape, reshape, h.pipeline_eq]
  rw [Lexer.lexWith_eq_scan_reshape, Lexer.lexWith_eq_scan_reshape, h.scan_eq hd, hreshape]
  · rintro ns rfl n hn
    exact (hdeclared n hn).2
  · rintro ns rfl n hn
    exact (hdeclared n hn).1

end Like

end Language

structure Category.Rearranged (c c' : Category) : Prop where
  name_eq : c.name = c'.name
  mem_iff : ∀ p, p ∈ c.patterns ↔ p ∈ c'.patterns

theorem Category.Rearranged.accepts_eq {c c' : Category} (h : c.Rearranged c') (word : String) :
    c.accepts word = c'.accepts word := by
  rw [accepts, accepts, Bool.eq_iff_iff, List.any_eq_true, List.any_eq_true]
  simp only [h.mem_iff]

namespace Category

def regexes (c : Category) : Residue := c.patterns.map (·.regex)

theorem accepts_eq_run (c : Category) (word : String) :
    c.accepts word = c.regexes.run none word.toList := by
  rw [accepts, regexes, Residue.run_eq_any, List.any_map]
  rfl

/-- Does no sample start a word of both categories, by patterns that see nothing in a character but
what a sample shows? -/
def startsApart (c d : Category) : Bool :=
  ((c.regexes ++ d.regexes).all fun r => r.plain && r.sets.all (·.simple)) &&
    samples.all fun a => (c.regexes.advance none a).isEmpty || (d.regexes.advance none a).isEmpty

theorem not_accepts_of_startsApart {c d : Category} (h : c.startsApart d) {word : String}
    (hw : word ≠ "") : ¬ (c.accepts word ∧ d.accepts word) := by
  simp only [startsApart, Bool.and_eq_true, List.all_eq_true, List.mem_append, Bool.or_eq_true,
    List.isEmpty_iff] at h
  have hc : c.regexes.Over (·.simple) := fun r hr =>
    Regex.over_of_plain (h.1 r (.inl hr)).1 (h.1 r (.inl hr)).2
  have hd : d.regexes.Over (·.simple) := fun r hr =>
    Regex.over_of_plain (h.1 r (.inr hr)).1 (h.1 r (.inr hr)).2
  rw [accepts_eq_run, accepts_eq_run]
  cases hchars : word.toList with
  | nil => exact absurd (String.toList_eq_nil_iff.mp hchars) hw
  | cons a rest =>
    obtain ⟨b, hb, hsets⟩ := exists_sample a
    have hca : c.regexes.advance none a = c.regexes.advance none b :=
      hc.advance_congr fun s hs => (hsets s hs).symm
    have hda : d.regexes.advance none a = d.regexes.advance none b :=
      hd.advance_congr fun s hs => (hsets s hs).symm
    simp only [Residue.run, hca, hda]
    rcases h.2 b hb with hnil | hnil
    · simp [hnil]
    · simp [hnil]

end Category

namespace Language

variable {l : Language} {categories before after : List Category} {c d : Category}
  {wrong : List String}

theorem like_of_rearranged (h : List.Forall₂ Category.Rearranged l.categories categories) :
    Like l { l with categories } := by
  refine ⟨fun word _ => ?_, fun _ _ _ _ => rfl, rfl⟩
  simp only [classify]
  generalize l.categories = declared at h
  induction h with
  | nil => rfl
  | cons hc _ ih =>
    simp only [List.find?_cons, hc.accepts_eq]
    split
    · exact congrArg some hc.name_eq
    · exact ih

theorem like_of_swap (hl : l.categories = before ++ c :: d :: after)
    (h : ∀ word ≠ "", ¬ (c.accepts word ∧ d.accepts word)) :
    Like l { l with categories := before ++ d :: c :: after } := by
  refine ⟨fun word hw => ?_, fun _ _ _ _ => rfl, rfl⟩
  have hnot := h word hw
  simp only [classify, hl, List.find?_append, List.find?_cons]
  cases hc : c.accepts word with
  | false => cases d.accepts word <;> rfl
  | true =>
    cases hd : d.accepts word with
    | false => rfl
    | true => exact absurd ⟨hc, hd⟩ hnot

theorem like_of_concat (h : ∀ word ≠ "", c.accepts word → ∃ d ∈ l.categories, d.accepts word)
    (hw : ∀ n ∈ l.categoryNames, n ∈ wrong ↔ n ∈ l.wrong) :
    Like l { l with categories := l.categories ++ [c], wrong } := by
  refine ⟨fun word hword => ?_, fun word _ name hname => ?_, rfl⟩
  · simp only [classify, List.find?_append]
    cases hfind : l.categories.find? (·.accepts word) with
    | some d => rfl
    | none =>
      have hc : c.accepts word = false := by
        rw [Bool.eq_false_iff]
        intro hc
        obtain ⟨d, hd, hacc⟩ := h word hword hc
        exact List.find?_eq_none.mp hfind d hd hacc
      simp [hc]
  · obtain ⟨d, hd, rfl, -⟩ := exists_of_classify hname
    simp [isWrong, hw d.name (List.mem_map_of_mem hd)]

/-- Languages that give non-empty words the same categories give the same results. So do a language
and another one in which the patterns in categories are rearranged, or neighbours that have no word
in common are swapped, or a last category is added whose words all have a category, and which may be
wrong. -/
theorem lexesLike_of_classify_eq :
    (∀ l l' : Language, l.pipeline = l'.pipeline →
      (∀ word ≠ "", l.classify word = l'.classify word) →
      (∀ word ≠ "", ∀ name ∈ l.classify word, l.isWrong name = l'.isWrong name) →
      LexesLike l l') ∧
    (∀ (l : Language) (categories : List Category),
      List.Forall₂ Category.Rearranged l.categories categories →
      LexesLike l { l with categories }) ∧
    (∀ (l : Language) (before after : List Category) (c d : Category),
      l.categories = before ++ c :: d :: after →
      (∀ word ≠ "", ¬ (c.accepts word ∧ d.accepts word)) →
      LexesLike l { l with categories := before ++ d :: c :: after }) ∧
    ∀ (l : Language) (c : Category) (wrong : List String),
      (∀ word ≠ "", c.accepts word → ∃ d ∈ l.categories, d.accepts word) →
      (∀ n ∈ l.categoryNames, n ∈ wrong ↔ n ∈ l.wrong) →
      LexesLike l { l with categories := l.categories ++ [c], wrong } := by
  refine ⟨fun l l' hp hc hw => ?_, fun l categories h => ?_, fun l before after c d hl h => ?_,
    fun l c wrong h hw => ?_⟩
  · exact Like.lexesLike ⟨hc, hw, hp⟩
  · exact (like_of_rearranged h).lexesLike
  · exact (like_of_swap hl h).lexesLike
  · exact (like_of_concat h hw).lexesLike

theorem bnf_variants_lex_like :
    ∃ l c d after tokens, build "bnf" Bundled.bnf = .ok l ∧ l.categories = c :: d :: after ∧
      tokens = [⟨"nonterminal", "<e>", 0⟩, ⟨"definition", "::=", 4⟩, ⟨"terminal", "'é'", 8⟩] ∧
      ∀ l' ∈ [l, { l with name := "grammar", metadata := [] },
        { l with categories := l.categories.map fun c =>
          { c with patterns := c.patterns.reverse ++ c.patterns } },
        { l with categories := d :: c :: after },
        { l with categories := l.categories ++ [{ d with name := "name" }], wrong := ["name"] }],
        Lexer.lexWith ⟨l', []⟩ "<e> ::= 'é'" (some ["blank"]) = .ok tokens := by
  have hbuild : ∃ l, build "bnf" Bundled.bnf = .ok l ∧
      ((l.categories.zip l.categories.tail).head?.any fun p => p.1.startsApart p.2) ∧
      l.hasCategory "blank" ∧ "name" ∉ l.categoryNames ∧
      Lexer.lexWith ⟨l, []⟩ "<e> ::= 'é'" (some ["blank"]) =
        .ok [⟨"nonterminal", "<e>", 0⟩, ⟨"definition", "::=", 4⟩, ⟨"terminal", "'é'", 8⟩] :=
    exists_of_build (by decide +kernel)
  obtain ⟨l, hl, hapart, hblank, hname, hlex⟩ := hbuild
  have hwrong : l.wrong = [] := (built_of_build hl).wrong_eq
  obtain ⟨c, d, after, hcategories⟩ : ∃ c d after, l.categories = c :: d :: after := by
    rcases hcategories : l.categories with _ | ⟨c, _ | ⟨d, after⟩⟩
    · simp [hcategories] at hapart
    · simp [hcategories] at hapart
    · exact ⟨c, d, after, rfl⟩
  simp only [hcategories, List.tail_cons, List.zip_cons_cons, List.head?_cons,
    Option.any_some] at hapart
  have hvariant : ∀ l', LexesLike l l' → l'.hasCategory "blank" →
      Lexer.lexWith ⟨l', []⟩ "<e> ::= 'é'" (some ["blank"]) =
        .ok [⟨"nonterminal", "<e>", 0⟩, ⟨"definition", "::=", 4⟩, ⟨"terminal", "'é'", 8⟩] := by
    intro l' hlike hblank'
    rw [← hlex]
    exact (hlike ⟨l, []⟩ ⟨l', []⟩ (some ["blank"]) _ rfl rfl (fun _ => Iff.rfl)
      (by simp [hblank, hblank'])).symm
  obtain ⟨hclassify, hrearranged, hswap, hconcat⟩ := lexesLike_of_classify_eq
  refine ⟨l, c, d, after, _, hl, hcategories, rfl, ?_⟩
  simp only [List.forall_mem_cons]
  refine ⟨hlex, hvariant _ (hclassify _ _ rfl (fun _ _ => rfl) fun _ _ _ _ => rfl) hblank,
    hvariant _ (hrearranged _ _ ?_) ?_,
    hvariant _ (hswap _ [] after c d hcategories ?_) ?_,
    hvariant _ (hconcat _ _ _ ?_ ?_) ?_, by simp⟩
  · rw [List.forall₂_map_right_iff]
    exact List.forall₂_same.mpr fun c _ => ⟨rfl, by simp⟩
  · simpa [hasCategory, categoryNames] using hblank
  · exact fun word hw => Category.not_accepts_of_startsApart hapart hw
  · simp only [hasCategory, categoryNames, hcategories] at hblank ⊢
    simpa [or_left_comm] using hblank
  · exact fun word _ hw => ⟨d, by simp [hcategories], hw⟩
  · intro n hn
    have hne : n ≠ "name" := by
      rintro rfl
      exact hname hn
    simp [hne, hwrong]
  · simp only [hasCategory, categoryNames, List.map_append, List.mem_append, decide_eq_true_eq]
    exact .inl (by simpa [hasCategory, categoryNames] using hblank)

end Language

end Lexicon
