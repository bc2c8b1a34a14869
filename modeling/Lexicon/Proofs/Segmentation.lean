import Lexicon.Bundled
import Lexicon.Proofs.Build
import Lexicon.Proofs.Frontier
import Lexicon.Proofs.Scan.Run

namespace Lexicon

namespace Language

def Accepts (l : Language) (word : List Char) : Prop :=
  ∃ c ∈ l.categories, ∃ p ∈ c.patterns, p.isMatch (.ofList word)

def Matches (l : Language) (text : List Char) (n : Nat) : Prop :=
  n ≤ text.length ∧ l.Accepts (text.take n)

theorem classify_isSome_iff (l : Language) (word : List Char) :
    (l.classify (.ofList word)).isSome ↔ l.Accepts word := by
  simp [classify, Category.accepts, Accepts]

theorem recogniser_matches (l : Language) : l.recogniser.Matches = l.Matches := by
  funext text n
  rw [Recogniser.Matches, recogniser_judge, classify_isSome_iff, Matches]

theorem not_firstCut_nil {l : Language} {n : Nat} : ¬ FirstCut (l.Matches []) n := fun h =>
  absurd h.hit.1 (Nat.not_le.mpr h.pos)

end Language

/-- The rules by which a text that starts at byte `start` is cut into tokens, or fails. -/
inductive Segmentation (l : Language) (discard : List String) :
    Nat → List Char → Except LexError (List Token) → Prop
  | done {start : Nat} : Segmentation l discard start [] (.ok [])
  | unlexable {start : Nat} {text : List Char} :
      text ≠ [] → (∀ n, 0 < n → ¬ l.Matches text n) →
      Segmentation l discard start text (.error (.unlexable start (.ofList text)))
  | wrong {start n : Nat} {text : List Char} {category : String} :
      FirstCut (l.Matches text) n → l.classify (.ofList (text.take n)) = some category →
      l.isWrong category = true →
      Segmentation l discard start text
        (.error (.wrongCategory category (.ofList (text.take n)) start))
  | word {start n : Nat} {text : List Char} {category : String}
      {rest : Except LexError (List Token)} :
      FirstCut (l.Matches text) n → l.classify (.ofList (text.take n)) = some category →
      l.isWrong category = false →
      Segmentation l discard (start + (String.ofList (text.take n)).utf8ByteSize) (text.drop n)
        rest →
      Segmentation l discard start text
        (if category ∈ discard then rest
          else rest.map (⟨category, .ofList (text.take n), start⟩ :: ·))

namespace Segmentation

variable {l : Language} {discard : List String} {start : Nat} {text : List Char}
  {a b : Except LexError (List Token)}

theorem unique (ha : Segmentation l discard start text a) (hb : Segmentation l discard start text b) :
    a = b := by
  induction ha generalizing b with
  | done =>
    cases hb with
    | done => rfl
    | unlexable hne => exact absurd rfl hne
    | wrong hn => exact absurd hn Language.not_firstCut_nil
    | word hn => exact absurd hn Language.not_firstCut_nil
  | unlexable hne hno =>
    cases hb with
    | done => exact absurd rfl hne
    | unlexable => rfl
    | wrong hn => exact absurd hn.hit (hno _ hn.pos)
    | word hn => exact absurd hn.hit (hno _ hn.pos)
  | wrong hn hc hw =>
    cases hb with
    | done => exact absurd hn Language.not_firstCut_nil
    | unlexable _ hno => exact absurd hn.hit (hno _ hn.pos)
    | wrong hk hd =>
      obtain rfl := hn.unique hk
      rw [hc] at hd
      cases hd
      rfl
    | word hk hd hw' =>
      obtain rfl := hn.unique hk
      rw [hc] at hd
      cases hd
      simp [hw] at hw'
  | word hn hc hw _ ih =>
    cases hb with
    | done => exact absurd hn Language.not_firstCut_nil
    | unlexable _ hno => exact absurd hn.hit (hno _ hn.pos)
    | wrong hk hd hw' =>
      obtain rfl := hn.unique hk
      rw [hc] at hd
      cases hd
      simp [hw] at hw'
    | word hk hd _ hrest =>
      obtain rfl := hn.unique hk
      rw [hc] at hd
      cases hd
      rw [ih hrest]

theorem ne_ambiguity (h : Segmentation l discard start text a) (n : Nat) (w : String)
    (names : List String) : a ≠ .error (.ambiguity n w names) := by
  induction h with
  | done => simp
  | unlexable => simp
  | wrong => simp
  | word _ _ _ _ ih =>
    rename_i category rest _ _ _ _
    split
    · exact ih
    · cases rest with
      | error e => simpa [Except.map] using ih
      | ok ts => simp [Except.map]

end Segmentation

namespace Language

theorem cut_spec {l : Language} {s t : Scan Frontier String} {category : String}
    (hs : s.Sound l.recogniser) (hm : s.move l.recogniser = .cut category t) :
    FirstCut (l.Matches s.remaining) s.word.length ∧
      l.classify (.ofList (s.remaining.take s.word.length)) = some category ∧
      t = .init l.recogniser
        (s.start + (String.ofList (s.remaining.take s.word.length)).utf8ByteSize)
        (s.remaining.drop s.word.length) := by
  obtain ⟨hfirst, hjudge, ht⟩ := hs.of_cut hm
  rw [recogniser_matches] at hfirst
  rw [recogniser_judge, ← s.take_remaining] at hjudge
  exact ⟨hfirst, hjudge, by rw [ht, s.text_eq_take]⟩

theorem segmentation_scanFrom (l : Language) (discard : List String) (s : Scan Frontier String)
    (hs : s.Sound l.recogniser) :
    Segmentation l discard s.start s.remaining (l.scanFrom discard s) := by
  fun_induction scanFrom l discard s with
  | case1 s t hm _ ih =>
    obtain ⟨ht, hstart, hrem⟩ := hs.of_read hm
    exact hstart ▸ hrem ▸ ih ht
  | case2 s category t hm _ hw =>
    obtain ⟨hfirst, hclass, -⟩ := cut_spec hs hm
    rw [s.text_eq_take]
    exact .wrong hfirst hclass hw
  | case3 s category t hm _ hw hd ih =>
    obtain ⟨hfirst, hclass, rfl⟩ := cut_spec hs hm
    have hword := Segmentation.word hfirst hclass (Bool.eq_false_iff.mpr hw)
      (ih (Scan.sound_init _ _ _))
    rwa [if_pos hd] at hword
  | case4 s category t hm _ hw hd ih =>
    obtain ⟨hfirst, hclass, rfl⟩ := cut_spec hs hm
    have hword := Segmentation.word hfirst hclass (Bool.eq_false_iff.mpr hw)
      (ih (Scan.sound_init _ _ _))
    rw [if_neg hd] at hword
    rwa [s.text_eq_take]
  | case5 s hm =>
    obtain ⟨hword, hrem, hno⟩ := hs.of_stuck hm
    rw [recogniser_matches] at hno
    rw [Scan.text, ← hrem]
    exact .unlexable (by simpa [hrem] using hword) hno
  | case6 s hm =>
    rw [Scan.Sound.of_done hm]
    exact .done

theorem segmentation_scan (l : Language) (discard : List String) (text : String) :
    Segmentation l discard 0 text.toList (l.scan discard text) :=
  l.segmentation_scanFrom discard _ (Scan.sound_init _ _ _)

theorem scan_eq_iff {l : Language} {discard : List String} {text : String}
    {result : Except LexError (List Token)} :
    l.scan discard text = result ↔ Segmentation l discard 0 text.toList result := by
  constructor
  · rintro rfl
    exact l.segmentation_scan discard text
  · exact (l.segmentation_scan discard text).unique

theorem checkCategories_eq_ok {l : Language} {names : List String}
    (h : ∀ n ∈ names, l.hasCategory n) : l.checkCategories names = .ok () := by
  have hnone : (names.find? fun n => !l.hasCategory n) = none := by
    simpa using h
  rw [checkCategories, hnone]

end Language

namespace Lexer

variable {x : Lexer} {names : Option (List String)}

theorem lexWith_eq_scan_reshape (h : ∀ ns ∈ names, ∀ n ∈ ns, x.language.hasCategory n)
    (text : String) : x.lexWith text names =
      (x.language.scan (names.getD x.discarded) text).bind x.language.reshape := by
  cases names with
  | none => rfl
  | some ns =>
    have hok := Language.checkCategories_eq_ok (h ns rfl)
    simp only [lexWith, hok]
    rfl

theorem lexWith_eq_scan (hp : x.language.pipeline = none)
    (h : ∀ ns ∈ names, ∀ n ∈ ns, x.language.hasCategory n) (text : String) :
    x.lexWith text names = x.language.scan (names.getD x.discarded) text := by
  rw [lexWith_eq_scan_reshape h]
  cases x.language.scan (names.getD x.discarded) text with
  | error e => rfl
  | ok tokens => simp [Except.bind, Language.reshape, hp]

/-- A lexer without a pipeline gives every text its segmentation, and no two categories tie. -/
theorem lexWith_eq_iff_segmentation (x : Lexer) (names : Option (List String)) (text : String)
    (hp : x.language.pipeline = none) (h : ∀ ns ∈ names, ∀ n ∈ ns, x.language.hasCategory n) :
    (∀ result, x.lexWith text names = result ↔
      Segmentation x.language (names.getD x.discarded) 0 text.toList result) ∧
    ∀ start word categories, x.lexWith text names ≠ .error (.ambiguity start word categories) := by
  rw [lexWith_eq_scan hp h]
  refine ⟨fun result => Language.scan_eq_iff, ?_⟩
  exact (x.language.segmentation_scan _ text).ne_ambiguity

theorem bnf_rule_segmentation :
    ∃ l, Language.build "bnf" Bundled.bnf = .ok l ∧
      Segmentation l ["blank"] 0 "<e> ::= 'é'?".toList
        (.ok [⟨"nonterminal", "<e>", 0⟩, ⟨"definition", "::=", 4⟩, ⟨"terminal", "'é'", 8⟩,
          ⟨"operator", "?", 12⟩]) := by
  have hbuild : ∃ l, Language.build "bnf" Bundled.bnf = .ok l ∧ l.hasCategory "blank" ∧
      lexWith ⟨l, []⟩ "<e> ::= 'é'?" (some ["blank"]) =
        .ok [⟨"nonterminal", "<e>", 0⟩, ⟨"definition", "::=", 4⟩, ⟨"terminal", "'é'", 8⟩,
          ⟨"operator", "?", 12⟩] := Language.exists_of_build (by decide +kernel)
  obtain ⟨l, hl, hblank, hlex⟩ := hbuild
  have hp : l.pipeline = none := (Language.built_of_build hl).pipeline_eq
  have hseg := lexWith_eq_iff_segmentation ⟨l, []⟩ (some ["blank"]) "<e> ::= 'é'?" hp
    (by simpa using hblank)
  exact ⟨l, hl, (hseg.1 _).mp hlex⟩

end Lexer

end Lexicon
