import Lexicon.Bundled
import Lexicon.Proofs.Segmentation
import Lexicon.Proofs.Stage.Pipeline

namespace Lexicon

def Token.without (names : List String) (tokens : List Token) : List Token :=
  tokens.filter (·.category ∉ names)

open Token

theorem Segmentation.without {l : Language} {start : Nat} {text : List Char}
    {result : Except LexError (List Token)} (names : List String)
    (h : Segmentation l [] start text result) :
    Segmentation l names start text (result.map (without names)) := by
  induction h with
  | done => exact .done
  | unlexable hne hno => exact .unlexable hne hno
  | wrong hn hc hw => exact .wrong hn hc hw
  | @word start n text category rest hn hc hw _ ih =>
    have hword := Segmentation.word hn hc hw ih
    cases rest with
    | error e => simpa [Except.map] using hword
    | ok tokens =>
      by_cases hd : category ∈ names
      · simpa [Except.map, Token.without, hd] using hword
      · simpa [Except.map, Token.without, hd] using hword

namespace Language

theorem scan_eq_map_without (l : Language) (names : List String) (text : String) :
    l.scan names text = (l.scan [] text).map (without names) :=
  scan_eq_iff.mpr ((l.segmentation_scan [] text).without names)

end Language

namespace Lexer

theorem lexWith_eq_of_declared (x : Lexer) (names : Option (List String))
    (h : ∀ n ∈ names.getD x.discarded, x.language.hasCategory n) (text : String) :
    x.lexWith text names =
      ((x.language.scan [] text).map (without (names.getD x.discarded))).bind
        x.language.reshape := by
  rw [lexWith_eq_scan_reshape, x.language.scan_eq_map_without]
  rintro ns rfl
  exact h

/-- Whatever the lexer and the call discard, a text is scanned as if nothing were, the tokens of the
discarded categories are dropped, and the rest is reshaped. Before the stages nothing fails in
another way, and without stages the result is a part of the one with nothing discarded. -/
theorem lexWith_eq_reshape_without (x : Lexer) (names : List String) (text : String)
    (h : ∀ n ∈ names, x.language.hasCategory n) :
    x.language.scan names text = (x.language.scan [] text).map (without names) ∧
    x.lexWith text (some names) =
      ((x.language.scan [] text).map (without names)).bind x.language.reshape ∧
    (∀ e, (∀ r, e ≠ .refused r) →
      (x.lexWith text (some names) = .error e ↔ x.language.scan [] text = .error e)) ∧
    (x.language.pipeline = none →
      x.lexWith text (some names) = (x.lexWith text (some [])).map (without names)) := by
  have hscan := x.language.scan_eq_map_without names text
  have hlex : x.lexWith text (some names) =
      ((x.language.scan [] text).map (without names)).bind x.language.reshape :=
    lexWith_eq_of_declared x (some names) h text
  refine ⟨hscan, hlex, fun e he => ?_, fun hp => ?_⟩
  · rw [hlex]
    cases x.language.scan [] text with
    | error e' => rfl
    | ok tokens =>
      refine ⟨fun hr => ?_, fun hr => by cases hr⟩
      obtain ⟨r, rfl⟩ := Language.exists_refused_of_reshape hr
      exact absurd rfl (he r)
  · rw [lexWith_eq_scan hp (by simpa using h), lexWith_eq_scan hp (by simp)]
    exact hscan

theorem json_wrong_discarded :
    ∃ l, Language.build "json" Bundled.json = .ok l ∧ l.hasCategory "malformed_number" ∧
      lexWith ⟨l, ["blank"]⟩ "é" (some ["malformed_number"]) = .error (.unlexable 0 "é") ∧
      lexWith ⟨l, ["blank"]⟩ "[ 3." (some ["malformed_number"]) =
        .error (.wrongCategory "malformed_number" "3." 2) := by
  have hbuild : ∃ l, Language.build "json" Bundled.json = .ok l ∧
      l.hasCategory "malformed_number" ∧ l.scan [] "é" = .error (.unlexable 0 "é") ∧
      l.scan [] "[ 3." = .error (.wrongCategory "malformed_number" "3." 2) :=
    Language.exists_of_build (by decide +kernel)
  obtain ⟨l, hl, hcategory, hstuck, hwrong⟩ := hbuild
  have hfilter := fun text => lexWith_eq_reshape_without ⟨l, ["blank"]⟩ ["malformed_number"] text
    (by simpa using hcategory)
  exact ⟨l, hl, hcategory, ((hfilter "é").2.2.1 _ (by simp)).mpr hstuck,
    ((hfilter "[ 3.").2.2.1 _ (by simp)).mpr hwrong⟩

end Lexer

theorem Lexer.exists_scan_of_lexWith {x : Lexer} {text : String} {names : Option (List String)}
    {tokens : List Token} (h : x.lexWith text names = .ok tokens) :
    ∃ scanned, x.language.scan [] text = .ok scanned ∧
      x.language.reshape (without (names.getD x.discarded) scanned) = .ok tokens := by
  have hbind : (x.language.scan (names.getD x.discarded) text).bind x.language.reshape =
      .ok tokens := by
    cases names with
    | none => exact h
    | some ns =>
      cases hc : x.language.checkCategories ns with
      | error e => simp [lexWith, hc, Except.mapError, bind, Except.bind] at h
      | ok u =>
        simp only [lexWith, hc] at h
        exact h
  rw [x.language.scan_eq_map_without] at hbind
  cases hscan : x.language.scan [] text with
  | error e => simp [hscan, Except.map, Except.bind] at hbind
  | ok scanned =>
    rw [hscan] at hbind
    exact ⟨scanned, rfl, hbind⟩

theorem Lexer.writes_of_mem_discarded {x : Lexer} {text : String} {names : Option (List String)}
    {tokens : List Token} {t : Token} (h : x.lexWith text names = .ok tokens) (ht : t ∈ tokens)
    (hd : t.category ∈ names.getD x.discarded) : x.language.Writes t.category := by
  obtain ⟨scanned, -, hreshape⟩ := exists_scan_of_lexWith h
  by_contra hw
  have hkept : ∀ u ∈ without (names.getD x.discarded) scanned, u.category ≠ t.category := by
    intro u hu heq
    have hnot := (List.mem_filter.mp hu).2
    simp only [heq, decide_eq_true_eq] at hnot
    exact hnot hd
  exact Language.not_mem_of_not_writes hw hkept hreshape t ht rfl

end Lexicon
