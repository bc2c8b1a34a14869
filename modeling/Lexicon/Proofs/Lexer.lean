import Lexicon.Proofs.Discard
import Lexicon.Proofs.Stability
import Lexicon.Registry

namespace Lexicon

namespace Language

variable {l : Language} {names : List String}

theorem checkCategories_eq_ok_iff :
    l.checkCategories names = .ok () ↔ ∀ n ∈ names, l.hasCategory n := by
  refine ⟨fun h => ?_, checkCategories_eq_ok⟩
  unfold checkCategories at h
  split at h
  · cases h
  · rename_i hnone
    simpa using hnone

theorem exists_of_checkCategories_eq_error {e : Fault} (h : l.checkCategories names = .error e) :
    ∃ n ∈ names, l.hasCategory n = false ∧ e = .unknownCategory l.name n := by
  unfold checkCategories at h
  split at h
  · rename_i n hn
    cases h
    exact ⟨n, List.mem_of_find?_eq_some hn, by simpa using List.find?_some hn, rfl⟩
  · cases h

end Language

namespace Lexer

variable {x y : Lexer} {l : Language} {names : List String} {text : String}

theorem withDiscard_eq_ok_iff :
    withDiscard l names = .ok x ↔ x = ⟨l, names⟩ ∧ ∀ n ∈ names, l.hasCategory n := by
  rw [← Language.checkCategories_eq_ok_iff, withDiscard]
  cases l.checkCategories names with
  | error e => simp
  | ok u => simp [eq_comm]

theorem withDiscard_cases (l : Language) (names : List String) :
    ((∀ n ∈ names, l.hasCategory n) ∧ withDiscard l names = .ok ⟨l, names⟩) ∨
      ((¬ ∀ n ∈ names, l.hasCategory n) ∧ ∃ e, withDiscard l names = .error e) := by
  by_cases hnames : ∀ n ∈ names, l.hasCategory n
  · exact .inl ⟨hnames, withDiscard_eq_ok_iff.mpr ⟨rfl, hnames⟩⟩
  · refine .inr ⟨hnames, ?_⟩
    cases h : withDiscard l names with
    | ok x => exact absurd (withDiscard_eq_ok_iff.mp h).2 hnames
    | error e => exact ⟨e, rfl⟩

theorem discard_eq_ok_iff {category : String} :
    x.discard category = .ok y ↔
      y = ⟨x.language, category :: x.discarded⟩ ∧ x.language.hasCategory category := by
  unfold discard
  split
  · rename_i h
    simp [h, eq_comm]
  · rename_i h
    simp [h]

theorem lexWith_some (h : ∀ n ∈ names, x.language.hasCategory n) :
    x.lexWith text (some names) = lex ⟨x.language, names⟩ text := by
  rw [lex, lexWith_eq_scan_reshape (by simpa using h), lexWith_eq_scan_reshape (by simp)]
  rfl

theorem exists_lexWith_eq_error (text : String) (h : ¬ ∀ n ∈ names, x.language.hasCategory n) :
    ∃ n ∈ names, x.language.hasCategory n = false ∧
      x.lexWith text (some names) =
        .error (.configuration (.unknownCategory x.language.name n)) := by
  cases hcheck : x.language.checkCategories names with
  | ok u => exact absurd (Language.checkCategories_eq_ok_iff.mp hcheck) h
  | error e =>
    obtain ⟨n, hn, hno, rfl⟩ := Language.exists_of_checkCategories_eq_error hcheck
    refine ⟨n, hn, hno, ?_⟩
    simp [lexWith, hcheck, Except.mapError, bind, Except.bind]

theorem lex_congr {others : List String} (h : ∀ n, n ∈ names ↔ n ∈ others) :
    lex ⟨l, names⟩ text = lex ⟨l, others⟩ text := by
  have hwithout : ∀ tokens, Token.without names tokens = Token.without others tokens := by
    intro tokens
    simp only [Token.without, h]
  rw [lex, lex, lexWith_eq_scan_reshape (by simp), lexWith_eq_scan_reshape (by simp)]
  simp only [Option.getD_none, l.scan_eq_map_without names, l.scan_eq_map_without others]
  cases l.scan [] text with
  | error e => rfl
  | ok tokens => simp only [Except.map, hwithout]

/-- Which of the unknown categories a call names is open, if there are several; nothing else is. -/
theorem lexWith_congr (x : Lexer) (text : String) {others : List String}
    (h : ∀ n, n ∈ names ↔ n ∈ others) :
    x.lexWith text (some names) = x.lexWith text (some others) ∨
      ∃ m ∈ names, ∃ n ∈ names, m ≠ n ∧ x.language.hasCategory m = false ∧
        x.language.hasCategory n = false ∧
        x.lexWith text (some names) =
          .error (.configuration (.unknownCategory x.language.name m)) ∧
        x.lexWith text (some others) =
          .error (.configuration (.unknownCategory x.language.name n)) := by
  by_cases hall : ∀ n ∈ names, x.language.hasCategory n
  · refine .inl ?_
    rw [lexWith_some hall, lexWith_some fun n hn => hall n ((h n).mpr hn), lex_congr h]
  · have hothers : ¬ ∀ n ∈ others, x.language.hasCategory n :=
      fun hall' => hall fun n hn => hall' n ((h n).mp hn)
    obtain ⟨m, hm, hunknown, heq⟩ := exists_lexWith_eq_error text hall
    obtain ⟨n, hn, hunknown', heq'⟩ := exists_lexWith_eq_error text hothers
    by_cases hmn : m = n
    · exact .inl (by rw [heq, heq', hmn])
    · exact .inr ⟨m, hm, n, (h n).mpr hn, hmn, hunknown, hunknown', heq, heq'⟩

theorem lex_ne_configuration (x : Lexer) (text : String) (e : Fault) :
    x.lex text ≠ .error (.configuration e) := by
  intro h
  rw [lex, lexWith_eq_scan_reshape (by simp)] at h
  cases hscan : x.language.scan x.discarded text with
  | error e' =>
    have hfrom := (Language.scan_eq_iff.mp hscan).from_of_eq_error rfl
    simp only [Option.getD_none, hscan, Except.bind, Except.error.injEq] at h
    subst h
    exact hfrom
  | ok tokens =>
    simp only [Option.getD_none, hscan] at h
    obtain ⟨r, hr⟩ := Language.exists_refused_of_reshape h
    cases hr

end Lexer

namespace Registry

variable {r : Registry} {name text : String} {names : List String} {x : Lexer}
  {tokens : List Token}

theorem lexer_eq_ok_iff :
    r.lexer name names = .ok x ↔
      ∃ l, r.get? name = some l ∧ x = ⟨l, names⟩ ∧ ∀ n ∈ names, l.hasCategory n := by
  unfold lexer
  cases r.get? name with
  | none => simp
  | some l => simp [Lexer.withDiscard_eq_ok_iff]

def Lexes (r : Registry) (name : String) (names : List String) (text : String)
    (tokens : List Token) : Prop :=
  ∃ x, r.lexer name names = .ok x ∧ x.lex text = .ok tokens

theorem lexes_iff :
    r.Lexes name names text tokens ↔
      ∃ l, r.get? name = some l ∧ (∀ n ∈ names, l.hasCategory n) ∧
        Lexer.lex ⟨l, names⟩ text = .ok tokens := by
  simp only [Lexes, lexer_eq_ok_iff]
  constructor
  · rintro ⟨_, ⟨l, hl, rfl, hd⟩, hlex⟩
    exact ⟨l, hl, hd, hlex⟩
  · rintro ⟨l, hl, hd, hlex⟩
    exact ⟨_, ⟨l, hl, rfl, hd⟩, hlex⟩

theorem lexes_congr {others : List String} (h : ∀ n, n ∈ names ↔ n ∈ others) :
    r.Lexes name names text tokens ↔ r.Lexes name others text tokens := by
  simp only [lexes_iff, h, Lexer.lex_congr h]

end Registry

end Lexicon
