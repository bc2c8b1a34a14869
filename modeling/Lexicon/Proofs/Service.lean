import Lexicon.Proofs.Lexer
import Lexicon.Proofs.Registry
import Lexicon.Proofs.Requests

namespace Lexicon

structure Inquiry.Asks (q : Inquiry) (c : Settings) (language text : String) : Prop where
  language_eq : q.language = some language
  text_eq : q.text = some text
  size_le : text.utf8ByteSize ≤ c.server.maxInputBytes

/-- The category is left out of the answer: it is one that the inquiry asks to discard, or, if it
asks for none, one of the settings. -/
def Inquiry.Discards (q : Inquiry) (c : Settings) (language name : String) : Prop :=
  match q.discard with
  | some d => d.Requests name
  | none => name ∈ c.discardFor language

def Inquiry.discarded (q : Inquiry) (c : Settings) (language : String) (w : Walk) : List String :=
  (q.discard.map fun d => w.order d.names).getD (c.discardFor language)

theorem Inquiry.mem_discarded_iff {q : Inquiry} {c : Settings} {language : String} {w : Walk}
    (name : String) : name ∈ q.discarded c language w ↔ q.Discards c language name := by
  unfold discarded Discards
  cases q.discard with
  | none => rfl
  | some d => exact (w.mem_order _ _).trans (d.mem_names_iff name)

namespace Service

/-- What an inquiry gets from a service over a registry: a reply, or a status with a message. -/
inductive Answered (r : Registry) (c : Settings) (q : Inquiry) : Except (Nat × String) Reply → Prop
  | noLanguage :
      q.language = none → Answered r c q (.error (400, "missing required parameter 'language'"))
  | noText {language : String} :
      q.language = some language → q.text = none →
      Answered r c q (.error (400, "missing required parameter 'text'"))
  | tooLong {language text : String} {size limit : Nat} :
      q.language = some language → q.text = some text → text.utf8ByteSize = size →
      c.server.maxInputBytes = limit → limit < size →
      Answered r c q (.error (413, s!"input is {size} bytes, the limit is {limit}"))
  | unknownLanguage {language text : String} :
      q.Asks c language text → r.get? language = none →
      Answered r c q (.error (400, s!"unknown language '{language}'"))
  | unknownCategory {language text name : String} {l : Language} :
      q.Asks c language text → r.get? language = some l → q.Discards c language name →
      l.hasCategory name = false →
      Answered r c q (.error (400, (LexError.configuration (.unknownCategory l.name name)).message))
  | failed {language text : String} {l : Language} {names : List String} {e : LexError} :
      q.Asks c language text → r.get? language = some l →
      (∀ n, n ∈ names ↔ q.Discards c language n) → (∀ n ∈ names, l.hasCategory n) →
      Lexer.lex ⟨l, names⟩ text = .error e →
      Answered r c q (.error (422, e.message))
  | lexed {language text : String} {l : Language} {names : List String} {tokens : List Token} :
      q.Asks c language text → r.get? language = some l →
      (∀ n, n ∈ names ↔ q.Discards c language n) → (∀ n ∈ names, l.hasCategory n) →
      Lexer.lex ⟨l, names⟩ text = .ok tokens →
      Answered r c q (.ok ⟨text, language, tokens,
        Html.render c.render.rawCategories (q.annotate.getD c.render.annotate) tokens⟩)

variable {r : Registry} {c : Settings} {s : Service} {q : Inquiry} {w : Walk}
  {name language text : String}

def entry (r : Registry) (c : Settings) (name : String) : Except LexError (String × Lexer) := do
  let x ← r.lexer name (c.discardFor name)
  return (name, x)

theorem entry_eq_ok_iff {e : String × Lexer} :
    entry r c name = .ok e ↔ e.1 = name ∧ r.lexer name (c.discardFor name) = .ok e.2 := by
  unfold entry
  cases r.lexer name (c.discardFor name) with
  | error _ => simp [bind, Except.bind]
  | ok x => simp [bind, Except.bind, pure, Except.pure, Prod.ext_iff, eq_comm]

theorem start_eq_ok_iff :
    start r c = .ok s ↔ s.registry = r ∧ s.settings = c ∧
      List.Forall₂ (fun name e => entry r c name = .ok e) r.languages s.lexers := by
  rw [← mapM_eq_ok_iff]
  change ((r.languages.mapM (entry r c)).bind fun lexers => .ok ⟨r, c, lexers⟩) = .ok s ↔ _
  cases r.languages.mapM (entry r c) with
  | error e => simp [Except.bind]
  | ok lexers =>
    cases s
    simp [Except.bind, eq_comm]

theorem get?_eq_some_iff {names : List String} {d : Dict Lexer} {x : Lexer}
    (h : List.Forall₂ (fun name e => entry r c name = .ok e) names d) :
    Dict.get? d name = some x ↔ name ∈ names ∧ r.lexer name (c.discardFor name) = .ok x := by
  induction h with
  | nil => simp [Dict.get?]
  | @cons first e names d hentry _ ih =>
    obtain ⟨rfl, hlexer⟩ := entry_eq_ok_iff.mp hentry
    rw [Dict.get?_cons]
    by_cases hname : name = e.1
    · simp [hname, hlexer, eq_comm]
    · simp [hname, ih]

theorem exists_start_iff :
    (∃ s, start r c = .ok s) ↔
      ∀ name l, r.get? name = some l → ∀ n ∈ c.discardFor name, l.hasCategory n := by
  have hlexers : (∃ s, start r c = .ok s) ↔ ∀ name ∈ r.languages, ∃ e, entry r c name = .ok e := by
    rw [← exists_forall₂_iff]
    constructor
    · rintro ⟨s, hs⟩
      exact ⟨s.lexers, (start_eq_ok_iff.mp hs).2.2⟩
    · rintro ⟨d, hd⟩
      exact ⟨⟨r, c, d⟩, start_eq_ok_iff.mpr ⟨rfl, rfl, hd⟩⟩
  have hentry : ∀ name, (∃ e, entry r c name = .ok e) ↔
      ∃ l, r.get? name = some l ∧ ∀ n ∈ c.discardFor name, l.hasCategory n := by
    intro name
    simp only [entry_eq_ok_iff, Registry.lexer_eq_ok_iff]
    constructor
    · rintro ⟨e, -, l, hl, -, hd⟩
      exact ⟨l, hl, hd⟩
    · rintro ⟨l, hl, hd⟩
      exact ⟨(name, ⟨l, c.discardFor name⟩), rfl, l, hl, rfl, hd⟩
  simp only [hlexers, hentry]
  constructor
  · intro h name l hl
    obtain ⟨l', hl', hd⟩ := h name (Dict.mem_names_iff.mpr ⟨l, hl⟩)
    obtain rfl : l = l' := by simpa [hl] using hl'
    exact hd
  · intro h name hname
    obtain ⟨l, hl⟩ := Dict.mem_names_iff.mp hname
    exact ⟨l, hl, h name l hl⟩

theorem get?_lexers (h : start r c = .ok s) (name : String) :
    Dict.get? s.lexers name = (r.get? name).map fun l => ⟨l, c.discardFor name⟩ := by
  have hget : ∀ x, Dict.get? s.lexers name = some x ↔
      name ∈ r.languages ∧ r.lexer name (c.discardFor name) = .ok x :=
    fun x => get?_eq_some_iff (start_eq_ok_iff.mp h).2.2
  cases hl : r.get? name with
  | none =>
    rw [Option.map_none, Option.eq_none_iff_forall_ne_some]
    intro x hx
    obtain ⟨l, hl', -⟩ := Registry.lexer_eq_ok_iff.mp ((hget x).mp hx).2
    simp [hl] at hl'
  | some l =>
    have hdeclared := exists_start_iff.mp ⟨s, h⟩ name l hl
    exact (hget _).mpr ⟨Dict.mem_names_iff.mpr ⟨l, hl⟩,
      Registry.lexer_eq_ok_iff.mpr ⟨l, hl, rfl, hdeclared⟩⟩

theorem answer_of_asks (h : start r c = .ok s) (hq : q.Asks c language text) :
    s.answer q w =
      match r.get? language with
      | none => .error (.unknownLanguage language)
      | some l =>
        match Lexer.lexWith ⟨l, c.discardFor language⟩ text
          (q.discard.map fun d => w.order d.names) with
        | .ok tokens => .ok ⟨text, language, tokens,
            Html.render c.render.rawCategories (q.annotate.getD c.render.annotate) tokens⟩
        | .error e => .error (.lexing e) := by
  have hsettings : s.settings = c := (start_eq_ok_iff.mp h).2.1
  have hsize : ¬ c.server.maxInputBytes < text.utf8ByteSize := Nat.not_lt.mpr hq.size_le
  simp only [answer, demand, hq.language_eq, hq.text_eq, hsettings, hsize, get?_lexers h, bind,
    Except.bind]
  cases r.get? language with
  | none => rfl
  | some l =>
    simp only [Option.map_some]
    cases Lexer.lexWith ⟨l, c.discardFor language⟩ text (q.discard.map fun d => w.order d.names)
    · rfl
    · rfl

theorem lexWith_eq_lex {l : Language} (hd : ∀ n ∈ q.discarded c language w, l.hasCategory n) :
    Lexer.lexWith ⟨l, c.discardFor language⟩ text (q.discard.map fun d => w.order d.names) =
      Lexer.lex ⟨l, q.discarded c language w⟩ text := by
  unfold Inquiry.discarded at hd ⊢
  cases hq : q.discard with
  | none => rfl
  | some d => exact Lexer.lexWith_some (by simpa [hq] using hd)

theorem exists_lexWith_eq_error {l : Language} (text : String)
    (hc : ∀ n ∈ c.discardFor language, l.hasCategory n)
    (hd : ¬ ∀ n ∈ q.discarded c language w, l.hasCategory n) :
    ∃ n ∈ q.discarded c language w, l.hasCategory n = false ∧
      Lexer.lexWith ⟨l, c.discardFor language⟩ text (q.discard.map fun d => w.order d.names) =
        .error (.configuration (.unknownCategory l.name n)) := by
  unfold Inquiry.discarded at hd ⊢
  cases hq : q.discard with
  | none => exact absurd hc (by simpa [hq] using hd)
  | some d =>
    have hnot : ¬ ∀ n ∈ w.order d.names, l.hasCategory n := by simpa [hq] using hd
    simpa [hq] using
      Lexer.exists_lexWith_eq_error (x := ⟨l, c.discardFor language⟩) text hnot

theorem answer_eq_ok_iff {reply : Reply} (h : start r c = .ok s) (hq : q.Asks c language text) :
    s.answer q w = .ok reply ↔
      ∃ tokens, r.Lexes language (q.discarded c language w) text tokens ∧
        reply = ⟨text, language, tokens,
          Html.render c.render.rawCategories (q.annotate.getD c.render.annotate) tokens⟩ := by
  rw [answer_of_asks h hq]
  simp only [Registry.lexes_iff]
  cases hl : r.get? language with
  | none => simp
  | some l =>
    by_cases hd : ∀ n ∈ q.discarded c language w, l.hasCategory n
    · simp only [lexWith_eq_lex hd]
      cases hlex : Lexer.lex ⟨l, q.discarded c language w⟩ text with
      | error e => simp [hlex]
      | ok tokens =>
        constructor
        · rintro ⟨⟩
          exact ⟨tokens, ⟨l, rfl, hd, hlex⟩, rfl⟩
        · rintro ⟨_, ⟨_, ⟨⟩, -, hlex'⟩, rfl⟩
          cases hlex.symm.trans hlex'
          rfl
    · have hc := exists_start_iff.mp ⟨s, h⟩ language l hl
      obtain ⟨n, -, -, heq⟩ := exists_lexWith_eq_error text hc hd
      simp only [heq]
      simp [hd]

theorem status_lexing {l : Language} {e : LexError}
    (h : Lexer.lex ⟨l, q.discarded c language w⟩ text = .error e) :
    (Failure.lexing e).status = 422 := by
  cases e with
  | configuration f => exact absurd h (Lexer.lex_ne_configuration _ _ _)
  | _ => rfl

theorem answered_of_asks (h : start r c = .ok s) (hq : q.Asks c language text) :
    Answered r c q ((s.answer q w).mapError fun f => (f.status, f.message)) := by
  rw [answer_of_asks h hq]
  cases hl : r.get? language with
  | none => exact .unknownLanguage hq hl
  | some l =>
    by_cases hd : ∀ n ∈ q.discarded c language w, l.hasCategory n
    · simp only [lexWith_eq_lex hd]
      cases hlex : Lexer.lex ⟨l, q.discarded c language w⟩ text with
      | ok tokens => exact .lexed hq hl Inquiry.mem_discarded_iff hd hlex
      | error e =>
        have hfailed := Answered.failed hq hl Inquiry.mem_discarded_iff hd hlex
        rwa [← status_lexing hlex] at hfailed
    · have hc := exists_start_iff.mp ⟨s, h⟩ language l hl
      obtain ⟨n, hn, hno, heq⟩ := exists_lexWith_eq_error text hc hd
      simp only [heq]
      exact .unknownCategory hq hl ((Inquiry.mem_discarded_iff n).mp hn) hno

theorem answered (h : start r c = .ok s) (q : Inquiry) (w : Walk) :
    Answered r c q ((s.answer q w).mapError fun f => (f.status, f.message)) := by
  have hsettings : s.settings = c := (start_eq_ok_iff.mp h).2.1
  cases hlanguage : q.language with
  | none =>
    have hmissing : s.answer q w = .error (.missing "language") := by
      simp [answer, demand, hlanguage, bind, Except.bind]
    rw [hmissing]
    exact .noLanguage hlanguage
  | some language =>
    cases htext : q.text with
    | none =>
      have hmissing : s.answer q w = .error (.missing "text") := by
        simp [answer, demand, hlanguage, htext, bind, Except.bind]
      rw [hmissing]
      exact .noText hlanguage htext
    | some text =>
      by_cases hsize : text.utf8ByteSize ≤ c.server.maxInputBytes
      · exact answered_of_asks h ⟨hlanguage, htext, hsize⟩
      · have hlt := Nat.lt_of_not_le hsize
        have hlong : s.answer q w =
            .error (.tooLong text.utf8ByteSize c.server.maxInputBytes) := by
          simp [answer, demand, hlanguage, htext, hsettings, hlt, bind, Except.bind, throw,
            throwThe, MonadExceptOf.throw]
        rw [hlong]
        exact .tooLong hlanguage htext rfl rfl hlt

/-- The service starts exactly if for every language each category to discard is declared, and then
every inquiry is answered as the rules say, in whichever order the names to discard are walked. -/
theorem start_iff_and_answered (r : Registry) (c : Settings) :
    ((∃ s, start r c = .ok s) ↔
      ∀ name l, r.get? name = some l → ∀ n ∈ c.discardFor name, l.hasCategory n) ∧
    ∀ s, start r c = .ok s → ∀ (q : Inquiry) (w : Walk),
      Answered r c q ((s.answer q w).mapError fun f => (f.status, f.message)) :=
  ⟨exists_start_iff, fun _ hs q w => answered hs q w⟩

theorem json_inquiry_answered :
    ∃ l s tokens, Language.build "json" Bundled.json = .ok l ∧
      tokens = [⟨"punctuation", "[", 0⟩, ⟨"number", "1", 1⟩, ⟨"punctuation", "]", 3⟩] ∧
      start (Registry.register [] l) ⟨⟨"", 4⟩, ⟨["punctuation"], true⟩, [("json", ["number"])]⟩ =
        .ok s ∧
      s.answer ⟨some "json", some "[1 ]", some (.joined " blank,"), some false⟩ =
        .ok ⟨"[1 ]", "json", tokens, Html.render ["punctuation"] false tokens⟩ ∧
      Answered (Registry.register [] l) ⟨⟨"", 4⟩, ⟨["punctuation"], true⟩, [("json", ["number"])]⟩
        ⟨some "json", some "[1 ]", some (.joined " blank,"), some false⟩
        (.ok ⟨"[1 ]", "json", tokens, Html.render ["punctuation"] false tokens⟩) := by
  have hbuild : ∃ l, Language.build "json" Bundled.json = .ok l ∧ l.hasCategory "blank" ∧
      l.hasCategory "number" ∧ Lexer.lex ⟨l, ["blank"]⟩ "[1 ]" = .ok [⟨"punctuation", "[", 0⟩,
        ⟨"number", "1", 1⟩, ⟨"punctuation", "]", 3⟩] := Language.exists_of_build (by decide +kernel)
  obtain ⟨l, hl, hblank, hnumber, hlex⟩ := hbuild
  generalize hr : Registry.register [] l = r
  generalize hc : (⟨⟨"", 4⟩, ⟨["punctuation"], true⟩, [("json", ["number"])]⟩ : Settings) = c
  generalize hq : (⟨some "json", some "[1 ]", some (.joined " blank,"), some false⟩ : Inquiry) = q
  have hname : l.name = "json" := (Language.built_of_build hl).name_eq
  have hget : ∀ name, r.get? name = if name = "json" then some l else none := by
    intro name
    rw [← hr, Registry.get?, Registry.register, Dict.get?_insert, hname]
    rfl
  have hdiscard : c.discardFor "json" = ["number"] := by
    simp [← hc, Settings.discardFor, Dict.get?_cons]
  obtain ⟨s, hs⟩ := (start_iff_and_answered r c).1.mpr fun name l' hl' => by
    rw [hget] at hl'
    split at hl'
    · rename_i heq
      cases hl'
      simpa [heq, hdiscard] using hnumber
    · cases hl'
  have hanswered := (start_iff_and_answered r c).2 s hs q .given
  have hlexes : r.Lexes "json" (q.discarded c "json" .given) "[1 ]"
      [⟨"punctuation", "[", 0⟩, ⟨"number", "1", 1⟩, ⟨"punctuation", "]", 3⟩] := by
    have hnames : DiscardParam.splitNames " blank," = ["blank"] := by decide +kernel
    have hdiscarded : q.discarded c "json" .given = ["blank"] := by rw [← hq, ← hnames]; rfl
    rw [hdiscarded]
    exact Registry.lexes_iff.mpr ⟨l, by simp [hget], by simpa using hblank, hlex⟩
  have hanswer := (answer_eq_ok_iff (w := .given) hs (q := q) (by
    subst hq hc
    exact ⟨rfl, rfl, by decide⟩)).mpr ⟨_, hlexes, rfl⟩
  rw [hanswer] at hanswered
  subst hq hc hr
  exact ⟨l, s, _, hl, rfl, hs, hanswer, hanswered⟩

end Service

end Lexicon
