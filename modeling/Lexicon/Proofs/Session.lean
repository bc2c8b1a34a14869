import Lexicon.Proofs.Lexer
import Lexicon.Proofs.Registry
import Lexicon.Session

/-!
Whole runs of a session. The commands given so far, the latest first, tell which language stands
under a name and which lexer in a slot: a lexer is what it was made as, with the categories that
were added since to it or to the lexer that it is a copy of. Nothing else counts, neither what
happens to the registry nor to other lexers, and a command that fails counts for nothing.
-/

namespace Lexicon

namespace Session

namespace Answer

def isFailure : Answer → Bool
  | notDiscarded _ _ => true
  | failed _ => true
  | noLanguage => true
  | noSlot => true
  | _ => false

def ofLex : Except LexError (List Token) → Answer
  | .ok ts => tokens ts
  | .error e => failed e

theorem ofLex_eq_failed_iff {r : Except LexError (List Token)} {e : LexError} :
    ofLex r = failed e ↔ r = .error e := by
  cases r <;> simp [ofLex]

end Answer

namespace Command

inductive Makes : Command → String → String → List String → Prop
  | lexer (slot name : String) (names : List String) :
    Makes (.lexer slot name names) slot name names
  | withDiscard (slot name : String) (names : List String) :
    Makes (.withDiscard slot name names) slot name names
  | plainLexer (slot name : String) : Makes (.plainLexer slot name) slot name []

inductive Writes : Command → String → Prop
  | made {c : Command} {slot name : String} {names : List String} (h : c.Makes slot name names) :
    Writes c slot
  | copy (source slot : String) : Writes (.copy source slot) slot
  | discard (slot category : String) : Writes (.discard slot category) slot

inductive Settles : Command → String → Prop
  | clear (name : String) : Settles .clear name
  | bundled (name : String) : Settles .bundled name
  | register (name : String) (clauses : List Clause) : Settles (.register name clauses) name

end Command

def lexer? (s : Session) (slot : String) : Option Lexer := (Dict.get? s.lexers slot).map (·.2)

def Fails (s : Session) (c : Command) : Prop := (s.step c).2.isFailure

/-! One step -/

section Step

variable {s : Session} {c : Command} {slot source name category : String} {names : List String}

@[simp] theorem lexer?_put (s : Session) (slot other : String) (x : Nat × Lexer) :
    (s.put slot x).lexer? other = if other = slot then some x.2 else s.lexer? other := by
  simp only [lexer?, put, Dict.get?_insert]
  split <;> rfl

@[simp] theorem isFailure_discarded (x : Lexer) : (discarded x).isFailure = false := rfl

theorem withSlot_eq (s : Session) (slot : String) (f : Nat × Lexer → Session × Answer) :
    (s.lexer? slot = none ∧ s.withSlot slot f = (s, .noSlot)) ∨
      ∃ k x, s.lexer? slot = some x ∧ s.withSlot slot f = f (k, x) := by
  unfold withSlot lexer?
  cases Dict.get? s.lexers slot with
  | none => exact .inl ⟨rfl, rfl⟩
  | some e => exact .inr ⟨e.1, e.2, rfl, rfl⟩

theorem step_of_makes (s : Session) (h : c.Makes slot name names) :
    (∃ l k, s.registry.get? name = some l ∧ (∀ n ∈ names, l.hasCategory n) ∧
        s.step c = (s.put slot (k, ⟨l, names⟩), discarded ⟨l, names⟩)) ∨
      ((¬ ∃ l, s.registry.get? name = some l ∧ ∀ n ∈ names, l.hasCategory n) ∧
        ∃ a, a.isFailure ∧ s.step c = (s, a)) := by
  cases h with
  | lexer =>
    simp only [step, Registry.lexer]
    cases s.registry.get? name with
    | none => exact .inr ⟨by simp, _, rfl, rfl⟩
    | some l =>
      rcases Lexer.withDiscard_cases l names with ⟨hnames, heq⟩ | ⟨hnames, e, heq⟩
      · simp only [heq]
        exact .inl ⟨l, _, rfl, hnames, rfl⟩
      · simp only [heq]
        exact .inr ⟨by simpa using hnames, .failed e, rfl, rfl⟩
  | withDiscard =>
    simp only [step]
    cases s.registry.get? name with
    | none => exact .inr ⟨by simp, .noLanguage, rfl, rfl⟩
    | some l =>
      rcases Lexer.withDiscard_cases l names with ⟨hnames, heq⟩ | ⟨hnames, e, heq⟩
      · simp only [heq]
        exact .inl ⟨l, _, rfl, hnames, rfl⟩
      · simp only [heq]
        exact .inr ⟨by simpa using hnames, .failed e, rfl, rfl⟩
  | plainLexer =>
    simp only [step]
    cases s.registry.get? name with
    | none => exact .inr ⟨by simp, .noLanguage, rfl, rfl⟩
    | some l => exact .inl ⟨l, _, rfl, by simp, rfl⟩

theorem step_copy (s : Session) (source slot : String) :
    (s.lexer? source = none ∧ s.step (.copy source slot) = (s, .noSlot)) ∨
      ∃ k x, s.lexer? source = some x ∧
        s.step (.copy source slot) = (s.put slot (k, x), discarded x) :=
  s.withSlot_eq source _

theorem step_discard (s : Session) (slot category : String) :
    (∃ x k, s.lexer? slot = some x ∧ x.language.hasCategory category ∧
        s.step (.discard slot category) =
          (s.put slot (k, ⟨x.language, category :: x.discarded⟩),
            discarded ⟨x.language, category :: x.discarded⟩)) ∨
      ((¬ ∃ x, s.lexer? slot = some x ∧ x.language.hasCategory category) ∧
        ∃ a, a.isFailure ∧ s.step (.discard slot category) = (s, a)) := by
  simp only [step]
  rcases s.withSlot_eq slot _ with ⟨hnone, heq⟩ | ⟨k, x, hx, heq⟩
  · rw [heq, hnone]
    exact .inr ⟨by simp, .noSlot, rfl, rfl⟩
  · rw [heq, hx]
    cases h : x.discard category with
    | ok y =>
      obtain ⟨rfl, hcategory⟩ := Lexer.discard_eq_ok_iff.mp h
      exact .inl ⟨x, k, rfl, hcategory, rfl⟩
    | error e =>
      refine .inr ⟨?_, .notDiscarded _ e, rfl, rfl⟩
      rintro ⟨y, hy, hcategory⟩
      cases hy
      cases h.symm.trans (Lexer.discard_eq_ok_iff.mpr ⟨rfl, hcategory⟩)

theorem step_lex (s : Session) (slot text : String) (names : Option (List String)) :
    s.step (.lex slot text names) =
      (s, ((s.lexer? slot).map fun x => Answer.ofLex (x.lexWith text names)).getD .noSlot) := by
  simp only [step]
  rcases s.withSlot_eq slot _ with ⟨hnone, heq⟩ | ⟨k, x, hx, heq⟩
  · rw [heq, hnone]
    rfl
  · rw [heq, hx]
    cases h : x.lexWith text names <;> simp [h, Answer.ofLex]

theorem registry_foldl_register (s : Session) (languages : List Language) :
    (languages.foldl register s).registry = languages.foldl Registry.register s.registry := by
  induction languages generalizing s with
  | nil => rfl
  | cons l languages ih => exact ih (s.register l)

theorem lexers_foldl_register (s : Session) (languages : List Language) :
    (languages.foldl register s).lexers = s.lexers := by
  induction languages generalizing s with
  | nil => rfl
  | cons l languages ih => exact ih (s.register l)

theorem get?_registry_bundled (s : Session) (name : String) :
    (s.step .bundled).1.registry.get? name = Bundled.registry.get? name := by
  simp only [step, registry_foldl_register]
  rw [Bundled.filed_registry.get?_foldl_register]
  exact Option.or_none

theorem step_register_of_ok {clauses : List Clause} {l : Language} (s : Session)
    (h : Language.build name clauses = .ok l) :
    s.step (.register name clauses) =
      (s.register l, .languages (s.register l).registry.languages) := by
  simp only [step, h]

/-- What a command may do to a session. It changes something only if it succeeds. -/
inductive Outcome (s : Session) (c : Command) : Session × Answer → Prop
  | unchanged (a : Answer) : Outcome s c (s, a)
  | put {slot : String} {a : Answer} (x : Nat × Lexer) (hwrites : c.Writes slot)
    (h : a.isFailure = false) : Outcome s c (s.put slot x, a)
  | settled {s' : Session} {a : Answer} (hlexers : s'.lexers = s.lexers)
    (hregistry : ∀ name, ¬ c.Settles name → s'.registry.get? name = s.registry.get? name)
    (hfiled : s.registry.Filed → s'.registry.Filed) (h : a.isFailure = false) : Outcome s c (s', a)

theorem outcome_of_makes (s : Session) (h : c.Makes slot name names) : s.Outcome c (s.step c) := by
  rcases s.step_of_makes h with ⟨l, k, -, -, heq⟩ | ⟨-, a, -, heq⟩
  · exact heq ▸ .put _ (.made h) rfl
  · exact heq ▸ .unchanged a

theorem outcome_withSlot {f : Nat × Lexer → Session × Answer} (hf : ∀ x, s.Outcome c (f x)) :
    s.Outcome c (s.withSlot slot f) := by
  rcases s.withSlot_eq slot f with ⟨-, heq⟩ | ⟨k, x, -, heq⟩
  · exact heq ▸ .unchanged .noSlot
  · exact heq ▸ hf (k, x)

theorem outcome_step (s : Session) (c : Command) : s.Outcome c (s.step c) := by
  cases c with
  | clear =>
    exact .settled rfl (fun name h => absurd (.clear name) h) (fun _ => Registry.filed_nil) rfl
  | bundled =>
    refine .settled (lexers_foldl_register _ _) (fun name h => absurd (.bundled name) h)
      (fun _ => ?_) rfl
    rw [registry_foldl_register]
    exact Registry.filed_nil.foldl_register _
  | register name clauses =>
    cases h : Language.build name clauses with
    | error e =>
      simp only [step, h]
      exact .unchanged _
    | ok l =>
      rw [step_register_of_ok s h]
      refine .settled rfl (fun other hother => ?_) (fun hfiled => hfiled.register l) rfl
      have hne : other ≠ l.name := by
        rintro rfl
        exact hother ((Language.built_of_build h).name_eq ▸ .register name clauses)
      exact (s.registry.get?_register l other).trans (if_neg hne)
  | lexer slot name names => exact s.outcome_of_makes (.lexer slot name names)
  | withDiscard slot name names => exact s.outcome_of_makes (.withDiscard slot name names)
  | plainLexer slot name => exact s.outcome_of_makes (.plainLexer slot name)
  | copy source slot => exact outcome_withSlot fun x => .put x (.copy source slot) rfl
  | discard slot category =>
    rcases s.step_discard slot category with ⟨x, k, -, -, heq⟩ | ⟨-, a, -, heq⟩
    · exact heq ▸ .put _ (.discard slot category) rfl
    · exact heq ▸ .unchanged a
  | has name => exact .unchanged _
  | get name => exact .unchanged _
  | lex slot text names => exact s.step_lex slot text names ▸ .unchanged _
  | render slot text raw annotate =>
    refine outcome_withSlot fun x => ?_
    dsimp only
    split <;> exact .unchanged _
  | check slot names =>
    refine outcome_withSlot fun x => ?_
    dsimp only
    split <;> exact .unchanged _
  | sameLanguage slot other =>
    exact outcome_withSlot fun x => outcome_withSlot fun y => .unchanged _

namespace Outcome

variable {p : Session × Answer}

theorem fst_eq (h : s.Outcome c p) (hfails : p.2.isFailure) : p.1 = s := by
  cases h with
  | unchanged a => rfl
  | put x hwrites ha => cases ha.symm.trans hfails
  | settled hlexers hregistry hfiled ha => cases ha.symm.trans hfails

theorem lexer?_eq (h : s.Outcome c p) (hkept : c.Writes slot → p.2.isFailure) :
    p.1.lexer? slot = s.lexer? slot := by
  cases h with
  | unchanged a => rfl
  | put x hwrites ha =>
    rw [lexer?_put, if_neg]
    rintro rfl
    cases ha.symm.trans (hkept hwrites)
  | settled hlexers hregistry hfiled ha => simp only [lexer?, hlexers]

theorem get?_eq (h : s.Outcome c p) (hkept : c.Settles name → p.2.isFailure) :
    p.1.registry.get? name = s.registry.get? name := by
  cases h with
  | unchanged a => rfl
  | put x hwrites ha => rfl
  | settled hlexers hregistry hfiled ha =>
    exact hregistry name fun hsettles => nomatch ha.symm.trans (hkept hsettles)

theorem filed (h : s.Outcome c p) (hs : s.registry.Filed) : p.1.registry.Filed := by
  cases h with
  | unchanged a => exact hs
  | put x hwrites ha => exact hs
  | settled hlexers hregistry hfiled ha => exact hfiled hs

end Outcome

theorem fails_makes_iff (s : Session) (h : c.Makes slot name names) :
    s.Fails c ↔ ¬ ∃ l, s.registry.get? name = some l ∧ ∀ n ∈ names, l.hasCategory n := by
  unfold Fails
  rcases s.step_of_makes h with ⟨l, k, hl, hnames, heq⟩ | ⟨hnone, a, ha, heq⟩
  · simpa [heq] using ⟨l, hl, hnames⟩
  · simpa [heq, ha] using hnone

theorem fails_discard_iff (s : Session) (slot category : String) :
    s.Fails (.discard slot category) ↔
      ¬ ∃ x, s.lexer? slot = some x ∧ x.language.hasCategory category := by
  unfold Fails
  rcases s.step_discard slot category with ⟨x, k, hx, hcategory, heq⟩ | ⟨hnone, a, ha, heq⟩
  · simpa [heq] using ⟨x, hx, hcategory⟩
  · simpa [heq, ha] using hnone

theorem lexer?_makes (h : c.Makes slot name names) (hs : ¬ s.Fails c) :
    (s.step c).1.lexer? slot = (s.registry.get? name).map fun l => ⟨l, names⟩ := by
  rcases s.step_of_makes h with ⟨l, k, hl, -, heq⟩ | ⟨-, a, ha, heq⟩
  · simp [heq, hl]
  · exact absurd (by simpa [Fails, heq] using ha) hs

theorem lexer?_copy (hs : ¬ s.Fails (.copy source slot)) :
    (s.step (.copy source slot)).1.lexer? slot = s.lexer? source := by
  rcases s.step_copy source slot with ⟨-, heq⟩ | ⟨k, x, hx, heq⟩
  · exact absurd (by simp [Fails, heq, Answer.isFailure]) hs
  · simp [heq, hx]

theorem lexer?_discard (hs : ¬ s.Fails (.discard slot category)) :
    (s.step (.discard slot category)).1.lexer? slot =
      (s.lexer? slot).map fun x => ⟨x.language, category :: x.discarded⟩ := by
  rcases s.step_discard slot category with ⟨x, k, hx, -, heq⟩ | ⟨-, a, ha, heq⟩
  · simp [heq, hx]
  · exact absurd (by simpa [Fails, heq] using ha) hs

end Step

/-! Whole runs -/

def after : List Command → Session
  | [] => {}
  | c :: past => ((after past).step c).1

inductive Registered : List Command → String → Language → Prop
  | register {past : List Command} {name : String} {clauses : List Clause} {l : Language}
    (h : Language.build name clauses = .ok l) : Registered (.register name clauses :: past) name l
  | bundled {past : List Command} {name : String} {l : Language}
    (h : Bundled.registry.get? name = some l) : Registered (.bundled :: past) name l
  | kept {c : Command} {past : List Command} {name : String} {l : Language}
    (h : Registered past name l) (hc : c.Settles name → (after past).Fails c) :
    Registered (c :: past) name l

/-- The language for which the lexer in a slot was made, and the categories that were named then
or added since, the latter also before the lexer was copied. -/
inductive Lineage : List Command → String → Language → List String → Prop
  | made {c : Command} {past : List Command} {slot name : String} {names : List String}
    {l : Language} (hc : c.Makes slot name names) (hs : ¬ (after past).Fails c)
    (hl : Registered past name l) : Lineage (c :: past) slot l names
  | copied {past : List Command} {source slot : String} {l : Language} {names : List String}
    (h : Lineage past source l names) : Lineage (.copy source slot :: past) slot l names
  | discarded {past : List Command} {slot category : String} {l : Language} {names : List String}
    (h : Lineage past slot l names) (hs : ¬ (after past).Fails (.discard slot category)) :
    Lineage (.discard slot category :: past) slot l (category :: names)
  | kept {c : Command} {past : List Command} {slot : String} {l : Language} {names : List String}
    (h : Lineage past slot l names) (hc : c.Writes slot → (after past).Fails c) :
    Lineage (c :: past) slot l names

section Run

variable {past : List Command} {slot name : String} {l : Language} {names : List String}

theorem filed_after (past : List Command) : (after past).registry.Filed := by
  induction past with
  | nil => exact Registry.filed_nil
  | cons c past ih => exact ((after past).outcome_step c).filed ih

theorem Registered.get?_eq (h : Registered past name l) :
    (after past).registry.get? name = some l := by
  induction h with
  | @register past name clauses l h =>
    have hname := (Language.built_of_build h).name_eq
    rw [after, step_register_of_ok _ h]
    exact (Registry.get?_register _ _ _).trans (if_pos hname.symm)
  | @bundled past name l h => exact (get?_registry_bundled (after past) name).trans h
  | @kept c past name l h hc ih => exact (((after past).outcome_step c).get?_eq hc).trans ih

theorem registered_of_get? (h : (after past).registry.get? name = some l) :
    Registered past name l := by
  induction past with
  | nil => cases h
  | cons c past ih =>
    by_cases hc : c.Settles name → (after past).Fails c
    · exact .kept (ih ((((after past).outcome_step c).get?_eq hc).symm.trans h)) hc
    · obtain ⟨hsettles, hs⟩ := Classical.not_imp.mp hc
      cases hsettles with
      | clear => cases h
      | bundled => exact .bundled ((get?_registry_bundled (after past) name).symm.trans h)
      | register _ clauses =>
        cases hbuild : Language.build name clauses with
        | error e => exact absurd (by simp [Fails, step, hbuild, Answer.isFailure]) hs
        | ok l' =>
          have hnew : Registered (.register name clauses :: past) name l' := .register hbuild
          cases hnew.get?_eq.symm.trans h
          exact hnew

theorem get?_after_iff : (after past).registry.get? name = some l ↔ Registered past name l :=
  ⟨registered_of_get?, Registered.get?_eq⟩

theorem Lineage.lexer?_eq (h : Lineage past slot l names) :
    (after past).lexer? slot = some ⟨l, names⟩ := by
  induction h with
  | made hc hs hl => simp [after, lexer?_makes hc hs, hl.get?_eq]
  | @copied past source slot l names h ih =>
    rcases (after past).step_copy source slot with ⟨hnone, -⟩ | ⟨k, x, hx, heq⟩
    · cases hnone.symm.trans ih
    · cases hx.symm.trans ih
      simp [after, heq]
  | discarded h hs ih => simp [after, lexer?_discard hs, ih]
  | @kept c past slot l names h hc ih =>
    exact (((after past).outcome_step c).lexer?_eq hc).trans ih

theorem lineage_of_lexer? (h : (after past).lexer? slot = some ⟨l, names⟩) :
    Lineage past slot l names := by
  induction past generalizing slot l names with
  | nil => cases h
  | cons c past ih =>
    by_cases hc : c.Writes slot → (after past).Fails c
    · exact .kept (ih ((((after past).outcome_step c).lexer?_eq hc).symm.trans h)) hc
    · obtain ⟨hwrites, hs⟩ := Classical.not_imp.mp hc
      rw [after] at h
      cases hwrites with
      | made hmakes =>
        rw [lexer?_makes hmakes hs] at h
        obtain ⟨l', hl, heq⟩ := Option.map_eq_some_iff.mp h
        cases heq
        exact .made hmakes hs (registered_of_get? hl)
      | copy source =>
        rw [lexer?_copy hs] at h
        exact .copied (ih h)
      | discard _ category =>
        rw [lexer?_discard hs] at h
        obtain ⟨x, hx, heq⟩ := Option.map_eq_some_iff.mp h
        cases heq
        exact .discarded (ih hx) hs

theorem lexer?_after_iff {x : Lexer} :
    (after past).lexer? slot = some x ↔ Lineage past slot x.language x.discarded :=
  ⟨lineage_of_lexer?, Lineage.lexer?_eq⟩

theorem Lineage.hasCategory (h : Lineage past slot l names) : ∀ n ∈ names, l.hasCategory n := by
  induction h with
  | @made c past slot name names l hc hs hl =>
    rw [fails_makes_iff _ hc, not_not] at hs
    obtain ⟨l', hl', hnames⟩ := hs
    cases hl.get?_eq.symm.trans hl'
    exact hnames
  | copied h ih => exact ih
  | @discarded past slot category l names h hs ih =>
    rw [fails_discard_iff, not_not] at hs
    obtain ⟨x, hx, hcategory⟩ := hs
    cases h.lexer?_eq.symm.trans hx
    exact List.forall_mem_cons.mpr ⟨hcategory, ih⟩
  | kept h hc ih => exact ih

theorem run_append (s : Session) (commands rest : List Command) :
    s.run (commands ++ rest) =
      s.run commands ++ (commands.foldl (fun s c => (s.step c).1) s).run rest := by
  induction commands generalizing s with
  | nil => rfl
  | cons c commands ih => simp [run, ih]

theorem foldl_reverse (past : List Command) :
    past.reverse.foldl (fun s c => (s.step c).1) {} = after past := by
  induction past with
  | nil => rfl
  | cons c past ih => simp [after, ih]

theorem length_run (s : Session) (commands : List Command) :
    (s.run commands).length = commands.length := by
  induction commands generalizing s with
  | nil => rfl
  | cons c commands ih => simp [run, ih]

theorem getElem?_run (past : List Command) (c : Command) (rest : List Command) :
    (run {} (past.reverse ++ c :: rest))[past.length]? = some ((after past).step c).2 := by
  have hlength : past.length = (run {} past.reverse).length := by simp [length_run]
  rw [run_append, foldl_reverse, hlength, List.getElem?_append_right le_rfl, Nat.sub_self]
  rfl

end Run

/-- What a session shows after some commands is what these account for. -/
structure Accounted (past : List Command) : Prop where
  /-- The next command of a run meets the session that the past commands left behind. -/
  answer (c : Command) (rest : List Command) :
    (run {} (past.reverse ++ c :: rest))[past.length]? = some ((after past).step c).2
  unchanged (c : Command) : (after past).Fails c → after (c :: past) = after past
  language (name : String) (l : Language) :
    (after past).registry.get? name = some l ↔ Registered past name l
  listed (name : String) : name ∈ (after past).registry.languages ↔ ∃ l, Registered past name l
  ascending : (after past).registry.languages.Pairwise (· < ·)
  lexer (slot : String) (x : Lexer) :
    (after past).lexer? slot = some x ↔ Lineage past slot x.language x.discarded
  declared (slot : String) (l : Language) (names : List String) :
    Lineage past slot l names → ∀ n ∈ names, l.hasCategory n
  makes (c : Command) (slot name : String) (names : List String) : c.Makes slot name names →
    ((after past).Fails c ↔ ¬ ∃ l, Registered past name l ∧ ∀ n ∈ names, l.hasCategory n)
  discards (slot category : String) : (after past).Fails (.discard slot category) ↔
    ¬ ∃ l names, Lineage past slot l names ∧ l.hasCategory category
  /-- A lexer answers like a new one for its language that leaves out the same categories. -/
  lex (slot : String) (l : Language) (names : List String) : Lineage past slot l names →
    ∃ x, Lexer.withDiscard l names = .ok x ∧ ∀ text given,
      ((after past).step (.lex slot text given)).2 = .ofLex (x.lexWith text given)
  noSlot (slot : String) : (∀ l names, ¬ Lineage past slot l names) → ∀ text given,
    ((after past).step (.lex slot text given)).2 = .noSlot
  /-- Only categories given with the call can be unknown. -/
  configuration (slot text : String) (e : Fault) :
    ((after past).step (.lex slot text none)).2 ≠ .failed (.configuration e)

theorem accounted (past : List Command) : Accounted past where
  answer c rest := getElem?_run past c rest
  unchanged c h := ((after past).outcome_step c).fst_eq h
  language name l := get?_after_iff
  listed name := Dict.mem_names_iff.trans (exists_congr fun l => get?_after_iff)
  ascending := (filed_after past).ascending
  lexer slot x := lexer?_after_iff
  declared slot l names h := h.hasCategory
  makes c slot name names h := by
    rw [fails_makes_iff _ h]
    simp only [get?_after_iff]
  discards slot category := by
    rw [fails_discard_iff]
    simp only [lexer?_after_iff]
    exact not_congr ⟨fun ⟨x, h⟩ => ⟨x.language, x.discarded, h⟩,
      fun ⟨l, names, h⟩ => ⟨⟨l, names⟩, h⟩⟩
  lex slot l names h := by
    refine ⟨⟨l, names⟩, Lexer.withDiscard_eq_ok_iff.mpr ⟨rfl, h.hasCategory⟩, fun text given => ?_⟩
    rw [step_lex, h.lexer?_eq]
    rfl
  noSlot slot h text given := by
    have hnone : (after past).lexer? slot = none :=
      Option.eq_none_iff_forall_ne_some.mpr fun x hx => h _ _ (lexer?_after_iff.mp hx)
    rw [step_lex, hnone]
    rfl
  configuration slot text e h := by
    rw [step_lex] at h
    cases hx : (after past).lexer? slot with
    | none => simp [hx] at h
    | some x =>
      rw [hx] at h
      exact x.lex_ne_configuration text e (Answer.ofLex_eq_failed_iff.mp h)

-- The lexer leaves out blanks, of which the language that replaced its own knows nothing.
example :
    ((after [
      .register "t" [.category "word" ["[a-z]+"]],
      .lexer "a" "t" ["blank"],
      .register "t" [.category "word" ["[a-z]+"], .category "blank" [" "]]]).lexer? "a").bind
        (fun x => (x.lex "x y").toOption) = some [⟨"word", "x", 0⟩, ⟨"word", "y", 2⟩] := by
  decide +kernel

end Session

end Lexicon
