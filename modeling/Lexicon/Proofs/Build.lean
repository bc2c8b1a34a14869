import Mathlib.Control.Monad.Basic
import Mathlib.Data.List.Forall2
import Lexicon.Language

namespace Lexicon

theorem mapM_eq_ok_iff {α β ε : Type} {f : α → Except ε β} {l : List α} {m : List β} :
    l.mapM f = .ok m ↔ List.Forall₂ (fun a b => f a = .ok b) l m := by
  induction l generalizing m with
  | nil => simp [pure, Except.pure, eq_comm]
  | cons a l ih =>
    rw [List.mapM_cons, List.forall₂_cons_left_iff]
    cases ha : f a with
    | error e => simp [bind, Except.bind]
    | ok b =>
      simp only [← ih]
      cases hl : l.mapM f with
      | error e => simp [bind, Except.bind]
      | ok m' => simp [bind, Except.bind, pure, Except.pure, eq_comm]

theorem bind_eq_ok_iff {α β ε : Type} {r : Except ε α} {f : α → Except ε β} {b : β} :
    (r >>= f) = .ok b ↔ ∃ a, r = .ok a ∧ f a = .ok b := by
  cases r <;> simp [bind, Except.bind]

theorem eq_ok_of_toOption {α ε : Type} {r : Except ε α} {a : α} (h : r.toOption = some a) :
    r = .ok a := by
  cases r with
  | error e => cases h
  | ok a' => rw [Option.some.inj h]

theorem exists_forall₂_iff {α β : Type} {R : α → β → Prop} {l : List α} :
    (∃ m, List.Forall₂ R l m) ↔ ∀ a ∈ l, ∃ b, R a b := by
  induction l with
  | nil => simp
  | cons a l ih =>
    rw [List.forall_mem_cons, ← ih]
    constructor
    · rintro ⟨_, hcons⟩
      cases hcons with
      | cons ha hl => exact ⟨⟨_, ha⟩, ⟨_, hl⟩⟩
    · rintro ⟨⟨b, ha⟩, ⟨m, hl⟩⟩
      exact ⟨b :: m, .cons ha hl⟩

namespace Language

variable [Regex.Engine] {name : String} {clauses : List Clause} {l : Language}

structure Built (name : String) (clauses : List Clause) (l : Language) : Prop where
  name_eq : l.name = name
  categories_eq : (clauses.filterMap Clause.category?).mapM
    (fun (n, sources) => Category.build n sources) = .ok l.categories
  categories_ne : l.categoryNames.isEmpty = false
  nodup : firstRepeated? [] l.categoryNames = none
  wrong_eq : l.wrong = clauses.filterMap Clause.wrong?
  wrong_declared : l.wrong.find? (· ∉ l.categoryNames) = none
  metadata_eq : l.metadata = .ofList (clauses.filterMap Clause.metadata?)
  pipeline_eq : l.pipeline = (clauses.filterMap Clause.pipeline?).getLast?

theorem built_of_build (h : build name clauses = .ok l) : Built name clauses l := by
  unfold build at h
  cases hc : (clauses.filterMap Clause.category?).mapM fun (n, sources) =>
      Category.build n sources with
  | error e =>
    rw [hc] at h
    cases h
  | ok categories =>
    rw [hc] at h
    simp only [bind, Except.bind, throw, throwThe, MonadExceptOf.throw, pure, Except.pure] at h
    cases hempty : (categories.map (·.name)).isEmpty with
    | true => simp [hempty] at h
    | false =>
      cases hrep : firstRepeated? [] (categories.map (·.name)) with
      | some n => simp [hempty, hrep] at h
      | none =>
        cases hwrong : (clauses.filterMap Clause.wrong?).find? (· ∉ categories.map (·.name)) with
        | some n =>
          simp only [hempty, hrep, hwrong, Bool.false_eq_true, ↓reduceIte, reduceCtorEq] at h
        | none =>
          simp only [hempty, hrep, hwrong] at h
          cases h
          exact ⟨rfl, hc, hempty, hrep, rfl, hwrong, rfl, rfl⟩

theorem exists_of_build {P : Language → Prop} [DecidablePred P]
    (h : (build name clauses).toOption.any (P ·)) : ∃ l, build name clauses = .ok l ∧ P l := by
  cases hb : build name clauses with
  | error e => simp [hb, Except.toOption] at h
  | ok l => exact ⟨l, rfl, by simpa [hb, Except.toOption] using h⟩

end Language

end Lexicon
