import Lexicon.Proofs.Frontier

namespace Lexicon

structure Candidate : Type where
  category : Nat
  pattern : Nat
  start : Nat
  deriving DecidableEq

inductive Halt : Type
  | failed : LexError → Halt
  | outOfBounds : Halt
  deriving DecidableEq

namespace Language

def candidates (l : Language) (word : String) (start : Nat) : List Candidate :=
  l.categories.zipIdx.flatMap fun (c, i) =>
    c.patterns.zipIdx.filterMap fun (p, j) => if p.isMatch word then some ⟨i, j, start⟩ else none

def matchesAny (l : Language) (word : String) : Bool := l.categories.any (·.accepts word)

def categoryOf (l : Language) (c : Candidate) : Except Halt Category :=
  match l.categories[c.category]? with
  | some category => .ok category
  | none => .error .outOfBounds

/-- The first candidate wins. One of an earlier category behind it would show that their order is
lost. -/
def winner (l : Language) (word : String) : List Candidate → Except Halt Candidate
  | [] => .error .outOfBounds
  | first :: rest =>
    if (first :: rest).any (·.category < first.category) then do
      let tied ← (first :: rest).mapM l.categoryOf
      .error (.failed (.ambiguity first.start word (tied.map (·.name))))
    else .ok first

def emit (l : Language) (discard : List String) (old : List Candidate) (word : String)
    (start : Nat) (tokens : List Token) : Except Halt (List Token) := do
  let first ← l.winner word old
  let category ← l.categoryOf first
  if l.isWrong category.name then .error (.failed (.wrongCategory category.name word first.start))
  else if category.name ∈ discard then .ok tokens
  else .ok (tokens ++ [⟨category.name, word, start⟩])

variable {l : Language} {word : String} {start : Nat} {c first : Candidate}
  {rest : List Candidate}

theorem mem_candidates_iff : c ∈ l.candidates word start ↔
    c.start = start ∧ ∃ category, l.categories[c.category]? = some category ∧
      ∃ p, category.patterns[c.pattern]? = some p ∧ p.isMatch word := by
  simp only [candidates, List.mem_flatMap, List.mem_filterMap, List.mem_zipIdx_iff_getElem?,
    Prod.exists, Option.ite_none_right_eq_some, Option.some.injEq]
  constructor
  · rintro ⟨category, i, hcategory, p, j, hp, hmatch, rfl⟩
    exact ⟨rfl, category, hcategory, p, hp, hmatch⟩
  · rintro ⟨rfl, category, hcategory, p, hp, hmatch⟩
    exact ⟨category, c.category, hcategory, p, c.pattern, hp, hmatch, rfl⟩

theorem accepts_iff {category : Category} : category.accepts word ↔
    ∃ (j : Nat) (p : Pattern), category.patterns[j]? = some p ∧ p.isMatch word := by
  rw [Category.accepts, List.any_eq_true]
  constructor
  · rintro ⟨p, hp, hmatch⟩
    obtain ⟨j, hj⟩ := List.getElem?_of_mem hp
    exact ⟨j, p, hj, hmatch⟩
  · rintro ⟨j, p, hj, hmatch⟩
    exact ⟨p, List.mem_of_getElem? hj, hmatch⟩

theorem exists_candidate {category : Category} {i : Nat} (start : Nat)
    (hi : l.categories[i]? = some category) (h : category.accepts word) :
    ∃ c ∈ l.candidates word start, c.category = i := by
  obtain ⟨j, p, hj, hmatch⟩ := accepts_iff.mp h
  exact ⟨⟨i, j, start⟩, mem_candidates_iff.mpr ⟨rfl, category, hi, p, hj, hmatch⟩, rfl⟩

theorem matchesAny_iff : l.matchesAny word ↔ l.candidates word start ≠ [] := by
  rw [matchesAny, List.any_eq_true]
  constructor
  · rintro ⟨category, hmem, haccepts⟩ hnil
    obtain ⟨i, hi⟩ := List.getElem?_of_mem hmem
    obtain ⟨c, hc, -⟩ := exists_candidate start hi haccepts
    rw [hnil] at hc
    cases hc
  · intro hne
    obtain ⟨c, hc⟩ := List.exists_mem_of_ne_nil _ hne
    obtain ⟨-, category, hcategory, p, hp, hmatch⟩ := mem_candidates_iff.mp hc
    exact ⟨category, List.mem_of_getElem? hcategory, accepts_iff.mpr ⟨_, p, hp, hmatch⟩⟩

theorem matchesAny_eq_isSome : l.matchesAny word = (l.classify word).isSome := by
  rw [matchesAny, classify, Option.isSome_map, Bool.eq_iff_iff, List.any_eq_true,
    List.find?_isSome]

theorem pairwise_candidates :
    (l.candidates word start).Pairwise fun a b => a.category ≤ b.category := by
  rw [candidates, List.pairwise_flatMap]
  have category_eq : ∀ e : Category × Nat, ∀ c ∈ e.1.patterns.zipIdx.filterMap
      fun (p, j) => if p.isMatch word then some (⟨e.2, j, start⟩ : Candidate) else none,
      c.category = e.2 := by
    intro e c hc
    simp only [List.mem_filterMap, Option.ite_none_right_eq_some, Option.some.injEq] at hc
    obtain ⟨_, -, -, rfl⟩ := hc
    rfl
  constructor
  · intro e _
    refine List.pairwise_of_forall_mem_list fun a ha b hb => ?_
    exact Nat.le_of_eq ((category_eq e a ha).trans (category_eq e b hb).symm)
  · have hsorted : (l.categories.zipIdx.map Prod.snd).Pairwise (· < ·) := by
      rw [List.zipIdx_map_snd]
      exact List.pairwise_lt_range'
    refine (List.pairwise_map.mp hsorted).imp fun {e e'} hlt a ha b hb => ?_
    rw [category_eq e a ha, category_eq e' b hb]
    exact Nat.le_of_lt hlt

theorem classify_of_candidates (h : l.candidates word start = first :: rest) :
    ∃ category, l.categories[first.category]? = some category ∧
      l.classify word = some category.name := by
  obtain ⟨-, category, hcategory, p, hp, hmatch⟩ :=
    mem_candidates_iff.mp (h ▸ List.mem_cons_self : first ∈ l.candidates word start)
  obtain ⟨hlt, rfl⟩ := List.getElem?_eq_some_iff.mp hcategory
  refine ⟨_, hcategory, ?_⟩
  have hfind : l.categories.find? (·.accepts word) = some l.categories[first.category] := by
    rw [List.find?_eq_some_iff_getElem]
    refine ⟨accepts_iff.mpr ⟨_, p, hp, hmatch⟩, first.category, hlt, rfl, fun j hj => ?_⟩
    -- A category before it that accepts the word would have a candidate of its own.
    cases haccepts : l.categories[j].accepts word with
    | false => rfl
    | true =>
      obtain ⟨c, hc, rfl⟩ := exists_candidate start
        (List.getElem?_eq_getElem (Nat.lt_trans hj hlt)) haccepts
      have hsorted : (l.candidates word start).Pairwise fun a b => a.category ≤ b.category :=
        pairwise_candidates
      rw [h] at hc hsorted
      cases hc with
      | head => omega
      | tail _ hc => exact absurd (List.rel_of_pairwise_cons hsorted hc) (by omega)
  rw [classify, hfind, Option.map_some]

theorem emit_candidates (discard : List String) (tokens : List Token)
    (h : l.candidates word start ≠ []) :
    ∃ name, l.classify word = some name ∧
      l.emit discard (l.candidates word start) word start tokens =
        if l.isWrong name then .error (.failed (.wrongCategory name word start))
        else if name ∈ discard then .ok tokens
        else .ok (tokens ++ [⟨name, word, start⟩]) := by
  cases hc : l.candidates word start with
  | nil => exact absurd hc h
  | cons first rest =>
    obtain ⟨category, hcategory, hclass⟩ := classify_of_candidates hc
    have hstart : first.start = start :=
      (mem_candidates_iff.mp (hc ▸ List.mem_cons_self : first ∈ l.candidates word start)).1
    have hsorted : (l.candidates word start).Pairwise fun a b => a.category ≤ b.category :=
      pairwise_candidates
    have huntied : (first :: rest).any (·.category < first.category) = false := by
      rw [hc] at hsorted
      rw [List.any_eq_false]
      intro c hmem
      cases hmem with
      | head => simp
      | tail _ hmem => simpa using List.rel_of_pairwise_cons hsorted hmem
    have hwinner : l.winner word (first :: rest) = .ok first := by
      rw [winner, huntied]
      rfl
    have hof : l.categoryOf first = .ok category := by
      rw [categoryOf, hcategory]
    refine ⟨category.name, hclass, ?_⟩
    rw [emit, hwinner, ← hstart]
    simp only [bind, Except.bind, hof]

end Language

end Lexicon
