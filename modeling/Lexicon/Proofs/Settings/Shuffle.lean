import Mathlib.Data.List.Perm.Basic
import Lexicon.Proofs.Settings.Overlay

namespace Lexicon.Settings

open Text

variable {w : Shuffle}

theorem Shuffle.order_singleton {α : Type} (w : Shuffle) (a : α) : w.order [a] = [a] :=
  List.perm_singleton.mp (w.perm [a])

/-- The order does not depend on what the entries are. -/
def Shuffle.Natural (w : Shuffle) : Prop :=
  ∀ {α β : Type} (f : α → β) (l : List α), w.order (l.map f) = (w.order l).map f

theorem Shuffle.natural_given : Shuffle.given.Natural := fun _ _ => rfl

def Shuffle.reversed : Shuffle := ⟨List.reverse, List.reverse_perm⟩

theorem Shuffle.natural_reversed : Shuffle.reversed.Natural := fun _ _ => List.map_reverse.symm

namespace Value

variable {k : String} {ks : List String} {v before after : Value} {d d' : List (String × Value)}
  {g : Option Value}

theorem reorderEntries_eq_map (w : Shuffle) (d : List (String × Value)) :
    reorderEntries w d = d.map fun e => (e.1, e.2.reorder w) := by
  induction d with
  | nil => rfl
  | cons e d ih => rw [reorderEntries, List.map_cons, ih]

@[simp] theorem isTable_reorder (w : Shuffle) (v : Value) : (v.reorder w).isTable = v.isTable := by
  cases v <;> simp [reorder, isTable]

theorem entries_reorder (w : Shuffle) (v : Value) :
    (v.reorder w).entries.Perm (reorderEntries w v.entries) := by
  cases v with
  | table origin d => simpa only [reorder, entries_table] using w.perm _
  | scalar _ _ => rfl
  | array _ _ => rfl

theorem isEmptyTable_of_reorder (h : (v.reorder w).IsEmptyTable) : v.IsEmptyTable := by
  refine ⟨by simpa using h.1, ?_⟩
  have hentries := (entries_reorder w v).symm
  rw [h.2, List.perm_nil, reorderEntries_eq_map, List.map_eq_nil_iff] at hentries
  exact hentries

theorem shows_of_reorder {u : Value} (h : u.Shows (v.reorder w)) : u.Shows v := by
  cases v with
  | table origin d =>
    rcases h with rfl | h
    · exact .inr ⟨isTable_reorder w _, rfl⟩
    · exact .inr ⟨h.1, rfl⟩
  | scalar _ _ => exact h
  | array _ _ => exact h

theorem Laid.of_reorder (h : Laid ks (g.map (·.reorder w)) before after) :
    Laid ks g before after := by
  refine ⟨h.fits, ?_⟩
  cases g with
  | none => exact h.changes
  | some v =>
    rcases h.changes with hempty | ⟨u, hu, hshows⟩
    · exact .inl (isEmptyTable_of_reorder hempty)
    · exact .inr ⟨u, hu, shows_of_reorder hshows⟩

/-! What is given -/

theorem givens_table (origin : Option String) (d : List (String × Value)) :
    givens (k :: ks) (table origin d) =
      d.flatMap fun e => if lowerCase e.1 = k then givens ks e.2 else [] := rfl

theorem givens_perm (hks : ∀ v, (givens ks (v.reorder w)).Perm ((givens ks v).map (·.reorder w)))
    (h : d'.Perm (reorderEntries w d)) (origin origin' : Option String) :
    (givens (k :: ks) (table origin' d')).Perm
      ((givens (k :: ks) (table origin d)).map (·.reorder w)) := by
  rw [givens_table, givens_table, List.map_flatMap]
  refine (h.flatMap_right _).trans ?_
  rw [reorderEntries_eq_map, List.flatMap_map]
  refine List.Perm.flatMap_left _ fun e _ => ?_
  split
  · exact hks e.2
  · exact .rfl

theorem givens_reorder (w : Shuffle) (ks : List String) (v : Value) :
    (givens ks (v.reorder w)).Perm ((givens ks v).map (·.reorder w)) := by
  induction ks generalizing v with
  | nil => exact .rfl
  | cons k ks ih =>
    cases v with
    | table origin d => exact givens_perm ih (w.perm _) origin origin
    | scalar _ _ => exact .rfl
    | array _ _ => exact .rfl

theorem tabled_reorder (w : Shuffle) (h : Tabled ks v) : Tabled ks (v.reorder w) := by
  induction ks generalizing v with
  | nil => trivial
  | cons k ks ih =>
    refine ⟨by simpa using h.1, fun e he hname => ?_⟩
    have hmem := (entries_reorder w v).mem_iff.mp he
    rw [reorderEntries_eq_map] at hmem
    obtain ⟨e', he', rfl⟩ := List.mem_map.mp hmem
    exact ih (h.2 e' he' hname)

theorem getLast?_eq_of_perm {α : Type} {l l' : List α} (h : l'.Perm l) (hl : l.length ≤ 1) :
    l'.getLast? = l.getLast? := by
  match l, hl with
  | [], _ => rw [h.eq_nil]
  | [a], _ => rw [List.perm_singleton.mp h]

/-! Names that differ not only in case -/

def Distinct : List String → Value → Prop
  | [], _ => True
  | k :: ks, v =>
    (v.entries.map (lowerCase ·.1)).Nodup ∧ ∀ e ∈ v.entries, lowerCase e.1 = k → Distinct ks e.2

theorem distinct_of_not_isTable (h : v.isTable = false) (ks : List String) : Distinct ks v := by
  have hentries : v.entries = [] := by
    cases v with
    | table _ _ => cases h
    | scalar _ _ => rfl
    | array _ _ => rfl
  cases ks with
  | nil => trivial
  | cons k ks => exact ⟨by simp [hentries], by simp [hentries]⟩

theorem distinct_table {origin : Option String} (hnames : (d.map (lowerCase ·.1)).Nodup)
    (h : ∀ e ∈ d, ∀ ks, Distinct ks e.2) (ks : List String) : Distinct ks (table origin d) := by
  cases ks with
  | nil => trivial
  | cons k ks => exact ⟨hnames, fun e he _ => h e he ks⟩

theorem length_flatMap_le_one {α β : Type} {f : α → String} {g : α → List β} {l : List α}
    (hl : (l.map f).Nodup) (hg : ∀ a ∈ l, f a = k → (g a).length ≤ 1) :
    (l.flatMap fun a => if f a = k then g a else []).length ≤ 1 := by
  induction l with
  | nil => simp
  | cons a l ih =>
    rw [List.map_cons, List.nodup_cons] at hl
    rw [List.forall_mem_cons] at hg
    rw [List.flatMap_cons, List.length_append]
    split
    · rename_i ha
      have hrest : (l.flatMap fun a => if f a = k then g a else []) = [] := by
        rw [List.flatMap_eq_nil_iff]
        intro b hb
        rw [if_neg]
        rintro rfl
        exact hl.1 (ha ▸ List.mem_map_of_mem hb)
      simpa [hrest] using hg.1 ha
    · simpa using ih hl.2 hg.2

theorem Distinct.length_givens_le_one (h : Distinct ks v) : (givens ks v).length ≤ 1 := by
  induction ks generalizing v with
  | nil => exact Nat.le_refl 1
  | cons k ks ih => exact length_flatMap_le_one h.1 fun e he hname => ih (h.2 e he hname)

end Value

end Lexicon.Settings
