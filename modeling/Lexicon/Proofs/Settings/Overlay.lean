import Lexicon.Proofs.Registry
import Lexicon.Settings.Path

/-!
Values laid over each other, seen at the end of a path of names.

A layer changes what stands there if it gives a value for it, and leaves it as it is otherwise, as
long as both have tables wherever the path needs one. A value that is no table stands there as the
layer gives it, and a table becomes a part of the one that stands there. An empty table changes
nothing, so that it tells nothing about what stands there.
-/

namespace Lexicon.Settings

open Text

namespace Value

variable {base before after v : Value} {name k : String} {ks : List String}
variable {d : List (String × Value)} {old : Option Value}

def isTable : Value → Bool
  | table _ _ => true
  | _ => false

def entries : Value → List (String × Value)
  | table _ d => d
  | _ => []

def IsEmptyTable (v : Value) : Prop := v.isTable ∧ v.entries = []

def lookup : List String → Value → Option Value
  | [], v => some v
  | k :: ks, v => (v.get? k).bind (lookup ks)

def Fits : List String → Value → Prop
  | [], _ => True
  | k :: ks, v => v.isTable ∧ ∀ w, v.get? k = some w → Fits ks w

/-- All that a layer gives for a path. Its names may be in any case. -/
def givens : List String → Value → List Value
  | [], v => [v]
  | k :: ks, v => v.entries.flatMap fun (name, w) => if lowerCase name = k then givens ks w else []

def given (ks : List String) (v : Value) : Option Value := (givens ks v).getLast?

def Tabled : List String → Value → Prop
  | [], _ => True
  | k :: ks, v => v.isTable ∧ ∀ e ∈ v.entries, lowerCase e.1 = k → Tabled ks e.2

@[simp] theorem entries_table (origin : Option String) (d : List (String × Value)) :
    (table origin d).entries = d := rfl

theorem given_nil (v : Value) : given [] v = some v := rfl

theorem givens_cons_entry (origin : Option String) (e : String × Value)
    (d : List (String × Value)) : givens (k :: ks) (table origin (e :: d)) =
      (if lowerCase e.1 = k then givens ks e.2 else []) ++ givens (k :: ks) (table origin d) := by
  rw [givens, entries_table, List.flatMap_cons]
  rfl

theorem given_cons_entry (origin : Option String) (e : String × Value) (d : List (String × Value)) :
    given (k :: ks) (table origin (e :: d)) =
      (given (k :: ks) (table origin d)).or (if lowerCase e.1 = k then given ks e.2 else none) := by
  rw [given, givens_cons_entry, List.getLast?_append]
  split <;> rfl

theorem given_singleton (origin : Option String) (name : String) (v : Value) :
    given (k :: ks) (table origin [(name, v)]) = if lowerCase name = k then given ks v else none :=
  given_cons_entry origin (name, v) []

theorem fits_emptyTable (k : String) (ks : List String) : Fits (k :: ks) emptyTable :=
  ⟨rfl, fun _ h => by cases h⟩

theorem fits_getD (h : ∀ w, old = some w → Fits (k :: ks) w) :
    Fits (k :: ks) (old.getD emptyTable) := by
  cases old with
  | none => exact fits_emptyTable k ks
  | some w => exact h w rfl

theorem lookup_getD : lookup (k :: ks) (old.getD emptyTable) = old.bind (lookup (k :: ks)) := by
  cases old <;> rfl

@[simp] theorem isTable_insert : (base.insert name v).isTable = true := by
  cases base <;> rfl

theorem get?_insert (base : Value) (name k : String) (v : Value) :
    (base.insert name v).get? k = if k = name then some v else base.get? k := by
  cases base with
  | table _ d => exact Dict.get?_insert d name k v
  | scalar _ _ => exact Dict.get?_cons (name, v) [] k
  | array _ _ => exact Dict.get?_cons (name, v) [] k

/-! What a layer gives and what stands there. -/

def Shows (w v : Value) : Prop := w = v ∨ (w.isTable ∧ v.isTable)

def Changes : Option Value → Option Value → Option Value → Prop
  | none, before, after => after = before
  | some v, _, after => v.IsEmptyTable ∨ ∃ w, after = some w ∧ Shows w v

/-- The value `after` comes from `before` by a layer that gives `g` for the path. -/
structure Laid (ks : List String) (g : Option Value) (before after : Value) : Prop where
  fits : Fits ks after
  changes : Changes g (before.lookup ks) (after.lookup ks)

theorem Changes.trans {g g' a b c : Option Value} (h : Changes g a b) (h' : Changes g' b c) :
    Changes (g'.or g) a c := by
  cases g' with
  | none =>
    obtain rfl : c = b := h'
    exact h
  | some v => exact h'

theorem Laid.refl (h : Fits ks v) : Laid ks none v v := ⟨h, rfl⟩

theorem Laid.trans {g g' : Option Value} {mid : Value} (h : Laid ks g before mid)
    (h' : Laid ks g' mid after) : Laid ks (g'.or g) before after :=
  ⟨h'.fits, h.changes.trans h'.changes⟩

theorem laid_insert_of_ne (hbase : Fits (k :: ks) base) (hne : name ≠ k) :
    Laid (k :: ks) none base (base.insert name v) := by
  have hget : (base.insert name v).get? k = base.get? k := by
    rw [get?_insert, if_neg (Ne.symm hne)]
  refine ⟨⟨isTable_insert, fun w hw => hbase.2 w (hget ▸ hw)⟩, ?_⟩
  simp only [Changes, lookup, hget]

theorem laid_insert {g : Option Value} (hfits : Fits ks v)
    (hchanges : Changes g ((base.get? k).bind (lookup ks)) (v.lookup ks)) :
    Laid (k :: ks) g base (base.insert k v) := by
  have hget : (base.insert k v).get? k = some v := by rw [get?_insert, if_pos rfl]
  refine ⟨⟨isTable_insert, fun w hw => ?_⟩, ?_⟩
  · obtain rfl : v = w := by simpa [hget] using hw
    exact hfits
  · simpa only [lookup, hget, Option.bind_some] using hchanges

/-! One value over another. -/

def merged (old : Option Value) : Value → Value
  | table _ d => overlayAll (old.getD emptyTable) d
  | v => v

theorem overlay_eq_insert (base : Value) (name : String) (v : Value) :
    base.overlay name v =
      base.insert (lowerCase name) (merged (base.get? (lowerCase name)) v) := by
  cases v <;> rw [overlay] <;> rfl

@[simp] theorem isTable_overlay : (base.overlay name v).isTable = true := by
  rw [overlay_eq_insert, isTable_insert]

theorem isTable_overlayAll (h : base.isTable) : (base.overlayAll d).isTable := by
  induction d generalizing base with
  | nil => exact h
  | cons e d ih => exact ih isTable_overlay

theorem changes_merged (old : Option Value) (v : Value) :
    Changes (some v) old (some (merged old v)) := by
  cases v with
  | scalar _ _ => exact .inr ⟨_, rfl, .inl rfl⟩
  | array _ _ => exact .inr ⟨_, rfl, .inl rfl⟩
  | table _ d =>
    cases d with
    | nil => exact .inl ⟨rfl, rfl⟩
    | cons e d =>
      have htable : (overlayAll (old.getD emptyTable) (e :: d)).isTable := by
        rw [overlayAll]
        exact isTable_overlayAll isTable_overlay
      exact .inr ⟨_, rfl, .inr ⟨htable, rfl⟩⟩

def OverLaid (ks : List String) : Prop :=
  ∀ (old : Option Value) (v : Value), (∀ w, old = some w → Fits ks w) → Tabled ks v →
    Fits ks (merged old v) ∧ Changes (given ks v) (old.bind (lookup ks)) ((merged old v).lookup ks)

theorem OverLaid.overlay (h : OverLaid ks) (hbase : Fits (k :: ks) base)
    (hv : lowerCase name = k → Tabled ks v) :
    Laid (k :: ks) (if lowerCase name = k then given ks v else none) base
      (base.overlay name v) := by
  rw [overlay_eq_insert]
  split
  · rename_i hname
    rw [hname]
    obtain ⟨hfits, hchanges⟩ := h (base.get? k) v hbase.2 (hv hname)
    exact laid_insert hfits hchanges
  · rename_i hname
    exact laid_insert_of_ne hbase hname

theorem OverLaid.overlayAll (h : OverLaid ks) (origin : Option String)
    (hbase : Fits (k :: ks) base) (hd : ∀ e ∈ d, lowerCase e.1 = k → Tabled ks e.2) :
    Laid (k :: ks) (given (k :: ks) (table origin d)) base (base.overlayAll d) := by
  induction d generalizing base with
  | nil => exact .refl hbase
  | cons e d ih =>
    rw [List.forall_mem_cons] at hd
    have hfirst := h.overlay hbase hd.1
    rw [given_cons_entry]
    exact hfirst.trans (ih hfirst.fits hd.2)

theorem overLaid (ks : List String) : OverLaid ks := by
  -- along the path; the entries of a table all are laid over one name further down
  induction ks with
  | nil => exact fun old v _ _ => ⟨trivial, changes_merged _ v⟩
  | cons k ks ih =>
    intro old v hold hv
    cases v with
    | scalar _ _ => cases hv.1
    | array _ _ => cases hv.1
    | table origin d =>
      obtain ⟨hfits, hchanges⟩ := ih.overlayAll origin (fits_getD hold) hv.2
      exact ⟨hfits, lookup_getD ▸ hchanges⟩

theorem laid_overlay (hbase : Fits (k :: ks) base) (hv : lowerCase name = k → Tabled ks v) :
    Laid (k :: ks) (if lowerCase name = k then given ks v else none) base (base.overlay name v) :=
  (overLaid ks).overlay hbase hv

/-! A value at the end of a path. -/

def nest (v : Value) : List Segment → Value
  | [] => v
  | .name name :: rest => table none [(name, nest v rest)]
  | .index _ :: _ => array none []

end Value

namespace Path

def indexed? : List Segment → Option (List String)
  | [] => none
  | .index _ :: _ => some []
  | .name name :: rest => (indexed? rest).map (lowerCase name :: ·)

def names? : List Segment → Option (List String)
  | [] => some []
  | .index _ :: _ => none
  | .name name :: rest => (names? rest).map (lowerCase name :: ·)

def toSegments (p : Path) : List Segment := .name p.root :: p.segments

end Path

namespace Value

variable {base after v : Value} {name k : String} {ks names : List String}
variable {rest segments : List Segment} {p : Path}

theorem putAt_nil (v : Value) (name : String) (rest : List Segment) :
    putAt v (.name name :: rest) nil = putAt v (.name name :: rest) emptyTable := by
  cases rest with
  | nil =>
    rw [putAt, putAt, overlay_eq_insert, overlay_eq_insert]
    rfl
  | cons _ _ => rfl

theorem putAt_getD_nil (v : Value) (name : String) (rest : List Segment) (old : Option Value) :
    putAt v (.name name :: rest) (old.getD nil) =
      putAt v (.name name :: rest) (old.getD emptyTable) := by
  cases old with
  | none => exact putAt_nil v name rest
  | some _ => rfl

theorem putAt_cons_cons {s : Segment} (h : putAt v (.name name :: s :: rest) base = some after) :
    ∃ inner, putAt v (s :: rest) ((base.get? (lowerCase name)).getD nil) = some inner ∧
      base.insert (lowerCase name) inner = after := by
  simpa [putAt, Option.bind_eq_some_iff] using h

theorem isTable_putAt (h : putAt v (.name name :: rest) base = some after) : after.isTable := by
  cases rest with
  | nil =>
    obtain rfl : base.overlay name v = after := by simpa [putAt] using h
    exact isTable_overlay
  | cons s rest =>
    obtain ⟨_, -, rfl⟩ := putAt_cons_cons h
    exact isTable_insert

/-- A value put at the end of a path is laid over as the path tells, unless the path leads to an
element of the value that is looked at. -/
theorem laid_putAt (h : putAt v (.name name :: rest) base = some after)
    (hbase : Fits (k :: ks) base) (hv : lowerCase name = k → Tabled ks (nest v rest))
    (hwhole : Path.indexed? (.name name :: rest) ≠ some (k :: ks)) :
    Laid (k :: ks) (if lowerCase name = k then given ks (nest v rest) else none) base after := by
  induction rest generalizing name base after k ks with
  | nil =>
    obtain rfl : base.overlay name v = after := by simpa [putAt] using h
    exact laid_overlay hbase hv
  | cons s rest ih =>
    obtain ⟨inner, hinner, rfl⟩ := putAt_cons_cons h
    split
    · rename_i hname
      subst hname
      have hv := hv rfl
      cases s with
      | index i =>
        -- the array of the index would stand on the way to the value, or in its place
        cases ks with
        | nil => exact absurd rfl hwhole
        | cons _ _ => cases hv.1
      | name next =>
        cases ks with
        | nil => exact laid_insert trivial (.inr ⟨inner, rfl, .inr ⟨isTable_putAt hinner, rfl⟩⟩)
        | cons k' ks =>
          have hv : lowerCase next = k' → Tabled ks (nest v rest) :=
            hv.2 (next, nest v rest) (List.mem_singleton_self _)
          have hwhole : Path.indexed? (.name next :: rest) ≠ some (k' :: ks) := by
            simpa [Path.indexed?] using hwhole
          rw [putAt_getD_nil] at hinner
          have hlaid := ih hinner (fits_getD hbase.2) hv hwhole
          rw [nest, given_singleton]
          exact laid_insert hlaid.fits (lookup_getD ▸ hlaid.changes)
    · rename_i hname
      exact laid_insert_of_ne hbase hname

def entry (p : Path) (v : Value) : String × Value := (p.root, nest v p.segments)

theorem laid_put (h : base.put p v = some after) (hbase : Fits (k :: ks) base)
    (hv : Tabled (k :: ks) (table none [entry p v]))
    (hwhole : Path.indexed? p.toSegments ≠ some (k :: ks)) :
    Laid (k :: ks) (given (k :: ks) (table none [entry p v])) base after := by
  rw [entry, given_singleton]
  exact laid_putAt h hbase (hv.2 (entry p v) (List.mem_singleton_self _)) hwhole

theorem tabled_and_given_nest_self (h : Path.names? segments = some names) :
    Tabled names (nest v segments) ∧ given names (nest v segments) = some v := by
  induction segments generalizing names with
  | nil =>
    obtain rfl : [] = names := by simpa [Path.names?] using h
    exact ⟨trivial, rfl⟩
  | cons s rest ih =>
    cases s with
    | index i => cases h
    | name name =>
      obtain ⟨more, hmore, rfl⟩ := Option.map_eq_some_iff.mp h
      have hrest := ih hmore
      rw [nest, given_singleton, if_pos rfl]
      exact ⟨⟨rfl, List.forall_mem_singleton.mpr fun _ => hrest.1⟩, hrest.2⟩

theorem tabled_and_given_nest_of_not_prefix (h : Path.names? segments = some names)
    (hnot : ¬ names <+: ks) (hnot' : ¬ ks <+: names) :
    Tabled ks (nest v segments) ∧ given ks (nest v segments) = none := by
  induction segments generalizing names ks with
  | nil =>
    obtain rfl : [] = names := by simpa [Path.names?] using h
    exact absurd List.nil_prefix hnot
  | cons s rest ih =>
    cases s with
    | index i => cases h
    | name name =>
      obtain ⟨more, hmore, rfl⟩ := Option.map_eq_some_iff.mp h
      cases ks with
      | nil => exact absurd List.nil_prefix hnot'
      | cons k ks =>
        rw [List.cons_prefix_cons] at hnot hnot'
        have hrest : lowerCase name = k → _ := fun hname =>
          ih hmore (fun hp => hnot ⟨hname, hp⟩) (fun hp => hnot' ⟨hname.symm, hp⟩)
        rw [nest, given_singleton]
        refine ⟨⟨rfl, List.forall_mem_singleton.mpr fun hname => (hrest hname).1⟩, ?_⟩
        split
        · rename_i hname
          exact (hrest hname).2
        · rfl

end Value

end Lexicon.Settings
