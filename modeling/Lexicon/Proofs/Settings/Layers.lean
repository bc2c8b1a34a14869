import Mathlib.Data.List.Nodup
import Lexicon.Proofs.Build
import Lexicon.Proofs.Settings.Decode
import Lexicon.Proofs.Settings.Shuffle
import Lexicon.Settings

/-!
What a layer does to a setting. A file changes the setting if it gives a value for it, and so do the
overrides, of which the last one of the setting counts. A name at the top of a file can also lead to
an element of an array by an index; such a file changes a part of what other layers give, so that it
is none of the layers here. Neither is one that gives several values for the setting, as it is open
in which order they are laid.
-/

namespace Lexicon.Settings

open Text Value

/-! Documents. -/

def topEntry (e : String × Value) : String × Value :=
  match Path.parse? e.1 with
  | some p => entry p e.2
  | none => e

def document (l : List (String × Value)) : Value := .table none (l.map topEntry)

def ofEntries (origin : Option String) (l : List (String × Toml)) : List (String × Value) :=
  l.map fun (name, v) => (name, .ofToml origin v)

def entries? (files : Files) (name : String) : Option (List (String × Value)) := do
  let (full, bytes) ← findFile files name
  let text ← String.fromUTF8? bytes
  let l ← Toml.parse? text
  return ofEntries (some full) l

namespace Setting

def HasKey (σ : Setting) (key : String) : Prop :=
  (Path.parse? key).map Path.toSegments = some (σ.path.map .name)

def Named (σ : Setting) (key : String) : Prop :=
  (Path.parse? key).bind (fun p => Path.names? p.toSegments) = some σ.path

instance (σ : Setting) (key : String) : Decidable (σ.HasKey key) :=
  inferInstanceAs (Decidable (_ = _))

instance (σ : Setting) (key : String) : Decidable (σ.Named key) :=
  inferInstanceAs (Decidable (_ = _))

def inDocument (σ : Setting) (l : List (String × Value)) : Option Value :=
  (document l).given σ.path

def inOverrides (σ : Setting) (steps : List Step) : Option Value :=
  (steps.filterMap Step.override?).reverse.findSome? fun (key, v) =>
    if σ.Named key then some v else none

def inFiles (σ : Setting) (files : Files) (steps : List Step) : Option Value :=
  (steps.filterMap Step.file?).reverse.findSome? fun (name, _) =>
    (entries? files name).bind σ.inDocument

/-- A document that can be a layer for the setting: it has tables where they are needed, gives at
most one value, and no name at its top leads to an element of the setting. -/
structure Layered (σ : Setting) (l : List (String × Value)) : Prop where
  tabled : (document l).Tabled σ.path
  once : (givens σ.path (document l)).length ≤ 1
  whole : ∀ e ∈ l, ∀ p, Path.parse? e.1 = some p → Path.indexed? p.toSegments ≠ some σ.path

theorem exists_path_eq (σ : Setting) : ∃ k ks, σ.path = k :: ks := by
  cases σ <;> exact ⟨_, _, rfl⟩

end Setting

/-! Files. -/

variable {base after : Value} {k : String} {ks : List String} {σ : Setting} {files : Files}
variable {l l' : List (String × Value)} {steps : List Step} {w : Shuffle}

theorem given_table_map {α : Type} (f : α → String × Value) (l : List α) :
    Value.given (k :: ks) (.table none (l.map f)) =
      l.reverse.findSome? fun a => Value.given (k :: ks) (.table none [f a]) := by
  induction l with
  | nil => rfl
  | cons a l ih =>
    rw [List.map_cons, given_cons_entry, ih, List.reverse_cons, List.findSome?_append,
      List.findSome?_singleton, given_singleton]

theorem laid_foldlM {α : Type} {f : Value → α → Except Error Value} {g : α → Option Value}
    {l : List α}
    (hstep : ∀ a ∈ l, ∀ {base after : Value}, Fits ks base → f base a = .ok after →
      Laid ks (g a) base after)
    (hbase : Fits ks base) (h : l.foldlM f base = .ok after) :
    Laid ks (l.reverse.findSome? g) base after := by
  induction l generalizing base with
  | nil =>
    obtain rfl : base = after := by simpa [pure, Except.pure] using h
    exact .refl hbase
  | cons a l ih =>
    rw [List.foldlM_cons, bind_eq_ok_iff] at h
    obtain ⟨mid, hmid, h⟩ := h
    have hfirst := hstep a List.mem_cons_self hbase hmid
    have hrest := ih (fun a ha => hstep a (List.mem_cons_of_mem _ ha)) hfirst.fits h
    rw [List.reverse_cons, List.findSome?_append, List.findSome?_singleton]
    exact hfirst.trans hrest

theorem laid_layerEntry {e : String × Value} (hbase : Fits (k :: ks) base)
    (htabled : Tabled (k :: ks) (.table none [topEntry e]))
    (hwhole : ∀ p, Path.parse? e.1 = some p → Path.indexed? p.toSegments ≠ some (k :: ks))
    (h : layerEntry base e.1 e.2 = .ok after) :
    Laid (k :: ks) (Value.given (k :: ks) (.table none [topEntry e])) base after := by
  rw [topEntry] at htabled ⊢
  rw [layerEntry] at h
  cases hp : Path.parse? e.1 with
  | none =>
    simp only [hp] at h htabled
    obtain rfl : base.overlay e.1 e.2 = after := Except.ok.inj h
    rw [given_singleton]
    exact laid_overlay hbase (htabled.2 e (List.mem_singleton_self _))
  | some p =>
    simp only [hp] at h htabled
    cases hput : base.put p e.2 with
    | none => simp [hput] at h
    | some base' =>
      obtain rfl : base' = after := by simpa [hput] using h
      exact laid_put hput hbase htabled (hwhole p hp)

theorem nest_reorder (w : Shuffle) (v : Value) (segments : List Segment) :
    nest (v.reorder w) segments = (nest v segments).reorder w := by
  induction segments with
  | nil => rfl
  | cons s rest ih =>
    cases s with
    | index _ => rfl
    | name name => rw [nest, nest, ih, reorder, reorderEntries, reorderEntries, w.order_singleton]

theorem topEntry_reorder (w : Shuffle) (e : String × Value) :
    topEntry (e.1, e.2.reorder w) = ((topEntry e).1, (topEntry e).2.reorder w) := by
  unfold topEntry
  cases Path.parse? e.1 with
  | none => rfl
  | some p => simp only [entry, nest_reorder]

theorem map_topEntry_perm (h : l'.Perm (reorderEntries w l)) :
    (l'.map topEntry).Perm (reorderEntries w (l.map topEntry)) := by
  refine (h.map topEntry).trans ?_
  rw [reorderEntries_eq_map, reorderEntries_eq_map, List.map_map, List.map_map]
  refine .of_eq (List.map_congr_left fun e _ => ?_)
  exact topEntry_reorder w e

theorem laid_entries (hl : σ.Layered l) (hwalked : l'.Perm (reorderEntries w l))
    (hbase : Fits σ.path base)
    (h : l'.foldlM (fun base e => layerEntry base e.1 e.2) base = .ok after) :
    Laid σ.path (σ.inDocument l) base after := by
  obtain ⟨tabled, once, whole⟩ := hl
  rw [Setting.inDocument]
  obtain ⟨k, ks, hσ⟩ := σ.exists_path_eq
  simp only [hσ] at tabled once whole hbase ⊢
  have hperm := map_topEntry_perm hwalked
  have hmem : ∀ e ∈ l'.map topEntry, ∃ e' ∈ l.map topEntry, e = (e'.1, e'.2.reorder w) := by
    intro e he
    have he := hperm.mem_iff.mp he
    rw [reorderEntries_eq_map] at he
    exact (List.mem_map.mp he).imp fun e' h => ⟨h.1, h.2.symm⟩
  have hlaid : Laid (k :: ks) ((document l').given (k :: ks)) base after := by
    rw [document, given_table_map]
    refine laid_foldlM (fun e he base after hbase h => ?_) hbase h
    have hname : ∃ e' ∈ l, e.1 = e'.1 := by
      have he := hwalked.mem_iff.mp he
      rw [reorderEntries_eq_map] at he
      obtain ⟨e', he', rfl⟩ := List.mem_map.mp he
      exact ⟨e', he', rfl⟩
    obtain ⟨e', he', hname⟩ := hname
    refine laid_layerEntry hbase ⟨rfl, List.forall_mem_singleton.mpr fun hk => ?_⟩
      (hname ▸ whole e' he') h
    obtain ⟨u, hu, heq⟩ := hmem _ (List.mem_map_of_mem he)
    rw [heq] at hk ⊢
    exact tabled_reorder w (tabled.2 u hu hk)
  have hgivens := givens_perm (k := k) (givens_reorder w ks) hperm none none
  have hgiven : (document l').given (k :: ks) =
      ((document l).given (k :: ks)).map (·.reorder w) := by
    rw [Value.given, Value.given, ← List.getLast?_map]
    exact getLast?_eq_of_perm hgivens (by rwa [List.length_map])
  exact (hgiven ▸ hlaid).of_reorder

def walked (w : Shuffle) (origin : Option String) (m : List (String × Toml)) :
    List (String × Value) :=
  (w.order m).map fun (name, v) => (name, (Value.ofToml origin v).reorder w)

theorem walked_perm (w : Shuffle) (origin : Option String) (m : List (String × Toml)) :
    (walked w origin m).Perm (reorderEntries w (ofEntries origin m)) := by
  rw [reorderEntries_eq_map, ofEntries, List.map_map]
  exact (w.perm m).map _

theorem layer_eq {text : String} {m : List (String × Toml)} (h : Toml.parse? text = some m)
    (base : Value) (origin : Option String) (w : Shuffle) :
    layer base origin text w =
      (walked w origin m).foldlM (fun base e => layerEntry base e.1 e.2) base := by
  simp only [layer, h, walked, List.foldlM_map]

theorem layerFile_of_entries? {name : String} (h : entries? files name = some l) (base : Value)
    (required : Bool) (w : Shuffle) :
    ∃ origin m, l = ofEntries origin m ∧ layerFile files base name required w =
      (walked w origin m).foldlM (fun base e => layerEntry base e.1 e.2) base := by
  simp only [entries?, Option.bind_eq_bind, Option.bind_eq_some_iff, Option.pure_def,
    Option.some.injEq] at h
  obtain ⟨⟨full, bytes⟩, hfind, text, htext, m, hparse, rfl⟩ := h
  refine ⟨some full, m, rfl, ?_⟩
  rw [layerFile, hfind]
  simp only [htext, layer_eq hparse]

theorem eq_of_layerFile {name : String} {required : Bool} (hl : entries? files name = none)
    (h : layerFile files base name required w = .ok after) : base = after := by
  rw [layerFile] at h
  cases hfind : findFile files name with
  | none => cases required <;> simp_all
  | some found =>
    cases htext : String.fromUTF8? found.2 with
    | none => cases required <;> simp_all
    | some text =>
      cases hparse : Toml.parse? text with
      | none => simp [hfind, htext, layer, hparse] at h
      | some l => simp [entries?, hfind, htext, hparse] at hl

theorem laid_layerFile {name : String} {required : Bool}
    (hlayered : ∀ l, entries? files name = some l → σ.Layered l) (hbase : Fits σ.path base)
    (h : layerFile files base name required w = .ok after) :
    Laid σ.path ((entries? files name).bind σ.inDocument) base after := by
  cases hl : entries? files name with
  | none =>
    obtain rfl := eq_of_layerFile hl h
    exact .refl hbase
  | some l =>
    obtain ⟨origin, m, rfl, hlayer⟩ := layerFile_of_entries? hl base required w
    exact laid_entries (hlayered _ hl) (walked_perm w origin m) hbase (hlayer ▸ h)

/-! Overrides. -/

variable {settings : List (Path × Value)} {p : Path} {v : Value}

theorem overrides_eq (h : overrides steps = .ok settings) :
    settings = (steps.filterMap Step.override?).filterMap fun (key, v) =>
      (Path.parse? key).map (·, v) := by
  rw [overrides, mapM_eq_ok_iff] at h
  generalize steps.filterMap Step.override? = l at h ⊢
  induction h with
  | nil => rfl
  | @cons e setting l settings he _ ih =>
    cases hp : Path.parse? e.1 with
    | none => simp [hp] at he
    | some p =>
      obtain rfl : (p, e.2) = setting := by simpa [hp] using he
      simp [hp, ← ih]

theorem findSome?_filterMap {α β γ : Type} (f : α → Option β) (g : β → Option γ) (l : List α) :
    (l.filterMap f).findSome? g = l.findSome? fun a => (f a).bind g := by
  rw [← List.head?_filterMap, ← List.head?_filterMap, List.filterMap_filterMap]

theorem mem_of_mem_lastOfEach {e : Path × Value} (h : e ∈ lastOfEach settings) : e ∈ settings := by
  induction settings with
  | nil => exact h
  | cons first rest ih =>
    rw [lastOfEach] at h
    split at h
    · exact List.mem_cons_of_mem _ (ih h)
    · rcases List.mem_cons.mp h with rfl | h
      · exact List.mem_cons_self
      · exact List.mem_cons_of_mem _ (ih h)

theorem nodup_lastOfEach (settings : List (Path × Value)) :
    ((lastOfEach settings).map (·.1)).Nodup := by
  induction settings with
  | nil => exact .nil
  | cons first rest ih =>
    rw [lastOfEach]
    split
    · exact ih
    · rename_i hany
      rw [List.map_cons, List.nodup_cons]
      refine ⟨fun hmem => hany ?_, ih⟩
      obtain ⟨e, he, heq⟩ := List.mem_map.mp hmem
      exact List.any_eq_true.mpr ⟨e, mem_of_mem_lastOfEach he, by simp [heq]⟩

def Setting.inOverride (σ : Setting) (e : Path × Value) : Option Value :=
  if Path.names? e.1.toSegments = some σ.path then some e.2 else none

theorem findSome?_lastOfEach (σ : Setting) (settings : List (Path × Value)) :
    (lastOfEach settings).reverse.findSome? σ.inOverride =
      settings.reverse.findSome? σ.inOverride := by
  induction settings with
  | nil => rfl
  | cons first rest ih =>
    rw [List.reverse_cons, List.findSome?_append, List.findSome?_singleton, lastOfEach]
    split
    · rename_i hany
      obtain ⟨e, he, heq⟩ := List.any_eq_true.mp hany
      have heq : e.1 = first.1 := by simpa using heq
      rw [ih]
      cases hfirst : σ.inOverride first with
      | none => rw [Option.or_none]
      | some v =>
        have hsome : (rest.reverse.findSome? σ.inOverride).isSome := by
          rw [List.isSome_findSome?, List.any_eq_true]
          refine ⟨e, List.mem_reverse.mpr he, ?_⟩
          simp only [Setting.inOverride, Option.ite_none_right_eq_some] at hfirst
          simp [Setting.inOverride, heq, hfirst.1]
        rw [Option.or_of_isSome hsome]
    · rw [List.reverse_cons, List.findSome?_append, List.findSome?_singleton, ih]

theorem indexed?_of_names? {segments : List Segment} {names : List String}
    (h : Path.names? segments = some names) : Path.indexed? segments = none := by
  induction segments generalizing names with
  | nil => rfl
  | cons s rest ih =>
    cases s with
    | index _ => cases h
    | name name =>
      obtain ⟨more, hmore, -⟩ := Option.map_eq_some_iff.mp h
      rw [Path.indexed?, ih hmore]
      rfl

theorem given_entry (σ : Setting) {τ : Setting} (hp : Path.names? p.toSegments = some τ.path)
    (v : Value) :
    Tabled σ.path (.table none [entry p v]) ∧
      Value.given σ.path (.table none [entry p v]) = if τ = σ then some v else none := by
  split
  · rename_i heq
    exact tabled_and_given_nest_self (heq ▸ hp)
  · rename_i hne
    exact tabled_and_given_nest_of_not_prefix hp (fun h => hne (Setting.eq_of_path_prefix h))
      fun h => hne (Setting.eq_of_path_prefix h).symm

/-- The keys of the overrides are settings, and no two of them differ only in case. -/
structure Keyed (steps : List Step) : Prop where
  of_setting : ∀ e ∈ steps.filterMap Step.override?, ∃ τ : Setting, τ.HasKey e.1
  eq_of_names : ∀ e ∈ steps.filterMap Step.override?, ∀ e' ∈ steps.filterMap Step.override?,
    ∀ p p', Path.parse? e.1 = some p → Path.parse? e'.1 = some p' →
      Path.names? p.toSegments = Path.names? p'.toSegments → p = p'

theorem names?_map_name (names : List String) :
    Path.names? (names.map .name) = some (names.map lowerCase) := by
  induction names with
  | nil => rfl
  | cons name names ih => rw [List.map_cons, Path.names?, ih, Option.map_some, List.map_cons]

theorem Setting.exists_lower (τ : Setting) : ∃ τ' : Setting, τ.path.map lowerCase = τ'.path := by
  have hnames : ∀ name ∈ ["server", "render", "languages", "address", "max_input_bytes",
      "raw_categories", "annotate", "discard"], lowerCase name = name := by decide +kernel
  simp only [List.forall_mem_cons] at hnames
  obtain ⟨hserver, hrender, hlanguages, haddress, hsize, hraw, hannotate, hdiscard, -⟩ := hnames
  cases τ with
  | address => exact ⟨.address, by simp [path, hserver, haddress]⟩
  | maxInputBytes => exact ⟨.maxInputBytes, by simp [path, hserver, hsize]⟩
  | rawCategories => exact ⟨.rawCategories, by simp [path, hrender, hraw]⟩
  | annotate => exact ⟨.annotate, by simp [path, hrender, hannotate]⟩
  | discard language => exact ⟨.discard (lowerCase language), by simp [path, hlanguages, hdiscard]⟩

theorem Setting.exists_names?_of_hasKey {τ : Setting} {key : String} (h : τ.HasKey key)
    (hp : Path.parse? key = some p) : ∃ τ' : Setting, Path.names? p.toSegments = some τ'.path := by
  obtain ⟨τ', hlower⟩ := τ.exists_lower
  have hsegments : p.toSegments = τ.path.map .name := by simpa [HasKey, hp] using h
  exact ⟨τ', by rw [hsegments, names?_map_name, hlower]⟩

theorem laid_layerOverride (hp : ∃ τ : Setting, Path.names? p.toSegments = some τ.path)
    (hbase : Fits σ.path base) (h : layerOverride base p v = .ok after) :
    Laid σ.path (σ.inOverride (p, v)) base after := by
  obtain ⟨τ, hp⟩ := hp
  obtain ⟨htabled, hgiven⟩ := given_entry σ hp v
  have hin : σ.inOverride (p, v) = Value.given σ.path (.table none [entry p v]) := by
    have hiff : τ.path = σ.path ↔ τ = σ :=
      ⟨fun h => Setting.eq_of_path_prefix (h ▸ List.prefix_rfl), fun h => h ▸ rfl⟩
    simp only [hgiven, Setting.inOverride, hp, Option.some.injEq, hiff]
  have hwhole : Path.indexed? p.toSegments ≠ some σ.path := by simp [indexed?_of_names? hp]
  rw [layerOverride] at h
  cases hput : base.put p v with
  | none => simp [hput] at h
  | some base' =>
    obtain rfl : base' = after := by simpa [hput] using h
    obtain ⟨k, ks, hσ⟩ := σ.exists_path_eq
    rw [hin]
    rw [hσ] at hbase htabled hwhole ⊢
    exact laid_put hput hbase htabled hwhole

theorem findSome?_eq_of_perm {α β : Type} {g : α → Option β} {l l' : List α} (h : l'.Perm l)
    (hg : ∀ a ∈ l, ∀ b ∈ l, (g a).isSome → (g b).isSome → a = b) :
    l'.findSome? g = l.findSome? g := by
  cases hl : l.findSome? g with
  | none =>
    rw [List.findSome?_eq_none_iff] at hl ⊢
    exact fun a ha => hl a (h.mem_iff.mp ha)
  | some b =>
    obtain ⟨a, ha, hb⟩ := List.exists_of_findSome?_eq_some hl
    have hsome : (l'.findSome? g).isSome := by
      rw [List.isSome_findSome?, List.any_eq_true]
      exact ⟨a, h.mem_iff.mpr ha, by simp [hb]⟩
    obtain ⟨b', hl'⟩ := Option.isSome_iff_exists.mp hsome
    obtain ⟨a', ha', hb'⟩ := List.exists_of_findSome?_eq_some hl'
    obtain rfl := hg a ha a' (h.mem_iff.mp ha') (by simp [hb]) (by simp [hb'])
    rw [hl', ← hb', hb]

theorem findSome?_order_lastOfEach (σ : Setting) (w : Shuffle)
    (hspelled : ∀ e ∈ settings, ∀ e' ∈ settings,
      Path.names? e.1.toSegments = Path.names? e'.1.toSegments → e.1 = e'.1) :
    (w.order (lastOfEach settings)).reverse.findSome? σ.inOverride =
      settings.reverse.findSome? σ.inOverride := by
  rw [← findSome?_lastOfEach σ settings]
  have hperm : (w.order (lastOfEach settings)).reverse.Perm (lastOfEach settings).reverse :=
    (List.reverse_perm _).trans ((w.perm _).trans (List.reverse_perm _).symm)
  refine findSome?_eq_of_perm hperm ?_
  intro e he e' he' hsome hsome'
  have hnames : ∀ e, (σ.inOverride e).isSome → Path.names? e.1.toSegments = some σ.path := by
    intro e h
    by_contra hne
    simp [Setting.inOverride, hne] at h
  rw [List.mem_reverse] at he he'
  have hpath := hspelled e (mem_of_mem_lastOfEach he) e' (mem_of_mem_lastOfEach he')
    ((hnames e hsome).trans (hnames e' hsome').symm)
  exact List.inj_on_of_nodup_map (nodup_lastOfEach settings) he he' hpath

theorem laid_overrides (hkeyed : Keyed steps) (h : overrides steps = .ok settings)
    (hbase : Fits σ.path base)
    (hafter : (w.order (lastOfEach settings)).foldlM
      (fun base (p, v) => layerOverride base p (v.reorder w)) base = .ok after) :
    Laid σ.path (σ.inOverrides steps) base after := by
  have hsettings := overrides_eq h
  have horigin : ∀ e ∈ settings, ∃ key, (key, e.2) ∈ steps.filterMap Step.override? ∧
      Path.parse? key = some e.1 := by
    intro e he
    rw [hsettings, List.mem_filterMap] at he
    obtain ⟨⟨key, v⟩, hmem, he⟩ := he
    obtain ⟨p, hp, rfl⟩ := Option.map_eq_some_iff.mp he
    exact ⟨key, hmem, hp⟩
  have hlaid : Laid σ.path
      ((w.order (lastOfEach settings)).reverse.findSome? σ.inOverride) base after := by
    refine laid_foldlM (fun e he base after hbase h => ?_) hbase hafter
    have he := mem_of_mem_lastOfEach ((w.perm _).mem_iff.mp he)
    obtain ⟨key, hmem, hp⟩ := horigin e he
    obtain ⟨τ, hτ⟩ := hkeyed.of_setting _ hmem
    have hlaid := laid_layerOverride (Setting.exists_names?_of_hasKey hτ hp) hbase h
    have hreorder : σ.inOverride (e.1, e.2.reorder w) = (σ.inOverride e).map (·.reorder w) := by
      unfold Setting.inOverride
      split <;> rfl
    exact (hreorder ▸ hlaid).of_reorder
  have hspelled : ∀ e ∈ settings, ∀ e' ∈ settings,
      Path.names? e.1.toSegments = Path.names? e'.1.toSegments → e.1 = e'.1 := by
    intro e he e' he' hnames
    obtain ⟨key, hmem, hp⟩ := horigin e he
    obtain ⟨key', hmem', hp'⟩ := horigin e' he'
    exact hkeyed.eq_of_names _ hmem _ hmem' _ _ hp hp' hnames
  have hin : σ.inOverrides steps = settings.reverse.findSome? σ.inOverride := by
    rw [hsettings, ← List.filterMap_reverse, findSome?_filterMap, Setting.inOverrides]
    congr 1
    funext e
    cases hp : Path.parse? e.1 <;> simp [Setting.Named, Setting.inOverride, hp]
  rw [hin, ← findSome?_order_lastOfEach σ w hspelled]
  exact hlaid

end Lexicon.Settings
