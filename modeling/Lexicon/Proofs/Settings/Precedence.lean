import Lexicon.Proofs.Settings.Defaults

namespace Lexicon.Settings

open Text Value

variable {σ : Setting} {files : Files} {steps : List Step} {w : Shuffle}

namespace Setting

/-- What all layers together give for the setting. It takes long to evaluate. -/
@[irreducible]
def given (σ : Setting) (files : Files) (steps : List Step) : Option Value :=
  (σ.inOverrides steps).or ((σ.inFiles files steps).or σ.default)

/-- The layers settle the setting: each file can be one for it, and it is not given an empty
table, which would leave it as it is. -/
structure Settled (σ : Setting) (files : Files) (steps : List Step) : Prop where
  layered : ∀ f ∈ steps.filterMap Step.file?, ∀ l, entries? files f.1 = some l → σ.Layered l
  not_empty : ∀ v, σ.given files steps = some v → ¬ v.IsEmptyTable

end Setting

theorem laid_value {v : Value} (hkeyed : Keyed steps)
    (hlayered : ∀ f ∈ steps.filterMap Step.file?, ∀ l, entries? files f.1 = some l → σ.Layered l)
    (h : value files steps w = .ok v) : Laid σ.path (σ.given files steps) .emptyTable v := by
  simp only [value, bind_eq_ok_iff] at h
  obtain ⟨settings, hsettings, base, hbase, mid, hmid, h⟩ := h
  have hdefaults : Laid σ.path σ.default .emptyTable base := laid_defaults σ hbase
  have hfiles : Laid σ.path (σ.inFiles files steps) base mid :=
    laid_foldlM (fun f hf base after hbase h => laid_layerFile (hlayered f hf) hbase h)
      hdefaults.fits hmid
  have hoverrides : Laid σ.path (σ.inOverrides steps) mid v :=
    laid_overrides hkeyed hsettings hfiles.fits h
  rw [Setting.given]
  exact (hdefaults.trans hfiles).trans hoverrides

def present (files : Files) (steps : List Step) : List (String × Bool) :=
  (steps.filterMap Step.file?).filter fun f => f.2 || (findFile files f.1).isSome

theorem foldlM_present (files : Files) (steps : List Step) (w : Shuffle) (base : Value) :
    (present files steps).foldlM
        (fun base (name, required) => layerFile files base name required w) base =
      (steps.filterMap Step.file?).foldlM
        (fun base (name, required) => layerFile files base name required w) base := by
  rw [present]
  generalize steps.filterMap Step.file? = l
  induction l generalizing base with
  | nil => rfl
  | cons f l ih =>
    rw [List.filter_cons, List.foldlM_cons]
    split
    · rw [List.foldlM_cons]
      congr 1
      funext after
      exact ih after
    · rename_i habsent
      obtain ⟨hrequired, hfind⟩ : f.2 = false ∧ findFile files f.1 = none := by
        simpa using habsent
      have hskip : layerFile files base f.1 f.2 w = .ok base := by
        rw [layerFile, hfind, hrequired]
        rfl
      rw [ih]
      change _ = (layerFile files base f.1 f.2 w).bind _
      rw [hskip]
      rfl

theorem load_congr {steps' : List Step}
    (hoverrides : steps.filterMap Step.override? = steps'.filterMap Step.override?)
    (hpresent : present files steps = present files steps') (w : Shuffle) :
    load files steps w = load files steps' w := by
  have hvalue : value files steps w = value files steps' w := by
    simp only [value, overrides, hoverrides, ← foldlM_present, hpresent]
  rw [load, load, hvalue]

/-- The settings depend on the overrides in their order and on the files that are there in theirs,
and not on how the ones stand between the others. If loading succeeds, each setting that the layers
settle has the value that its last override gives, else the last file that gives one, else the
defaults, in whichever order the maps are walked. -/
theorem load_by_precedence (files : Files) (steps : List Step) (hkeyed : Keyed steps)
    (w : Shuffle) :
    (∀ steps' : List Step, steps.filterMap Step.override? = steps'.filterMap Step.override? →
      present files steps = present files steps' → load files steps w = load files steps' w) ∧
    ∀ c, load files steps w = .ok c →
      ∀ σ : Setting, σ.Settled files steps → σ.Has c (σ.given files steps) := by
  refine ⟨fun steps' hoverrides hpresent => load_congr hoverrides hpresent w, ?_⟩
  intro c hload σ hσ
  simp only [load, bind_eq_ok_iff] at hload
  obtain ⟨v, hvalue, hdecode⟩ := hload
  have hlaid : Laid σ.path (σ.given files steps) .emptyTable v :=
    laid_value hkeyed hσ.layered hvalue
  have hhas : σ.Has c (v.lookup σ.path) := (decoded_of_decode hdecode).has σ hlaid.fits
  have hchanges := hlaid.changes
  cases hg : σ.given files steps with
  | none =>
    obtain ⟨k, ks, hpath⟩ := σ.exists_path_eq
    have hlookup : v.lookup σ.path = none := by
      rw [hg] at hchanges
      rw [hchanges, hpath]
      rfl
    rwa [hlookup] at hhas
  | some given =>
    rw [hg] at hchanges
    obtain ⟨u, hu, hshows⟩ := hchanges.resolve_left (hσ.not_empty given hg)
    exact (hu ▸ hhas).of_shows hshows

/-! Two files and an override between them. -/

def someFiles : Files :=
  [("a.toml", "[server]\naddress = \"a:1\"\n".toUTF8),
   ("b.toml", "[server]\naddress = \"b:2\"\n".toUTF8)]

def someSteps : List Step :=
  [.file "a.toml", .override "render.annotate" (.scalar none (.bool true)), .file "b.toml"]

def addressEntries (origin address : String) : List (String × Value) :=
  [("server", .table (some origin) [("address", .scalar (some origin) (.text address))])]

theorem entries?_someFiles :
    entries? someFiles "a.toml" = some (addressEntries "a.toml" "a:1") ∧
    entries? someFiles "b.toml" = some (addressEntries "b.toml" "b:2") :=
  ⟨entries?_of_get? "[server]\naddress = \"a:1\"\n" (by decide)
      (by decide) (by decide) (by decide) (by decide +kernel),
    entries?_of_get? "[server]\naddress = \"b:2\"\n" (by decide)
      (by decide) (by decide) (by decide) (by decide +kernel)⟩

theorem plain_addressEntries (origin address : String) :
    Plain (addressEntries origin address) := by
  have hserver : Path.parse? "server" = some ⟨"server", []⟩ := by decide
  simp [Plain, addressEntries, hserver]

theorem distinct_addressEntries (origin address : String) (ks : List String) :
    Distinct ks (.table none (addressEntries origin address)) := by
  refine distinct_table (by simp [addressEntries]) ?_ ks
  simp only [addressEntries, List.forall_mem_singleton]
  refine distinct_table (by simp) ?_
  simp only [List.forall_mem_singleton]
  exact distinct_of_not_isTable rfl

theorem layered_addressEntries (σ : Setting) (origin address : String) :
    σ.Layered (addressEntries origin address) := by
  have hserver : lowerCase "server" = "server" := lowerCase_names _ (by simp)
  refine layered_of_plain (plain_addressEntries origin address) ?_ (distinct_addressEntries _ _ _)
  cases σ <;> simp [addressEntries, Setting.path, Tabled, isTable, hserver]

theorem inDocument_addressEntries (origin address : String) :
    Setting.address.inDocument (addressEntries origin address) =
      some (.scalar (some origin) (.text address)) := by
  have hserver : lowerCase "server" = "server" := lowerCase_names _ (by simp)
  have haddress : lowerCase "address" = "address" := lowerCase_names _ (by simp)
  rw [inDocument_of_plain (plain_addressEntries origin address), addressEntries, Setting.path,
    given_singleton, if_pos hserver, given_singleton, if_pos haddress, given_nil]

theorem load_someFiles :
    ∃ c, load someFiles someSteps = .ok c ∧ c.server.maxInputBytes = 65536 := by
  apply exists_eq_ok_of_map
  simp only [load, value, layer_defaultsText_eq .given (by simp), someSteps, Step.file?,
    List.filterMap_cons, List.filterMap_nil, List.foldlM_cons, List.foldlM_nil,
    layerFile_eq entries?_someFiles.1 _ _ Shuffle.natural_given,
    layerFile_eq entries?_someFiles.2 _ _ Shuffle.natural_given]
  decide +kernel

theorem keyed_someSteps : Keyed someSteps := by
  have hkey : Setting.annotate.HasKey "render.annotate" := by decide
  constructor
  · simp only [someSteps, Step.override?, List.filterMap_cons, List.filterMap_nil,
      List.forall_mem_singleton]
    exact ⟨.annotate, hkey⟩
  · simp only [someSteps, Step.override?, List.filterMap_cons, List.filterMap_nil,
      List.forall_mem_singleton]
    exact fun p p' hp hp' _ => Option.some.inj (hp.symm.trans hp')

theorem inOverrides_someSteps (σ : Setting) : σ.inOverrides someSteps =
    if σ.Named "render.annotate" then some (.scalar none (.bool true)) else none := by
  simp only [Setting.inOverrides, someSteps, Step.override?, List.filterMap_cons,
    List.filterMap_nil, List.reverse_singleton, List.findSome?_singleton]

theorem given_address : Setting.address.given someFiles someSteps =
    some (.scalar (some "b.toml") (.text "b:2")) := by
  have hnot : ¬ Setting.address.Named "render.annotate" := by decide
  have hfiles : Setting.address.inFiles someFiles someSteps =
      some (.scalar (some "b.toml") (.text "b:2")) := by
    simp only [Setting.inFiles, someSteps, Step.file?, List.filterMap_cons, List.filterMap_nil,
      List.reverse_cons, List.reverse_nil, List.nil_append, List.cons_append, List.findSome?_cons,
      entries?_someFiles.2, Option.bind_some, inDocument_addressEntries]
  rw [Setting.given, inOverrides_someSteps, if_neg hnot, hfiles, Option.none_or, Option.some_or]

theorem given_annotate : Setting.annotate.given someFiles someSteps =
    some (.scalar none (.bool true)) := by
  have hnamed : Setting.annotate.Named "render.annotate" := by decide
  rw [Setting.given, inOverrides_someSteps, if_pos hnamed, Option.some_or]

theorem settled_of_scalar {origin : Option String} {s : Scalar}
    (h : σ.given someFiles someSteps = some (.scalar origin s)) :
    σ.Settled someFiles someSteps := by
  refine ⟨?_, fun v hv => ?_⟩
  · simp only [someSteps, Step.file?, List.filterMap_cons, List.filterMap_nil,
      List.forall_mem_cons, entries?_someFiles.1, entries?_someFiles.2, Option.some.injEq,
      forall_eq']
    exact ⟨layered_addressEntries σ _ _, layered_addressEntries σ _ _, by simp⟩
  · obtain rfl := Option.some.inj (h.symm.trans hv)
    simp [IsEmptyTable, isTable]

theorem someFiles_by_precedence :
    Keyed someSteps ∧
    Setting.address.Settled someFiles someSteps ∧ Setting.annotate.Settled someFiles someSteps ∧
    ∃ c, load someFiles someSteps = .ok c ∧ c.server.address = "b:2" ∧ c.render.annotate = true ∧
      c.server.maxInputBytes = 65536 := by
  have haddress := settled_of_scalar given_address
  have hannotate := settled_of_scalar given_annotate
  obtain ⟨c, hload, hsize⟩ := load_someFiles
  obtain ⟨-, hhas⟩ := load_by_precedence someFiles someSteps keyed_someSteps .given
  have haddress' := hhas c hload .address haddress
  have hannotate' := hhas c hload .annotate hannotate
  rw [given_address] at haddress'
  rw [given_annotate] at hannotate'
  exact ⟨keyed_someSteps, haddress, hannotate, c, hload, (Except.ok.inj haddress').symm,
    (Except.ok.inj hannotate').symm, hsize⟩

/-! What the layers do not settle -/

def Regular (l : List (String × Value)) : Prop :=
  ∀ σ : Setting, Tabled σ.path (.table none l) ∧ Distinct σ.path (.table none l)

def Contradicts (σ : Setting) (files : Files) (steps : List Step) (w : Shuffle)
    (g : Option Value) : Prop :=
  ∃ c, load files steps w = .ok c ∧ ¬ σ.Has c g

def elementFiles : Files := [("a.toml", "\"render.raw_categories[0]\" = \"x\"\n".toUTF8)]

def elementEntries : List (String × Value) :=
  [("render.raw_categories[0]", .scalar (some "a.toml") (.text "x"))]

def emptyTableFiles : Files := [("a.toml", "[server]\naddress = \x7b\x7d\n".toUTF8)]

def emptyTableEntries : List (String × Value) :=
  [("server", .table (some "a.toml") [("address", .table (some "a.toml") [])])]

def twofoldFiles : Files :=
  [("a.toml", "\"server.address\" = \"a:1\"\n[server]\naddress = \"b:2\"\n".toUTF8)]

def twofoldEntries : List (String × Value) :=
  ("server.address", .scalar (some "a.toml") (.text "a:1")) :: addressEntries "a.toml" "b:2"

def spelledSteps : List Step :=
  [.override "languages.Lua.discard" (texts ["comment"]),
   .override "languages.lua.discard" (texts ["string"])]

theorem entries?_exceptions :
    entries? elementFiles "a.toml" = some elementEntries ∧
    entries? emptyTableFiles "a.toml" = some emptyTableEntries ∧
    entries? twofoldFiles "a.toml" = some twofoldEntries :=
  ⟨entries?_of_get? "\"render.raw_categories[0]\" = \"x\"\n" (by decide)
      (by decide) (by decide) (by decide) (by decide +kernel),
    entries?_of_get? "[server]\naddress = \x7b\x7d\n" (by decide)
      (by decide) (by decide) (by decide) (by decide +kernel),
    entries?_of_get? "\"server.address\" = \"a:1\"\n[server]\naddress = \"b:2\"\n" (by decide)
      (by decide) (by decide) (by decide) (by decide +kernel)⟩

theorem lowerCase_path_ne : ∀ k ∈ ["server", "render", "languages"],
    lowerCase "render.raw_categories[0]" ≠ k ∧ lowerCase "server.address" ≠ k := by
  decide +kernel

theorem regular_elementEntries : Regular elementEntries := by
  refine fun σ => ⟨?_, distinct_table (by simp [elementEntries]) ?_ _⟩
  · cases σ <;> simp [elementEntries, Setting.path, Tabled, isTable, lowerCase_path_ne]
  · simp only [elementEntries, List.forall_mem_singleton]
    exact distinct_of_not_isTable rfl

theorem regular_emptyTableEntries : Regular emptyTableEntries := by
  have hserver : lowerCase "server" = "server" := lowerCase_names _ (by simp)
  refine fun σ => ⟨?_, distinct_table (by simp [emptyTableEntries]) ?_ _⟩
  · cases σ <;> simp [emptyTableEntries, Setting.path, Tabled, isTable, hserver]
  · simp only [emptyTableEntries, List.forall_mem_singleton]
    refine distinct_table (by simp) ?_
    simp only [List.forall_mem_singleton]
    exact distinct_table List.nodup_nil (List.forall_mem_nil _)

theorem regular_twofoldEntries : Regular twofoldEntries := by
  have hserver : lowerCase "server" = "server" := lowerCase_names _ (by simp)
  have hne : lowerCase "server.address" ≠ "server" := (lowerCase_path_ne _ (by simp)).2
  refine fun σ => ⟨?_, distinct_table ?_ ?_ _⟩
  · cases σ <;> simp [twofoldEntries, addressEntries, Setting.path, Tabled, isTable, hserver,
      lowerCase_path_ne]
  · simpa [twofoldEntries, addressEntries, hserver] using hne
  · rw [twofoldEntries, List.forall_mem_cons]
    refine ⟨distinct_of_not_isTable rfl, ?_⟩
    simp only [addressEntries, List.forall_mem_singleton]
    refine distinct_table (by simp) ?_
    simp only [List.forall_mem_singleton]
    exact distinct_of_not_isTable rfl

theorem strings_texts (l : List String) : Decode.strings (texts l) = .ok l := by
  have hgo : ∀ n, Decode.strings.go n (l.map fun s => .scalar none (.text s)) = .ok l := by
    induction l with
    | nil => exact fun _ => rfl
    | cons s l ih =>
      intro n
      rw [List.map_cons, Decode.strings.go, ih]
      rfl
  exact hgo 0

theorem load_file {name : String} {l : List (String × Value)}
    (hw : w ∈ [Shuffle.given, Shuffle.reversed]) (hnatural : w.Natural)
    (h : entries? files name = some l) :
    load files [.file name] w = ((w.order (reorderEntries w l)).foldlM
      (fun base e => layerEntry base e.1 e.2) defaultValue).bind decode := by
  have horder : w.order (lastOfEach []) = [] := List.perm_nil.mp (w.perm _)
  have hvalue : value files [.file name] w = (w.order (reorderEntries w l)).foldlM
      (fun base e => layerEntry base e.1 e.2) defaultValue := by
    simp only [value, layer_defaultsText_eq w hw, overrides, Step.file?, Step.override?,
      List.filterMap_cons, List.filterMap_nil, List.mapM_nil, List.foldlM_cons, List.foldlM_nil,
      layerFile_eq h _ _ hnatural, horder, pure_bind, bind_pure]
    rfl
  rw [load, hvalue]
  rfl
theorem contradicts_elementFiles :
    Contradicts .rawCategories elementFiles [.file "a.toml"] .given
      Setting.rawCategories.default := by
  obtain ⟨c, hload, hraw⟩ : ∃ c, load elementFiles [.file "a.toml"] .given = .ok c ∧
      c.render.rawCategories = ["x", "newline"] := by
    apply exists_eq_ok_of_map
    rw [load_file (by simp) Shuffle.natural_given entries?_exceptions.1]
    decide
  refine ⟨c, hload, fun h => ?_⟩
  have h := (strings_texts _).symm.trans h
  rw [hraw] at h
  exact absurd (Except.ok.inj h) (by decide)

theorem contradicts_emptyTableFiles :
    Contradicts .address emptyTableFiles [.file "a.toml"] .given
      (some (.table (some "a.toml") [])) := by
  obtain ⟨c, hload, -⟩ : ∃ c, load emptyTableFiles [.file "a.toml"] .given = .ok c ∧
      c.server.address = "127.0.0.1:8080" := by
    apply exists_eq_ok_of_map
    rw [load_file (by simp) Shuffle.natural_given entries?_exceptions.2.1]
    decide
  exact ⟨c, hload, fun h => by cases h⟩

theorem contradicts_twofoldFiles :
    Contradicts .address twofoldFiles [.file "a.toml"] .reversed
      (some (.scalar (some "a.toml") (.text "b:2"))) := by
  obtain ⟨c, hload, haddress⟩ : ∃ c, load twofoldFiles [.file "a.toml"] .reversed = .ok c ∧
      c.server.address = "a:1" := by
    apply exists_eq_ok_of_map
    rw [load_file (by simp) Shuffle.natural_reversed entries?_exceptions.2.2]
    decide +kernel
  refine ⟨c, hload, fun h => ?_⟩
  have h : Except.ok "b:2" = Except.ok c.server.address := h
  rw [haddress] at h
  exact absurd (Except.ok.inj h) (by decide)

theorem contradicts_spelledSteps :
    Contradicts (.discard "lua") [] spelledSteps .reversed (some (texts ["string"])) := by
  obtain ⟨c, hload, hdiscard⟩ : ∃ c, load [] spelledSteps .reversed = .ok c ∧
      c.discardFor "lua" = ["comment"] := by
    apply exists_eq_ok_of_map
    simp only [load, value, layer_defaultsText_eq .reversed (by simp), spelledSteps, Step.file?,
      List.filterMap_cons, List.filterMap_nil, List.foldlM_nil]
    decide +kernel
  refine ⟨c, hload, fun h => ?_⟩
  have h := (strings_texts _).symm.trans h
  rw [hdiscard] at h
  exact absurd (Except.ok.inj h) (by decide)

theorem hasKey_spelledSteps :
    ∀ e ∈ spelledSteps.filterMap Step.override?, ∃ τ : Setting, τ.HasKey e.1 := by
  simp only [spelledSteps, Step.override?, List.filterMap_cons, List.filterMap_nil,
    List.forall_mem_cons]
  exact ⟨⟨.discard "Lua", by decide⟩, ⟨.discard "lua", by decide⟩, List.forall_mem_nil _⟩

/-- A file that gives no setting can change one by a name that leads to an element of it; a setting
that is given an empty table keeps the value of another layer; and of two values that one file gives,
or that are given under keys which differ only in case, either can count. -/
theorem exceptions_to_precedence :
    (entries? elementFiles "a.toml" = some elementEntries ∧ Regular elementEntries ∧
      (∀ σ : Setting, Value.given σ.path (.table none elementEntries) = none) ∧
      Contradicts .rawCategories elementFiles [.file "a.toml"] .given
        Setting.rawCategories.default) ∧
    (entries? emptyTableFiles "a.toml" = some emptyTableEntries ∧ Regular emptyTableEntries ∧
      ∃ v, Value.given Setting.address.path (.table none emptyTableEntries) = some v ∧
        Contradicts .address emptyTableFiles [.file "a.toml"] .given (some v)) ∧
    (entries? twofoldFiles "a.toml" = some twofoldEntries ∧ Regular twofoldEntries ∧
      ∃ v, Value.given Setting.address.path (.table none twofoldEntries) = some v ∧
        Contradicts .address twofoldFiles [.file "a.toml"] .reversed (some v)) ∧
    (∀ e ∈ spelledSteps.filterMap Step.override?, ∃ τ : Setting, τ.HasKey e.1) ∧
      ∃ v, (Setting.discard "lua").inOverrides spelledSteps = some v ∧
        Contradicts (.discard "lua") [] spelledSteps .reversed (some v) := by
  have hserver : lowerCase "server" = "server" := lowerCase_names _ (by simp)
  have haddress : lowerCase "address" = "address" := lowerCase_names _ (by simp)
  obtain ⟨helement, hempty, htwofold⟩ := entries?_exceptions
  refine ⟨⟨helement, regular_elementEntries, fun σ => ?_, contradicts_elementFiles⟩,
    ⟨hempty, regular_emptyTableEntries, _, ?_, contradicts_emptyTableFiles⟩,
    ⟨htwofold, regular_twofoldEntries, _, ?_, contradicts_twofoldFiles⟩,
    hasKey_spelledSteps, _, ?_, contradicts_spelledSteps⟩
  · cases σ <;> simp [elementEntries, Setting.path, given_singleton, lowerCase_path_ne]
  · simp [emptyTableEntries, Setting.path, given_singleton, given_nil, hserver, haddress]
  · have hgiven : Value.given Setting.address.path (.table none (addressEntries "a.toml" "b:2")) =
        some (.scalar (some "a.toml") (.text "b:2")) :=
      (inDocument_of_plain (plain_addressEntries _ _)).symm.trans (inDocument_addressEntries _ _)
    rw [Setting.path] at hgiven ⊢
    rw [twofoldEntries, given_cons_entry, hgiven, Option.some_or]
  · have hnamed : (Setting.discard "lua").Named "languages.lua.discard" := by decide
    simp only [Setting.inOverrides, spelledSteps, Step.override?, List.filterMap_cons,
      List.filterMap_nil, List.reverse_cons, List.reverse_nil, List.nil_append,
      List.cons_append, List.findSome?_cons, if_pos hnamed]

end Lexicon.Settings
