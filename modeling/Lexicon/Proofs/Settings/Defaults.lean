import Lexicon.Proofs.Files
import Lexicon.Proofs.Settings.Layers

namespace Lexicon.Settings

open Text Value

mutual

/-- Are two values the same? Floating point numbers are never found to be. -/
def sameValue : Value → Value → Bool
  | .scalar origin .nil, .scalar origin' .nil => origin == origin'
  | .scalar origin (.bool a), .scalar origin' (.bool b) => origin == origin' && a == b
  | .scalar origin (.int a), .scalar origin' (.int b) => origin == origin' && a == b
  | .scalar origin (.text a), .scalar origin' (.text b) => origin == origin' && a == b
  | .array origin l, .array origin' m => origin == origin' && sameItems l m
  | .table origin l, .table origin' m => origin == origin' && sameEntries l m
  | _, _ => false

def sameItems : List Value → List Value → Bool
  | [], [] => true
  | a :: l, b :: m => sameValue a b && sameItems l m
  | _, _ => false

def sameEntries : List (String × Value) → List (String × Value) → Bool
  | [], [] => true
  | (name, a) :: l, (name', b) :: m => name == name' && sameValue a b && sameEntries l m
  | _, _ => false

end

mutual

theorem eq_of_sameValue : ∀ {a b : Value}, sameValue a b → a = b
  | .scalar _ .nil, .scalar _ .nil, h => by simpa [sameValue] using h
  | .scalar _ (.bool _), .scalar _ (.bool _), h => by simpa [sameValue] using h
  | .scalar _ (.int _), .scalar _ (.int _), h => by simpa [sameValue] using h
  | .scalar _ (.text _), .scalar _ (.text _), h => by simpa [sameValue] using h
  | .array _ _, .array _ _, h => by
    rw [sameValue, Bool.and_eq_true, beq_iff_eq] at h
    rw [h.1, eq_of_sameItems h.2]
  | .table _ _, .table _ _, h => by
    rw [sameValue, Bool.and_eq_true, beq_iff_eq] at h
    rw [h.1, eq_of_sameEntries h.2]

theorem eq_of_sameItems : ∀ {l m : List Value}, sameItems l m → l = m
  | [], [], _ => rfl
  | a :: l, b :: m, h => by
    rw [sameItems, Bool.and_eq_true] at h
    rw [eq_of_sameValue h.1, eq_of_sameItems h.2]

theorem eq_of_sameEntries : ∀ {l m : List (String × Value)}, sameEntries l m → l = m
  | [], [], _ => rfl
  | (name, a) :: l, (name', b) :: m, h => by
    rw [sameEntries, Bool.and_eq_true, Bool.and_eq_true, beq_iff_eq] at h
    rw [h.1.1, eq_of_sameValue h.1.2, eq_of_sameEntries h.2]

end

theorem exists_eq_some_of_any {α : Type} {r : Option α} {p : α → Bool} (h : r.any p) :
    ∃ a, r = some a ∧ p a := by
  cases r with
  | none => cases h
  | some a => exact ⟨a, rfl, h⟩

/-! Documents without paths at their top -/

def Plain (l : List (String × Value)) : Prop := ∀ e ∈ l, Path.parse? e.1 = some ⟨e.1, []⟩

section

variable {σ : Setting} {l : List (String × Value)}

theorem document_of_plain (h : Plain l) : document l = .table none l := by
  have htop : ∀ e ∈ l, topEntry e = e := by
    intro e he
    simp only [topEntry, h e he]
    rfl
  rw [document, List.map_congr_left htop, List.map_id']

theorem layered_of_plain (h : Plain l) (htabled : Tabled σ.path (.table none l))
    (hdistinct : Distinct σ.path (.table none l)) : σ.Layered l := by
  refine ⟨?_, ?_, fun e he p hp => ?_⟩
  · rwa [document_of_plain h]
  · rw [document_of_plain h]
    exact hdistinct.length_givens_le_one
  · obtain rfl := Option.some.inj ((h e he).symm.trans hp)
    simp [Path.toSegments, Path.indexed?]

theorem inDocument_of_plain (h : Plain l) : σ.inDocument l = (Value.table none l).given σ.path := by
  rw [Setting.inDocument, document_of_plain h]

end

theorem walked_eq {w : Shuffle} (hw : w.Natural) (origin : Option String)
    (m : List (String × Toml)) :
    walked w origin m = w.order (reorderEntries w (ofEntries origin m)) := by
  rw [walked, reorderEntries_eq_map, ofEntries, List.map_map, hw]
  rfl

/-! The defaults -/

def texts (l : List String) : Value := .array none (l.map fun s => .scalar none (.text s))

def discarding (l : List String) : Value := .table none [("discard", texts l)]

def defaultDiscards : Dict (List String) :=
  [("lua", ["blank"]), ("ash", ["blank"]), ("json", ["blank"]), ("bnf", ["blank"]),
   ("python", ["blank"]), ("markup", [])]

def defaultEntries : List (String × Value) :=
  [("server", .table none
      [("address", .scalar none (.text "127.0.0.1:8080")),
       ("max_input_bytes", .scalar none (.int 65536))]),
   ("render", .table none
      [("raw_categories", texts ["blank", "newline"]), ("annotate", .scalar none (.bool false))]),
   ("languages", .table none (defaultDiscards.map fun (name, l) => (name, discarding l)))]

def parseChars (cs : List Char) : Option (List (String × Toml)) :=
  let cs := match cs with
    | '\uFEFF' :: rest => rest
    | cs => cs
  (Toml.Draft.lines ⟨[], []⟩ (cs.length + 1) cs).map fun d => Toml.Tree.entries d.root

theorem parse?_eq_parseChars (text : String) : Toml.parse? text = parseChars text.toList := rfl

theorem parse?_defaultsText :
    ∃ m, Toml.parse? defaultsText = some m ∧ ofEntries none m = defaultEntries := by
  -- the text is taken apart into its lines, since the characters of all take long to evaluate
  obtain ⟨cs, hcs, hsame⟩ : ∃ cs, defaultsText.toList = cs ∧
      (parseChars cs).any fun m => sameEntries (ofEntries none m) defaultEntries := by
    refine ⟨?_, ?_, ?_⟩
    rotate_left
    · unfold defaultsText
      simp only [String.toList_append]
      rfl
    · decide +kernel
  obtain ⟨m, hm, hentries⟩ := exists_eq_some_of_any hsame
  exact ⟨m, by rw [parse?_eq_parseChars, hcs, hm], eq_of_sameEntries hentries⟩

theorem layer_defaultsText {w : Shuffle} (hw : w.Natural) :
    layer .emptyTable none defaultsText w = (w.order (reorderEntries w defaultEntries)).foldlM
      (fun base e => layerEntry base e.1 e.2) .emptyTable := by
  obtain ⟨m, hparse, hentries⟩ := parse?_defaultsText
  rw [layer_eq hparse, walked_eq hw, hentries]

def defaultValue : Value :=
  .table none
    [("languages", .table none
      [("ash", discarding ["blank"]), ("bnf", discarding ["blank"]),
       ("json", discarding ["blank"]), ("lua", discarding ["blank"]), ("markup", discarding []),
       ("python", discarding ["blank"])]),
     ("render", .table none
      [("annotate", .scalar none (.bool false)), ("raw_categories", texts ["blank", "newline"])]),
     ("server", .table none
      [("address", .scalar none (.text "127.0.0.1:8080")),
       ("max_input_bytes", .scalar none (.int 65536))])]

theorem layer_defaultsText_eq : ∀ w ∈ [Shuffle.given, Shuffle.reversed],
    layer .emptyTable none defaultsText w = .ok defaultValue := by
  have hfold : ([Shuffle.given, Shuffle.reversed].all fun w =>
      ((w.order (reorderEntries w defaultEntries)).foldlM
        (fun base e => layerEntry base e.1 e.2) .emptyTable).toOption.any
          (sameValue · defaultValue)) := by decide +kernel
  intro w hw
  obtain ⟨v, hlayer, hv⟩ := exists_eq_some_of_any (List.all_eq_true.mp hfold w hw)
  have hnatural : w.Natural := by
    simp only [List.mem_cons, List.not_mem_nil, or_false] at hw
    rcases hw with rfl | rfl
    · exact Shuffle.natural_given
    · exact Shuffle.natural_reversed
  rw [layer_defaultsText hnatural, eq_ok_of_toOption hlayer, eq_of_sameValue hv]

theorem plain_defaultEntries : Plain defaultEntries := by
  unfold Plain
  decide

theorem lowerCase_names : ∀ name ∈ ["server", "render", "languages", "address",
    "max_input_bytes", "raw_categories", "annotate", "discard"] ++ defaultDiscards.names,
    lowerCase name = name := by
  decide +kernel

namespace Setting

def default : Setting → Option Value
  | address => some (.scalar none (.text "127.0.0.1:8080"))
  | maxInputBytes => some (.scalar none (.int 65536))
  | rawCategories => some (texts ["blank", "newline"])
  | annotate => some (.scalar none (.bool false))
  | discard language => (Dict.get? defaultDiscards language).map texts

end Setting

theorem given_discarding {d : Dict (List String)} (hlower : ∀ e ∈ d, lowerCase e.1 = e.1)
    (hnodup : d.names.Nodup) (language : String) :
    Value.given [language, "discard"]
        (.table none (d.map fun (name, l) => (name, discarding l))) =
      (d.get? language).map texts := by
  have hdiscard : lowerCase "discard" = "discard" := lowerCase_names _ (by simp)
  have hentry : ∀ l, Value.given ["discard"] (discarding l) = some (texts l) := fun l => by
    rw [discarding, given_singleton, if_pos hdiscard, given_nil]
  induction d with
  | nil => rfl
  | cons e d ih =>
    rw [List.forall_mem_cons] at hlower
    rw [Dict.names, List.map_cons, List.nodup_cons] at hnodup
    rw [List.map_cons, given_cons_entry, ih hlower.2 hnodup.2, Dict.get?_cons, hlower.1, hentry]
    by_cases hname : e.1 = language
    · have hnone : Dict.get? d language = none := by
        rw [← hname]
        exact Option.eq_none_iff_forall_ne_some.mpr fun l hl =>
          hnodup.1 (Dict.mem_names_iff.mpr ⟨l, hl⟩)
      simp [hname, hnone]
    · simp [hname, Ne.symm hname]

theorem inDocument_defaultEntries (σ : Setting) : σ.inDocument defaultEntries = σ.default := by
  rw [inDocument_of_plain plain_defaultEntries]
  cases σ with
  | discard language =>
    have hserver : lowerCase "server" = "server" := lowerCase_names _ (by simp)
    have hrender : lowerCase "render" = "render" := lowerCase_names _ (by simp)
    have hlanguages : lowerCase "languages" = "languages" := lowerCase_names _ (by simp)
    have hnodup : defaultDiscards.names.Nodup := by decide
    have hlower : ∀ e ∈ defaultDiscards, lowerCase e.1 = e.1 := fun e he =>
      lowerCase_names _ (List.mem_append_right _ (List.mem_map_of_mem he))
    have hgiven := given_discarding hlower hnodup language
    have hnil : Value.given ["languages", language, "discard"] (.table none []) = none := rfl
    simp [defaultEntries, Setting.path, Setting.default, given_cons_entry, hserver, hrender,
      hlanguages, hgiven, hnil]
  | _ => rfl

theorem tabled_defaultEntries (σ : Setting) : Tabled σ.path (.table none defaultEntries) := by
  have hserver : lowerCase "server" = "server" := lowerCase_names _ (by simp)
  have hrender : lowerCase "render" = "render" := lowerCase_names _ (by simp)
  have hlanguages : lowerCase "languages" = "languages" := lowerCase_names _ (by simp)
  cases σ <;> simp [defaultEntries, Setting.path, Tabled, isTable, discarding, hserver, hrender,
    hlanguages]

theorem distinct_defaultEntries (ks : List String) :
    Distinct ks (.table none defaultEntries) := by
  have hdiscarding : ∀ l ks, Distinct ks (discarding l) := fun l =>
    distinct_table (by simp) (by simpa using fun ks => distinct_of_not_isTable rfl ks)
  have hdiscards : (defaultDiscards.map (lowerCase ·.1)).Nodup := by decide
  refine distinct_table (by decide) ?_ ks
  simp only [defaultEntries, List.forall_mem_cons]
  refine ⟨distinct_table (by decide) ?_, distinct_table (by decide) ?_,
    distinct_table (by simpa [Function.comp_def] using hdiscards) ?_, List.forall_mem_nil _⟩
  · simpa using ⟨distinct_of_not_isTable rfl, distinct_of_not_isTable rfl⟩
  · simpa using ⟨distinct_of_not_isTable rfl, distinct_of_not_isTable rfl⟩
  · exact List.forall_mem_map.mpr fun e _ => hdiscarding e.2

theorem layered_defaultEntries (σ : Setting) : σ.Layered defaultEntries :=
  layered_of_plain plain_defaultEntries (tabled_defaultEntries σ) (distinct_defaultEntries _)

variable {base : Value} {w : Shuffle}

theorem laid_defaults (σ : Setting) (h : layer .emptyTable none defaultsText w = .ok base) :
    Laid σ.path σ.default .emptyTable base := by
  obtain ⟨m, hparse, hentries⟩ := parse?_defaultsText
  have hbase : Fits σ.path .emptyTable := by
    obtain ⟨k, ks, hσ⟩ := σ.exists_path_eq
    rw [hσ]
    exact fits_emptyTable k ks
  have hperm : (walked w none m).Perm (reorderEntries w defaultEntries) :=
    hentries ▸ walked_perm w none m
  rw [layer_eq hparse] at h
  rw [← inDocument_defaultEntries]
  exact laid_entries (layered_defaultEntries σ) hperm hbase h

variable {files : Files}

/-! Files. -/

theorem entries?_of_get? {name : String} (text : String) {l : List (String × Value)}
    (hfile : files.get? name = some text.toUTF8) (hname : '/' ∉ name.toList) (hne : name ≠ "")
    (hdot : name ≠ ".")
    (hl : ((Toml.parse? text).map (ofEntries (some name))).any (sameEntries · l)) :
    entries? files name = some l := by
  have hfind : findFile files name = some (name, text.toUTF8) := by
    rw [findFile, hfile, Files.normal_of_not_mem hname hne hdot]
  have htext : String.fromUTF8? text.toUTF8 = some text := dif_pos text.isValidUTF8
  obtain ⟨m, hm, hsame⟩ := exists_eq_some_of_any hl
  obtain ⟨entries, hparse, rfl⟩ := Option.map_eq_some_iff.mp hm
  simp only [entries?, hfind, Option.bind_eq_bind, Option.bind_some, htext, hparse,
    Option.pure_def, eq_of_sameEntries hsame]

theorem layerFile_eq {l : List (String × Value)} {name : String} (h : entries? files name = some l)
    (base : Value) (required : Bool) (hw : w.Natural) :
    layerFile files base name required w = (w.order (reorderEntries w l)).foldlM
      (fun base e => layerEntry base e.1 e.2) base := by
  obtain ⟨origin, m, rfl, hlayer⟩ := layerFile_of_entries? h base required w
  rw [hlayer, walked_eq hw]

theorem exists_eq_ok_of_map {ε α β : Type} {r : Except ε α} {f : α → β} {b : β}
    (h : r.toOption.map f = some b) : ∃ a, r = .ok a ∧ f a = b := by
  obtain ⟨a, ha, hb⟩ := Option.map_eq_some_iff.mp h
  exact ⟨a, eq_ok_of_toOption ha, hb⟩

end Lexicon.Settings
