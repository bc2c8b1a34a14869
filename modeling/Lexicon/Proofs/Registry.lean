import Mathlib.Data.List.Nodup
import Lexicon.Proofs.Build
import Lexicon.Registry

namespace Lexicon

namespace Dict

variable {α : Type} {d : Dict α} {name : String} {a : α} {e : String × α}

theorem get?_cons (e : String × α) (d : Dict α) (name : String) :
    get? (e :: d) name = if name = e.1 then some e.2 else d.get? name := by
  obtain ⟨n, a⟩ := e
  by_cases h : name = n
  · simp [get?, h]
  · simp [get?, List.lookup_cons, h, beq_eq_false_iff_ne.mpr h]

theorem get?_insert (d : Dict α) (name other : String) (a : α) :
    (insert name a d).get? other = if other = name then some a else d.get? other := by
  induction d with
  | nil => rw [insert, get?_cons]
  | cons e d ih =>
    rw [insert]
    split
    · rw [get?_cons]
    · split
      · rename_i heq
        by_cases ho : other = name <;> simp [get?_cons, ← heq, ho]
      · rename_i hne
        rw [get?_cons, get?_cons, ih]
        by_cases ho : other = name
        · simp [ho, hne]
        · simp [ho]

theorem mem_of_mem_insert (h : e ∈ insert name a d) : e = (name, a) ∨ e ∈ d := by
  induction d with
  | nil => simpa [insert] using h
  | cons e' d ih =>
    rw [insert] at h
    split at h
    · exact List.mem_cons.mp h
    · split at h
      · exact (List.mem_cons.mp h).imp_right (List.mem_cons_of_mem e')
      · rcases List.mem_cons.mp h with rfl | h
        · exact .inr List.mem_cons_self
        · exact (ih h).imp_right (List.mem_cons_of_mem e')

theorem names_insert_congr {β : Type} {d' : Dict β} {b : β} (h : d.names = d'.names) :
    (insert name a d).names = (insert name b d').names := by
  induction d generalizing d' with
  | nil =>
    obtain rfl : d' = [] := by simpa [names] using h.symm
    rfl
  | cons e d ih =>
    cases d' with
    | nil => simp [names] at h
    | cons e' d' =>
      simp only [names, List.map_cons, List.cons.injEq] at h
      have hrest := ih h.2
      simp only [names] at hrest
      simp only [insert, names, h.1]
      split
      · simp [h]
      · split
        · simp [h]
        · simp [h, hrest]

theorem mem_of_get? (h : d.get? name = some a) : (name, a) ∈ d := by
  obtain ⟨before, after, rfl, -⟩ := List.lookup_eq_some_iff.mp h
  simp

theorem exists_get?_of_mem_names (h : name ∈ d.names) : ∃ a, d.get? name = some a := by
  apply Option.isSome_iff_exists.mp
  rw [← Option.ne_none_iff_isSome, get?, Ne, List.lookup_eq_none_iff]
  intro hnone
  obtain ⟨e, he, rfl⟩ := List.mem_map.mp h
  simpa using hnone e he

theorem mem_names_iff : name ∈ d.names ↔ ∃ a, d.get? name = some a :=
  ⟨exists_get?_of_mem_names, fun ⟨_, h⟩ => List.mem_map_of_mem (mem_of_get? h)⟩

theorem mem_names_insert {other : String} :
    other ∈ (insert name a d).names ↔ other = name ∨ other ∈ d.names := by
  rw [mem_names_iff, mem_names_iff, get?_insert]
  by_cases ho : other = name <;> simp [ho]

theorem pairwise_names_insert (h : d.names.Pairwise (· < ·)) (name : String) (a : α) :
    (insert name a d).names.Pairwise (· < ·) := by
  induction d with
  | nil => simp [insert, names]
  | cons e d ih =>
    have hnames : names (e :: d) = e.1 :: names d := rfl
    rw [hnames, List.pairwise_cons] at h
    rw [insert]
    split
    · rename_i hlt
      have hbelow : ∀ other ∈ names (e :: d), name < other := by
        rw [hnames, List.forall_mem_cons]
        exact ⟨hlt, fun other ho => String.lt_trans hlt (h.1 other ho)⟩
      exact List.pairwise_cons.mpr ⟨hbelow, List.pairwise_cons.mpr h⟩
    · rename_i hnlt
      split
      · rename_i heq
        exact List.pairwise_cons.mpr ⟨heq ▸ h.1, h.2⟩
      · rename_i hne
        have hlt : e.1 < name := Decidable.byContradiction fun hn =>
          hne (String.le_antisymm (String.not_lt.mp hn) (String.not_lt.mp hnlt))
        refine List.pairwise_cons.mpr ⟨fun other ho => ?_, ih h.2⟩
        rcases mem_names_insert.mp ho with rfl | ho
        · exact hlt
        · exact h.1 other ho

end Dict

namespace Registry

variable {r : Registry} {l : Language}

/-- Each language stands under its own name, and the names ascend. -/
structure Filed (r : Registry) : Prop where
  name_eq : ∀ e ∈ r, e.2.name = e.1
  ascending : r.languages.Pairwise (· < ·)

theorem filed_nil : Filed [] := ⟨by simp, List.Pairwise.nil⟩

theorem Filed.register (h : r.Filed) (l : Language) : (r.register l).Filed where
  name_eq e he := by
    rcases Dict.mem_of_mem_insert he with rfl | he
    · rfl
    · exact h.name_eq e he
  ascending := Dict.pairwise_names_insert h.ascending l.name l

theorem Filed.foldl_register (h : r.Filed) (languages : List Language) :
    (languages.foldl Registry.register r).Filed := by
  induction languages generalizing r with
  | nil => exact h
  | cons l languages ih => exact ih (h.register l)

theorem get?_register (r : Registry) (l : Language) (name : String) :
    (r.register l).get? name = if name = l.name then some l else r.get? name :=
  Dict.get?_insert r l.name name l

theorem Filed.get?_foldl_register (h : r.Filed) (r' : Registry) (name : String) :
    ((r.map (·.2)).foldl Registry.register r').get? name = (r.get? name).or (r'.get? name) := by
  induction r generalizing r' with
  | nil => rfl
  | cons e r ih =>
    have hhead : e.2.name = e.1 := h.name_eq e List.mem_cons_self
    have hascending := List.pairwise_cons.mp h.ascending
    have htail : Filed r := ⟨fun e' he' => h.name_eq e' (List.mem_cons_of_mem e he'), hascending.2⟩
    have hcons : Registry.get? (e :: r) name =
        if name = e.1 then some e.2 else Registry.get? r name := Dict.get?_cons e r name
    rw [List.map_cons, List.foldl_cons, ih htail, get?_register, hcons, hhead]
    by_cases hname : name = e.1
    · -- the names ascend, so that no later language takes the place of the first
      have hnone : Registry.get? r name = none := by
        refine Option.eq_none_iff_forall_ne_some.mpr fun l hl => ?_
        have hmem : name ∈ Dict.names r := Dict.mem_names_iff.mpr ⟨l, hl⟩
        exact String.lt_irrefl name (hname ▸ hascending.1 name hmem)
      simp [hname ▸ hnone, hname]
    · simp [hname]

end Registry

namespace Bundled

def enter (r : Registry) (e : String × List Clause) : Registry :=
  match Language.build e.1 e.2 with
  | .ok l => r.register l
  | .error _ => r

theorem mem_of_mem_enter {r : Registry} {e : String × List Clause} {name : String} {l : Language}
    (h : (name, l) ∈ enter r e) :
    (name, l) ∈ r ∨ name = e.1 ∧ Language.build e.1 e.2 = .ok l := by
  unfold enter at h
  split at h
  · rename_i l' hl
    rcases Dict.mem_of_mem_insert h with heq | hmem
    · cases heq
      exact .inr ⟨(Language.built_of_build hl).name_eq, hl⟩
    · exact .inl hmem
  · exact .inl h

theorem filed_foldl_enter {entries : List (String × List Clause)} {r : Registry} (h : r.Filed) :
    (entries.foldl enter r).Filed := by
  induction entries generalizing r with
  | nil => exact h
  | cons e entries ih =>
    refine ih ?_
    unfold enter
    split
    · exact h.register _
    · exact h

theorem filed_registry : registry.Filed := filed_foldl_enter Registry.filed_nil

theorem exists_of_mem_foldl {entries : List (String × List Clause)} {r : Registry} {name : String}
    {l : Language} (h : (name, l) ∈ entries.foldl enter r) :
    (name, l) ∈ r ∨ ∃ clauses, (name, clauses) ∈ entries ∧ Language.build name clauses = .ok l := by
  induction entries generalizing r with
  | nil => exact .inl h
  | cons e entries ih =>
    rcases ih h with hmem | ⟨clauses, hmem, hl⟩
    · rcases mem_of_mem_enter hmem with hr | ⟨rfl, hl⟩
      · exact .inl hr
      · exact .inr ⟨e.2, by simp, hl⟩
    · exact .inr ⟨clauses, List.mem_cons_of_mem e hmem, hl⟩

theorem exists_declaration_of_get? {name : String} {l : Language}
    (h : registry.get? name = some l) :
    ∃ clauses, (name, clauses) ∈ declarations ∧ Language.build name clauses = .ok l :=
  (exists_of_mem_foldl (Dict.mem_of_get? h)).resolve_left (List.not_mem_nil)

theorem build_of_get? {name : String} {clauses : List Clause} {l : Language}
    (hmem : (name, clauses) ∈ declarations) (h : registry.get? name = some l) :
    Language.build name clauses = .ok l := by
  obtain ⟨clauses', hmem', hl⟩ := exists_declaration_of_get? h
  have hnames : (declarations.map Prod.fst).Nodup := by decide
  cases List.inj_on_of_nodup_map hnames hmem hmem' rfl
  exact hl

theorem names_foldl_enter {entries : List (String × List Clause)} {r : Registry} {d : Dict Unit}
    (h : ∀ e ∈ entries, ∃ l, Language.build e.1 e.2 = .ok l) (hr : Dict.names r = d.names) :
    Dict.names (entries.foldl enter r) = (entries.foldl (fun d e => d.insert e.1 ()) d).names := by
  induction entries generalizing r d with
  | nil => exact hr
  | cons e entries ih =>
    obtain ⟨l, hl⟩ := h e List.mem_cons_self
    have henter : enter r e = Dict.insert e.1 l r := by
      rw [enter, hl, ← (Language.built_of_build hl).name_eq]
      rfl
    refine ih (fun e' he' => h e' (List.mem_cons_of_mem e he')) ?_
    rw [henter]
    exact Dict.names_insert_congr hr

end Bundled

end Lexicon
