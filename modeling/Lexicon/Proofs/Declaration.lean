import Mathlib.Data.List.Induction
import Lexicon.Proofs.Registry

namespace Lexicon

theorem exists_of_mapM_eq_error {α β ε : Type} {f : α → Except ε β} {l : List α} {e : ε}
    (h : l.mapM f = .error e) :
    ∃ before a after, l = before ++ a :: after ∧ (∀ b ∈ before, ∃ c, f b = .ok c) ∧
      f a = .error e := by
  induction l with
  | nil => cases h
  | cons a l ih =>
    rw [List.mapM_cons] at h
    cases ha : f a with
    | error e' =>
      rw [ha] at h
      cases h
      exact ⟨[], a, l, rfl, by simp, ha⟩
    | ok b =>
      cases hl : l.mapM f with
      | ok m =>
        rw [ha, hl] at h
        cases h
      | error e' =>
        rw [ha, hl] at h
        cases h
        obtain ⟨before, a', after, rfl, hbefore, ha'⟩ := ih hl
        exact ⟨a :: before, a', after, rfl, List.forall_mem_cons.mpr ⟨⟨b, ha⟩, hbefore⟩, ha'⟩

theorem map_eq_of_forall₂ {α β : Type} {R : α → β → Prop} {g : β → α} {l : List α} {m : List β}
    (hR : ∀ a b, R a b → g b = a) (h : List.Forall₂ R l m) : m.map g = l := by
  induction h with
  | nil => rfl
  | cons hab _ ih => rw [List.map_cons, hR _ _ hab, ih]

theorem forall_mem_of_forall₂ {α β : Type} {R : α → β → Prop} {P : β → Prop} {l : List α}
    {m : List β} (hR : ∀ a b, R a b → P b) (h : List.Forall₂ R l m) : ∀ b ∈ m, P b := by
  induction h with
  | nil => simp
  | cons hab _ ih => exact List.forall_mem_cons.mpr ⟨hR _ _ hab, ih⟩

theorem Dict.get?_ofList {α : Type} (l : List (String × α)) (name : String) :
    (Dict.ofList l).get? name = l.reverse.lookup name := by
  induction l using List.reverseRecOn with
  | nil => rfl
  | append_singleton l e ih =>
    have hlast : Dict.ofList (l ++ [e]) = (Dict.ofList l).insert e.1 e.2 := List.foldl_concat ..
    have hcons := Dict.get?_cons e l.reverse name
    rw [Dict.get?] at hcons
    rw [hlast, Dict.get?_insert, ih, List.reverse_append, List.reverse_singleton,
      List.singleton_append, hcons]
    rfl

theorem Dict.pairwise_names_ofList {α : Type} (l : List (String × α)) :
    (Dict.ofList l).names.Pairwise (· < ·) := by
  induction l using List.reverseRecOn with
  | nil => exact List.Pairwise.nil
  | append_singleton l e ih =>
    have hlast : Dict.ofList (l ++ [e]) = (Dict.ofList l).insert e.1 e.2 := List.foldl_concat ..
    rw [hlast]
    exact Dict.pairwise_names_insert ih e.1 e.2

section

variable {seen names : List String} {n : String}

theorem firstRepeated?_eq_none_iff :
    firstRepeated? seen names = none ↔ names.Nodup ∧ ∀ n ∈ names, n ∉ seen := by
  induction names generalizing seen with
  | nil => simp [firstRepeated?]
  | cons n names ih =>
    rw [firstRepeated?, List.nodup_cons, List.forall_mem_cons]
    split
    · rename_i hn
      simp [hn]
    · rename_i hn
      simp only [ih, List.mem_cons, not_or, hn, not_false_eq_true, true_and]
      constructor
      · rintro ⟨hnodup, hseen⟩
        exact ⟨⟨fun hmem => (hseen n hmem).1 rfl, hnodup⟩, fun m hm => (hseen m hm).2⟩
      · rintro ⟨⟨hmem, hnodup⟩, hseen⟩
        exact ⟨hnodup, fun m hm => ⟨fun heq => hmem (heq ▸ hm), hseen m hm⟩⟩

theorem exists_of_firstRepeated?_eq_some (h : firstRepeated? seen names = some n) :
    ∃ before after, names = before ++ n :: after ∧ (n ∈ seen ∨ n ∈ before) ∧ before.Nodup ∧
      ∀ m ∈ before, m ∉ seen := by
  induction names generalizing seen with
  | nil => cases h
  | cons m names ih =>
    rw [firstRepeated?] at h
    split at h
    · rename_i hm
      cases h
      exact ⟨[], names, rfl, .inl hm, List.nodup_nil, by simp⟩
    · rename_i hm
      obtain ⟨before, after, rfl, hn, hnodup, hseen⟩ := ih h
      simp only [List.mem_cons, not_or] at hn hseen
      refine ⟨m :: before, after, rfl, ?_, ?_, ?_⟩
      · simpa [or_assoc, or_left_comm] using hn
      · exact List.nodup_cons.mpr ⟨fun hmem => (hseen m hmem).1 rfl, hnodup⟩
      · exact List.forall_mem_cons.mpr ⟨hm, fun k hk => (hseen k hk).2⟩

end

namespace Category

variable [Regex.Engine] {name : String} {sources : List String} {k : Category} {fault : Fault}

def compile (source : String) : Except Fault Pattern :=
  match Pattern.compile? source with
  | some p => .ok p
  | none => .error (.badPattern source)

theorem compile_eq_ok_iff {s : String} {p : Pattern} :
    compile s = .ok p ↔ Pattern.compile? s = some p := by
  unfold compile
  cases Pattern.compile? s <;> simp

theorem compile_eq_error_iff {s : String} :
    compile s = .error fault ↔ Pattern.compile? s = none ∧ fault = .badPattern s := by
  unfold compile
  cases Pattern.compile? s <;> simp [eq_comm]

theorem source_of_compile? {s : String} {p : Pattern} (h : Pattern.compile? s = some p) :
    p.source = s := by
  obtain ⟨r, -, rfl⟩ := Option.map_eq_some_iff.mp h
  rfl

theorem build_eq (name : String) (sources : List String) : build name sources =
    if sources.isEmpty then .error (.noPatterns name)
    else (sources.mapM compile).bind fun patterns => .ok ⟨name, patterns⟩ := rfl

def Sound (sources : List String) : Prop :=
  sources ≠ [] ∧ ∀ s ∈ sources, (Pattern.compile? s).isSome

theorem build_eq_ok_iff : build name sources = .ok k ↔
    k.name = name ∧ sources ≠ [] ∧
      List.Forall₂ (fun s p => Pattern.compile? s = some p) sources k.patterns := by
  rw [build_eq]
  cases sources with
  | nil => simp
  | cons s sources =>
    have hpatterns : List.Forall₂ (fun s p => Pattern.compile? s = some p) (s :: sources)
        k.patterns ↔ (s :: sources).mapM compile = .ok k.patterns := by
      simp only [mapM_eq_ok_iff, compile_eq_ok_iff]
    obtain ⟨n, patterns⟩ := k
    rw [if_neg (by simp), hpatterns]
    cases (s :: sources).mapM compile <;> simp [Except.bind, eq_comm]

theorem sound_iff : Sound sources ↔ ∃ k, build name sources = .ok k := by
  simp only [build_eq_ok_iff, Sound, ← Option.ne_none_iff_isSome, Option.ne_none_iff_exists']
  rw [← exists_forall₂_iff]
  constructor
  · rintro ⟨hne, patterns, h⟩
    exact ⟨⟨name, patterns⟩, rfl, hne, h⟩
  · rintro ⟨k, -, hne, h⟩
    exact ⟨hne, k.patterns, h⟩

theorem fault_of_build (h : build name sources = .error fault) :
    (sources = [] ∧ fault = .noPatterns name) ∨
    ∃ before s after, sources = before ++ s :: after ∧
      (∀ q ∈ before, (Pattern.compile? q).isSome) ∧ Pattern.compile? s = none ∧
      fault = .badPattern s := by
  rw [build_eq] at h
  split at h
  · rename_i hempty
    cases h
    exact .inl ⟨List.isEmpty_iff.mp hempty, rfl⟩
  · cases hm : sources.mapM compile with
    | ok patterns =>
      rw [hm] at h
      cases h
    | error e =>
      rw [hm] at h
      cases h
      obtain ⟨before, s, after, hsources, hbefore, hs⟩ := exists_of_mapM_eq_error hm
      obtain ⟨hnone, hfault⟩ := compile_eq_error_iff.mp hs
      refine .inr ⟨before, s, after, hsources, fun q hq => ?_, hnone, hfault⟩
      obtain ⟨p, hp⟩ := hbefore q hq
      exact Option.isSome_of_eq_some (compile_eq_ok_iff.mp hp)

end Category

namespace Language

def declared (clauses : List Clause) : List (String × List String) :=
  clauses.filterMap Clause.category?

def declaredNames (clauses : List Clause) : List String := (declared clauses).map (·.1)

def marked (clauses : List Clause) : List String := clauses.filterMap Clause.wrong?

theorem names_of_categories {clauses : List Clause} {categories : List Category}
    (h : categories.map (fun k => (k.name, k.patterns.map (·.source))) = declared clauses) :
    categories.map (·.name) = declaredNames clauses := by
  rw [declaredNames, ← h, List.map_map]
  rfl

section

variable [Regex.Engine]

structure WellFormed (clauses : List Clause) : Prop where
  ne_nil : declared clauses ≠ []
  sound : ∀ c ∈ declared clauses, Category.Sound c.2
  nodup : (declaredNames clauses).Nodup
  wrong : ∀ n ∈ marked clauses, n ∈ declaredNames clauses

structure Describes (name : String) (clauses : List Clause) (l : Language) : Prop where
  name_eq : l.name = name
  categories_eq : l.categories.map (fun k => (k.name, k.patterns.map (·.source))) = declared clauses
  compiled : ∀ k ∈ l.categories, ∀ p ∈ k.patterns, Pattern.compile? p.source = some p
  isWrong_iff : ∀ n, l.isWrong n ↔ n ∈ marked clauses
  metadata : ∀ key, l.metadata.get? key =
    (clauses.filterMap Clause.metadata?).reverse.lookup key
  ascending : l.metadata.names.Pairwise (· < ·)
  pipeline : l.pipeline = (clauses.filterMap Clause.pipeline?).getLast?

/-- The faults of a declaration. Each rule holds only where those above it do not. -/
inductive Faulty (name : String) (clauses : List Clause) : Fault → Prop
  | noPatterns {before after : List (String × List String)} {n : String} :
      declared clauses = before ++ (n, []) :: after → (∀ c ∈ before, Category.Sound c.2) →
      Faulty name clauses (.noPatterns n)
  | badPattern {before after : List (String × List String)} {n s : String}
      {earlier later : List String} :
      declared clauses = before ++ (n, earlier ++ s :: later) :: after →
      (∀ c ∈ before, Category.Sound c.2) → (∀ q ∈ earlier, (Pattern.compile? q).isSome) →
      Pattern.compile? s = none → Faulty name clauses (.badPattern s)
  | noCategories : declared clauses = [] → Faulty name clauses (.noCategories name)
  | repeated {before after : List String} {n : String} :
      (∀ c ∈ declared clauses, Category.Sound c.2) →
      declaredNames clauses = before ++ n :: after → before.Nodup → n ∈ before →
      Faulty name clauses (.repeatedCategory name n)
  | unknownWrong {n : String} :
      (∀ c ∈ declared clauses, Category.Sound c.2) → declared clauses ≠ [] →
      (declaredNames clauses).Nodup → n ∈ marked clauses → n ∉ declaredNames clauses →
      Faulty name clauses (.unknownWrong name n)

variable {name : String} {clauses : List Clause} {l : Language} {fault : Fault}

theorem WellFormed.sound_of_eq {before after : List (String × List String)}
    {c : String × List String} (h : WellFormed clauses)
    (hdeclared : declared clauses = before ++ c :: after) : Category.Sound c.2 :=
  h.sound c (by simp [hdeclared])

theorem Faulty.not_wellFormed (h : Faulty name clauses fault) : ¬ WellFormed clauses := by
  intro hw
  cases h with
  | noPatterns hdeclared _ => exact (hw.sound_of_eq hdeclared).1 rfl
  | badPattern hdeclared _ _ hnone =>
    have hsome := (hw.sound_of_eq hdeclared).2 _ (List.mem_append_right _ List.mem_cons_self)
    simp [hnone] at hsome
  | noCategories hnil => exact hw.ne_nil hnil
  | repeated _ hnames _ hn =>
    have hnodup := hw.nodup
    rw [hnames, List.nodup_append] at hnodup
    exact hnodup.2.2 _ hn _ List.mem_cons_self rfl
  | unknownWrong _ _ _ hmarked hnot => exact hnot (hw.wrong _ hmarked)

theorem built_categories {categories : List Category}
    (h : (declared clauses).mapM (fun (n, sources) => Category.build n sources) = .ok categories) :
    (∀ c ∈ declared clauses, Category.Sound c.2) ∧
    categories.map (fun k => (k.name, k.patterns.map (·.source))) = declared clauses ∧
    ∀ k ∈ categories, ∀ p ∈ k.patterns, Pattern.compile? p.source = some p := by
  rw [mapM_eq_ok_iff] at h
  refine ⟨fun c hc => ?_, map_eq_of_forall₂ ?_ h, forall_mem_of_forall₂ ?_ h⟩
  · exact Category.sound_iff.mpr (exists_forall₂_iff.mp ⟨categories, h⟩ c hc)
  · rintro ⟨n, sources⟩ k hk
    obtain ⟨rfl, -, hpatterns⟩ := Category.build_eq_ok_iff.mp hk
    have hsources : k.patterns.map (·.source) = sources :=
      map_eq_of_forall₂ (fun _ _ hp => Category.source_of_compile? hp) hpatterns
    rw [hsources]
  · rintro ⟨n, sources⟩ k hk
    obtain ⟨-, -, hpatterns⟩ := Category.build_eq_ok_iff.mp hk
    refine forall_mem_of_forall₂ (fun s p hp => ?_) hpatterns
    rwa [Category.source_of_compile? hp]

theorem build_of_unsound {fault : Fault}
    (h : (declared clauses).mapM (fun (n, sources) => Category.build n sources) = .error fault) :
    build name clauses = .error fault := by
  unfold build
  rw [declared] at h
  rw [h]
  rfl

theorem build_of_sound {categories : List Category}
    (h : (declared clauses).mapM (fun (n, sources) => Category.build n sources) = .ok categories) :
    build name clauses =
      if declaredNames clauses = [] then .error (.noCategories name)
      else match firstRepeated? [] (declaredNames clauses) with
        | some n => .error (.repeatedCategory name n)
        | none =>
          match (marked clauses).find? (· ∉ declaredNames clauses) with
          | some n => .error (.unknownWrong name n)
          | none => .ok {
              name, categories
              wrong := marked clauses
              metadata := .ofList (clauses.filterMap Clause.metadata?)
              pipeline := (clauses.filterMap Clause.pipeline?).getLast? } := by
  rw [← names_of_categories (built_categories h).2.1]
  unfold build
  rw [declared] at h
  rw [h]
  simp only [bind, Except.bind, throw, throwThe, MonadExceptOf.throw, pure, Except.pure,
    List.isEmpty_iff]
  split
  · rfl
  · cases firstRepeated? [] (categories.map (·.name)) with
    | some n => rfl
    | none =>
      unfold marked
      cases (clauses.filterMap Clause.wrong?).find? (· ∉ categories.map (·.name)) <;> rfl

theorem faulty_of_build (h : build name clauses = .error fault) : Faulty name clauses fault := by
  cases hm : (declared clauses).mapM fun (n, sources) => Category.build n sources with
  | error e =>
    rw [build_of_unsound hm] at h
    cases h
    obtain ⟨before, ⟨n, sources⟩, after, hdeclared, hbefore, hn⟩ := exists_of_mapM_eq_error hm
    have hsound : ∀ c ∈ before, Category.Sound c.2 :=
      fun c hc => Category.sound_iff.mpr (hbefore c hc)
    rcases Category.fault_of_build hn with
      ⟨rfl, rfl⟩ | ⟨earlier, s, later, rfl, hearlier, hs, rfl⟩
    · exact .noPatterns hdeclared hsound
    · exact .badPattern hdeclared hsound hearlier hs
  | ok categories =>
    have hsound := (built_categories hm).1
    rw [build_of_sound hm] at h
    split at h
    · rename_i hnil
      cases h
      exact .noCategories (List.map_eq_nil_iff.mp hnil)
    · rename_i hne
      split at h
      · rename_i n hn
        cases h
        obtain ⟨before, after, hnames, hmem, hnodup, -⟩ := exists_of_firstRepeated?_eq_some hn
        exact .repeated hsound hnames hnodup (by simpa using hmem)
      · rename_i hrep
        split at h
        · rename_i n hn
          cases h
          have hnot : n ∉ declaredNames clauses := by simpa using List.find?_some hn
          exact .unknownWrong hsound (fun hnil => hne (by rw [declaredNames, hnil]; rfl))
            (firstRepeated?_eq_none_iff.mp hrep).1 (List.mem_of_find?_eq_some hn) hnot
        · cases h

theorem describes_of_build (h : build name clauses = .ok l) : Describes name clauses l := by
  have hbuilt := built_of_build h
  obtain ⟨-, hcategories, hcompiled⟩ := built_categories hbuilt.categories_eq
  exact {
    name_eq := hbuilt.name_eq
    categories_eq := hcategories
    compiled := hcompiled
    isWrong_iff := fun n => by rw [isWrong, hbuilt.wrong_eq, decide_eq_true_iff, marked]
    metadata := fun key => by rw [hbuilt.metadata_eq, Dict.get?_ofList]
    ascending := by
      rw [hbuilt.metadata_eq]
      exact Dict.pairwise_names_ofList _
    pipeline := hbuilt.pipeline_eq }

theorem wellFormed_of_build (h : build name clauses = .ok l) : WellFormed clauses := by
  have hbuilt := built_of_build h
  obtain ⟨hsound, hcategories, -⟩ := built_categories hbuilt.categories_eq
  have hnames : l.categoryNames = declaredNames clauses := names_of_categories hcategories
  exact {
    ne_nil := fun hnil => by
      have hne := hbuilt.categories_ne
      rw [hnames, declaredNames, hnil] at hne
      cases hne
    sound := hsound
    nodup := hnames ▸ (firstRepeated?_eq_none_iff.mp hbuilt.nodup).1
    wrong := fun n hn => by
      have hfound := List.find?_eq_none.mp hbuilt.wrong_declared n (hbuilt.wrong_eq ▸ hn)
      simpa [hnames] using hfound }

theorem exists_fault_of_not_wellFormed (h : ¬ WellFormed clauses) (name : String) :
    ∃ fault, build name clauses = .error fault := by
  cases hb : build name clauses with
  | ok l => exact absurd (wellFormed_of_build hb) h
  | error fault => exact ⟨fault, rfl⟩

/-- A well-formed declaration is accepted and gives the language that it describes. Any other is
refused with a fault that it has, the first in the order of precedence. -/
theorem build_describes_or_faulty (name : String) (clauses : List Clause) :
    (WellFormed clauses ∧ ∃ l, build name clauses = .ok l ∧ Describes name clauses l) ∨
    (¬ WellFormed clauses ∧ ∃ fault, build name clauses = .error fault ∧
      Faulty name clauses fault) := by
  cases hb : build name clauses with
  | ok l => exact .inl ⟨wellFormed_of_build hb, l, rfl, describes_of_build hb⟩
  | error fault =>
    have hfaulty := faulty_of_build hb
    exact .inr ⟨hfaulty.not_wellFormed, fault, rfl, hfaulty⟩

end

/-- Clauses out of order: a category is marked wrong before it is declared, and of two values for a
key and two pipelines the first do not count. -/
def scattered : List Clause :=
  [.wrong "number", .metadata "label" "first", .pipeline [.refuse "none" ""],
    .category "word" ["[a-z]+"], .metadata "label" "second", .category "number" ["\\d", "#+"],
    .wrongCategory "blank" [" +"], .pipeline [.merge "word", .table {}]]

theorem scattered_described :
    ∃ l, build "scattered" scattered = .ok l ∧ Describes "scattered" scattered l ∧
      l.categories.map (fun c => (c.name, c.patterns.map (·.source))) =
        [("word", ["[a-z]+"]), ("number", ["\\d", "#+"]), ("blank", [" +"])] ∧
      l.wrong = ["number", "blank"] ∧ Dict.get? l.metadata "label" = some "second" ∧
      l.pipeline = some [.merge "word", .table {}] := by
  have hbuild : ∃ l, build "scattered" scattered = .ok l ∧
      l.categories.map (fun c => (c.name, c.patterns.map (·.source))) =
        [("word", ["[a-z]+"]), ("number", ["\\d", "#+"]), ("blank", [" +"])] :=
    exists_of_build (by decide +kernel)
  obtain ⟨l, hl, hcategories⟩ := hbuild
  rcases build_describes_or_faulty "scattered" scattered with
    ⟨-, l', hl', hdescribes⟩ | ⟨-, fault, hfault, -⟩
  · obtain rfl : l = l' := by simpa [hl] using hl'
    have hbuilt := built_of_build hl
    refine ⟨l, hl, hdescribes, hcategories, hbuilt.wrong_eq, ?_, hbuilt.pipeline_eq⟩
    rw [hbuilt.metadata_eq]
    rfl
  · simp [hl] at hfault

end Language

end Lexicon
