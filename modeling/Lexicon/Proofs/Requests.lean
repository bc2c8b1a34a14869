import Mathlib.Data.List.Induction
import Mathlib.Data.List.TakeWhile
import Lexicon.Service

namespace Lexicon

namespace Text

variable {cs before after : List Char}

theorem trimStart_append (hbefore : ∀ c ∈ before, isBlank c = true)
    (hcs : ∀ c ∈ cs.head?, isBlank c = false) : trimStart (before ++ cs) = cs := by
  rw [trimStart, List.dropWhile_append_of_pos hbefore]
  cases cs with
  | nil => rfl
  | cons c cs => rw [List.dropWhile_cons_of_neg (by simp [hcs c rfl])]

theorem trimStart_of_blank (h : ∀ c ∈ cs, isBlank c = true) : trimStart cs = [] := by
  simpa using @trimStart_append [] cs h (by simp)

theorem trimEnd_eq (cs : List Char) : trimEnd cs = (trimStart cs.reverse).reverse := rfl

theorem trim_of_blank (h : ∀ c ∈ cs, isBlank c = true) : trim cs = [] := by
  rw [trim, trimStart_of_blank h]
  rfl

theorem trim_padded (hbefore : ∀ c ∈ before, isBlank c = true)
    (hafter : ∀ c ∈ after, isBlank c = true) (hne : cs ≠ [])
    (hhead : ∀ c ∈ cs.head?, isBlank c = false) (hlast : ∀ c ∈ cs.getLast?, isBlank c = false) :
    trim (before ++ (cs ++ after)) = cs := by
  have hstart : trimStart (before ++ (cs ++ after)) = cs ++ after := by
    apply trimStart_append hbefore
    rwa [List.head?_append, Option.or_of_isSome (List.isSome_head?.mpr hne)]
  have hend : trimStart (after.reverse ++ cs.reverse) = cs.reverse :=
    trimStart_append (by simpa using hafter) (by simpa using hlast)
  rw [trim, hstart, trimEnd_eq, List.reverse_append, hend, List.reverse_reverse]

theorem exists_trimStart (cs : List Char) :
    ∃ before, cs = before ++ trimStart cs ∧ (∀ c ∈ before, isBlank c = true) ∧
      ∀ c ∈ (trimStart cs).head?, isBlank c = false := by
  refine ⟨cs.takeWhile isBlank, List.takeWhile_append_dropWhile.symm,
    fun c => List.mem_takeWhile_imp, fun c hc => ?_⟩
  have hhead := List.head?_dropWhile_not isBlank cs
  rw [trimStart] at hc
  rwa [hc] at hhead

theorem exists_trim (cs : List Char) :
    ∃ before after, cs = before ++ (trim cs ++ after) ∧ (∀ c ∈ before, isBlank c = true) ∧
      (∀ c ∈ after, isBlank c = true) ∧ (∀ c ∈ (trim cs).head?, isBlank c = false) ∧
      ∀ c ∈ (trim cs).getLast?, isBlank c = false := by
  obtain ⟨before, hstart, hbefore, hhead⟩ := exists_trimStart cs
  obtain ⟨after, hend, hafter, hlast⟩ := exists_trimStart (trimStart cs).reverse
  have htrim : trimStart cs = trim cs ++ after.reverse := by
    rw [trim, trimEnd_eq, ← List.reverse_append, ← hend, List.reverse_reverse]
  refine ⟨before, after.reverse, by rw [← htrim, ← hstart], hbefore, by simpa using hafter, ?_, ?_⟩
  · intro c hc
    refine hhead c ?_
    rw [htrim, List.head?_append, hc]
    rfl
  · rwa [trim, trimEnd_eq, List.getLast?_reverse]

end Text

open Text

theorem splitCommas_eq_splitOn (cs : List Char) : splitCommas cs = cs.splitOn ',' := by
  induction cs with
  | nil => rfl
  | cons c cs ih =>
    simp only [List.splitOn_eq_splitOnP, List.splitOnP_cons_eq_if_modifyHead] at ih ⊢
    rw [splitCommas, ih]
    by_cases hc : c = ','
    · simp [hc]
    · rw [if_neg hc, if_neg (by simpa using hc)]
      cases hsplit : cs.splitOnP (· == ',') with
      | nil => simp at hsplit
      | cons first more => rfl

theorem intercalate_append_cons (before : List (List Char)) (item : List Char)
    (after : List (List Char)) :
    [','].intercalate (before ++ item :: after) =
      before.flatMap (· ++ [',']) ++ item ++ after.flatMap (',' :: ·) := by
  induction before with
  | nil =>
    induction after generalizing item with
    | nil => simp
    | cons next after ih =>
      simp only [List.nil_append, List.flatMap_nil] at ih
      simp [List.intercalate_cons_cons, ih]
  | cons first before ih =>
    obtain ⟨next, rest, hrest⟩ : ∃ next rest, before ++ item :: after = next :: rest := by
      cases before <;> simp
    rw [hrest] at ih
    rw [List.cons_append, hrest, List.intercalate_cons_cons, ih]
    simp

theorem comma_not_mem_of_mem_splitCommas {cs : List Char} :
    ∀ item ∈ splitCommas cs, ',' ∉ item := by
  induction cs with
  | nil => simp [splitCommas]
  | cons c cs ih =>
    rw [splitCommas]
    split
    · exact List.forall_mem_cons.mpr ⟨List.not_mem_nil, ih⟩
    · rename_i hc
      split
      · simpa using Ne.symm hc
      · rename_i first more hsplit
        rw [hsplit, List.forall_mem_cons] at ih
        refine List.forall_mem_cons.mpr ⟨?_, ih.2⟩
        simpa [ih.1] using Ne.symm hc

theorem mem_splitCommas_iff {item cs : List Char} :
    item ∈ splitCommas cs ↔ ',' ∉ item ∧ ∃ before after, cs = before ++ (item ++ after) ∧
      (∀ c ∈ before.getLast?, c = ',') ∧ ∀ c ∈ after.head?, c = ',' := by
  constructor
  · intro h
    refine ⟨comma_not_mem_of_mem_splitCommas item h, ?_⟩
    have hjoin : [','].intercalate (cs.splitOn ',') = cs := List.intercalate_splitOn ','
    obtain ⟨before, after, hsplit⟩ := List.append_of_mem h
    rw [← splitCommas_eq_splitOn, hsplit, intercalate_append_cons, List.append_assoc] at hjoin
    refine ⟨_, _, hjoin.symm, ?_, ?_⟩
    · cases before using List.reverseRecOn <;> simp
    · cases after <;> simp
  · rintro ⟨hitem, before, after, rfl, hbefore, hafter⟩
    rw [splitCommas_eq_splitOn]
    have htail : item ∈ (item ++ after).splitOn ',' := by
      cases after with
      | nil => simp [List.splitOn_eq_singleton hitem]
      | cons c after =>
        obtain rfl : c = ',' := hafter c rfl
        simp [List.splitOn_append_cons_self_of_not_mem hitem]
    cases before using List.reverseRecOn with
    | nil => exact htail
    | append_singleton before c =>
      obtain rfl : c = ',' := hbefore c (by simp)
      rw [List.append_assoc, List.singleton_append, List.splitOn_append_cons_self]
      exact List.mem_append_right _ htail

theorem splitCommas_intercalate {first : List Char} {items : List (List Char)}
    (h : ∀ item ∈ first :: items, ',' ∉ item) :
    splitCommas ([','].intercalate (first :: items)) = first :: items := by
  rw [splitCommas_eq_splitOn, List.splitOn_intercalate ',' h (by simp)]

namespace DiscardParam

structure Listable (name : String) : Prop where
  ne_empty : name ≠ ""
  comma_not_mem : ',' ∉ name.toList
  head_not_blank : ∀ c ∈ name.toList.head?, isBlank c = false
  last_not_blank : ∀ c ∈ name.toList.getLast?, isBlank c = false

/-- The name is asked for: as an item of the list, or between two commas, or a comma and an end, with
nothing but white space around it. -/
inductive Requests : DiscardParam → String → Prop
  | item {l : List String} {name : String} : name ∈ l → Requests (.list l) name
  | between {before left name right after : String} :
      (∀ c ∈ before.toList.getLast?, c = ',') → allBlank left → Listable name → allBlank right →
      (∀ c ∈ after.toList.head?, c = ',') →
      Requests (.joined (before ++ (left ++ name ++ right) ++ after)) name

theorem comma_not_mem_of_blank {item : String} (h : allBlank item) : ',' ∉ item.toList := by
  intro hmem
  have hblank : isBlank ',' = true := List.all_eq_true.mp h ',' hmem
  exact absurd hblank (by decide)

theorem comma_not_mem_of_padded {left name right : String} (hleft : allBlank left)
    (hname : Listable name) (hright : allBlank right) : ',' ∉ (left ++ name ++ right).toList := by
  simp [comma_not_mem_of_blank hleft, hname.comma_not_mem, comma_not_mem_of_blank hright]

theorem trim_of_padded {left name right : String} (hleft : allBlank left) (hname : Listable name)
    (hright : allBlank right) : trim (left ++ name ++ right).toList = name.toList := by
  have hne : name.toList ≠ [] := by simpa using hname.ne_empty
  rw [String.toList_append, String.toList_append, List.append_assoc]
  exact trim_padded (List.all_eq_true.mp hleft) (List.all_eq_true.mp hright) hne
    hname.head_not_blank hname.last_not_blank

theorem mem_splitNames_iff {s name : String} :
    name ∈ splitNames s ↔ ∃ item ∈ splitCommas s.toList, trim item = name.toList ∧ name ≠ "" := by
  simp only [splitNames, List.mem_map, List.mem_filter]
  constructor
  · rintro ⟨_, ⟨⟨item, hitem, rfl⟩, hne⟩, rfl⟩
    exact ⟨item, hitem, by simp, by simpa using hne⟩
  · rintro ⟨item, hitem, htrim, hne⟩
    exact ⟨_, ⟨⟨item, hitem, rfl⟩, by simpa [htrim] using hne⟩, by simp [htrim]⟩

theorem mem_names_iff (d : DiscardParam) (name : String) : name ∈ d.names ↔ d.Requests name := by
  cases d with
  | list l =>
    refine ⟨.item, fun h => ?_⟩
    cases h with
    | item h => exact h
  | joined s =>
    rw [names, mem_splitNames_iff]
    constructor
    · rintro ⟨item, hitem, htrim, hne⟩
      obtain ⟨hcomma, before, after, hs, hbefore, hafter⟩ := mem_splitCommas_iff.mp hitem
      obtain ⟨left, right, hpadded, hleft, hright, hhead, hlast⟩ := exists_trim item
      rw [htrim] at hpadded hhead hlast
      have hname : Listable name :=
        ⟨hne, fun hmem => hcomma (by simp [hpadded, hmem]), hhead, hlast⟩
      have hbetween := @Requests.between (.ofList before) (.ofList left) name (.ofList right)
        (.ofList after) (by simpa using hbefore) (by simpa [allBlank] using hleft) hname
        (by simpa [allBlank] using hright) (by simpa using hafter)
      have htext : s = .ofList before ++ (.ofList left ++ name ++ .ofList right) ++
          .ofList after := by
        rw [← String.toList_inj]
        simp [hs, hpadded]
      rwa [htext]
    · intro h
      cases h with
      | between hbefore hleft hname hright hafter =>
        refine ⟨_, mem_splitCommas_iff.mpr ⟨comma_not_mem_of_padded hleft hname hright, _, _, ?_,
          hbefore, hafter⟩, trim_of_padded hleft hname hright, hname.ne_empty⟩
        rw [String.toList_append, String.toList_append, List.append_assoc]

end DiscardParam

end Lexicon
