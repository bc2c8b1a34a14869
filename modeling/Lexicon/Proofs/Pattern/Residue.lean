import Lexicon.Proofs.Frontier

namespace Lexicon

namespace Regex

def Over (p : CharSet → Prop) : Regex → Prop
  | empty => True
  | chars s => p s
  | look _ => False
  | seq r s => r.Over p ∧ s.Over p
  | alt r s => r.Over p ∧ s.Over p
  | rep r _ _ => r.Over p

def plain : Regex → Bool
  | empty => true
  | chars _ => true
  | look _ => false
  | seq r s => r.plain && s.plain
  | alt r s => r.plain && s.plain
  | rep r _ _ => r.plain

def sets : Regex → List CharSet
  | empty => []
  | chars s => [s]
  | look _ => []
  | seq r s => r.sets ++ s.sets
  | alt r s => r.sets ++ s.sets
  | rep r _ _ => r.sets

variable {p : CharSet → Prop} {b b' : Option Char} {c d : Char}

theorem over_of_plain {r : Regex} (h : r.plain) (hs : ∀ s ∈ r.sets, p s) : r.Over p := by
  induction r with
  | empty => trivial
  | chars s => exact hs s (by simp [sets])
  | look a => simp [plain] at h
  | seq r s ihr ihs =>
    simp only [plain, Bool.and_eq_true] at h
    simp only [sets, List.mem_append] at hs
    exact ⟨ihr h.1 fun u hu => hs u (.inl hu), ihs h.2 fun u hu => hs u (.inr hu)⟩
  | alt r s ihr ihs =>
    simp only [plain, Bool.and_eq_true] at h
    simp only [sets, List.mem_append] at hs
    exact ⟨ihr h.1 fun u hu => hs u (.inl hu), ihs h.2 fun u hu => hs u (.inr hu)⟩
  | rep r lo hi ih => exact ih h hs

theorem nullable_congr {r : Regex} (h : r.Over p) (b a b' a' : Option Char) :
    r.nullable b a = r.nullable b' a' := by
  induction r with
  | empty => rfl
  | chars s => rfl
  | look a => exact h.elim
  | seq r s ihr ihs => simp only [nullable, ihr h.1, ihs h.2]
  | alt r s ihr ihs => simp only [nullable, ihr h.1, ihs h.2]
  | rep r lo hi ih => simp only [nullable, ih h]

theorem over_followedBy {r s : Regex} (hr : r.Over p) (hs : s.Over p) : (r.followedBy s).Over p := by
  cases r with
  | empty => exact hs
  | _ => exact ⟨hr, hs⟩

theorem of_mem_residuals {r q : Regex} (h : r.Over p) (hq : q ∈ r.residuals b c) :
    q.Over p ∧ ∃ s, p s ∧ s.contains c := by
  induction r generalizing q with
  | empty => simp [residuals] at hq
  | chars s =>
    simp only [residuals] at hq
    split at hq
    · rename_i hs
      rw [List.mem_singleton.mp hq]
      exact ⟨trivial, s, h, hs⟩
    · cases hq
  | look a => exact h.elim
  | seq r s ihr ihs =>
    simp only [residuals, List.mem_append, List.mem_map] at hq
    rcases hq with ⟨q, hq, rfl⟩ | hq
    · exact ⟨over_followedBy (ihr h.1 hq).1 h.2, (ihr h.1 hq).2⟩
    · split at hq
      · exact ihs h.2 hq
      · cases hq
  | alt r s ihr ihs =>
    simp only [residuals, List.mem_append] at hq
    rcases hq with hq | hq
    · exact ihr h.1 hq
    · exact ihs h.2 hq
  | rep r lo hi ih =>
    simp only [residuals] at hq
    split at hq
    · cases hq
    · obtain ⟨q', hq', rfl⟩ := List.mem_map.mp hq
      exact ⟨over_followedBy (ih h hq').1 h, (ih h hq').2⟩

theorem residuals_congr {r : Regex} (h : r.Over p) (hc : ∀ s, p s → s.contains c = s.contains d) :
    r.residuals b c = r.residuals b' d := by
  induction r with
  | empty => rfl
  | chars s => simp only [residuals, hc s h]
  | look a => rfl
  | seq r s ihr ihs =>
    simp only [residuals, ihr h.1, ihs h.2]
    rw [nullable_congr h.1 b (some c) b' (some d)]
  | alt r s ihr ihs => simp only [residuals, ihr h.1, ihs h.2]
  | rep r lo hi ih =>
    simp only [residuals, ih h]
    rw [nullable_congr (r := r) h b (some c) b' (some d)]

end Regex

namespace Residue

def Over (p : CharSet → Prop) (t : Residue) : Prop := ∀ r ∈ t, r.Over p

def after (t : Residue) (word : List Char) : Residue :=
  word.foldl (fun t c => t.advance none c) t

variable {p : CharSet → Prop} {b b' : Option Char} {c d : Char} {t : Residue}

theorem mem_advance {q : Regex} : q ∈ t.advance b c ↔ ∃ r ∈ t, q ∈ r.residuals b c := by
  simp [advance, List.mem_eraseDups]

theorem Over.advance (h : t.Over p) : (t.advance b c).Over p := by
  intro q hq
  obtain ⟨r, hr, hq⟩ := mem_advance.mp hq
  exact (Regex.of_mem_residuals (h r hr) hq).1

theorem Over.advance_congr (h : t.Over p) (hc : ∀ s, p s → s.contains c = s.contains d) :
    t.advance b c = t.advance b' d := by
  have hmap : t.map (·.residuals b c) = t.map (·.residuals b' d) :=
    List.map_congr_left fun r hr => Regex.residuals_congr (h r hr) hc
  rw [Residue.advance, Residue.advance, List.flatMap_def, List.flatMap_def, hmap]

theorem Over.accepts_congr (h : t.Over p) : t.accepts b = t.accepts b' := by
  rw [accepts, accepts, Bool.eq_iff_iff, List.any_eq_true, List.any_eq_true]
  constructor
  · rintro ⟨r, hr, hn⟩
    exact ⟨r, hr, by rwa [Regex.nullable_congr (h r hr) b' none b none]⟩
  · rintro ⟨r, hr, hn⟩
    exact ⟨r, hr, by rwa [Regex.nullable_congr (h r hr) b none b' none]⟩

/-- Characters may be replaced by others that the sets do not tell from them. -/
theorem Over.run_eq_after_map (h : t.Over p) {f : Char → Char}
    (hf : ∀ s, p s → ∀ c, s.contains (f c) = s.contains c) (word : List Char) :
    t.run b word = (t.after (word.map f)).accepts none := by
  induction word generalizing t b with
  | nil => exact h.accepts_congr
  | cons c word ih =>
    have hadv : t.advance b c = t.advance none (f c) :=
      h.advance_congr fun s hs => (hf s hs c).symm
    rw [run, ih h.advance, hadv]
    rfl

theorem run_eq_any (t : Residue) (word : List Char) :
    t.run b word = t.any fun r => run b [r] word := by
  induction word generalizing t b with
  | nil => simp [run, accepts]
  | cons c word ih =>
    rw [run, ih, Bool.eq_iff_iff, List.any_eq_true, List.any_eq_true]
    constructor
    · rintro ⟨q, hq, hrun⟩
      obtain ⟨r, hr, hq⟩ := mem_advance.mp hq
      refine ⟨r, hr, ?_⟩
      rw [run, ih, List.any_eq_true]
      exact ⟨q, mem_advance.mpr ⟨r, by simp, hq⟩, hrun⟩
    · rintro ⟨r, hr, hrun⟩
      rw [run, ih, List.any_eq_true] at hrun
      obtain ⟨q, hq, hrun⟩ := hrun
      obtain ⟨r', hr', hq'⟩ := mem_advance.mp hq
      obtain rfl := List.mem_singleton.mp hr'
      exact ⟨q, mem_advance.mpr ⟨r', hr, hq'⟩, hrun⟩

theorem Over.exists_contains_of_run (h : t.Over p) {word : List Char} (hw : t.run b word)
    (hc : c ∈ word) : ∃ s, p s ∧ s.contains c := by
  induction word generalizing t b with
  | nil => cases hc
  | cons d word ih =>
    rw [run] at hw
    cases hc with
    | head =>
      cases ha : t.advance b c with
      | nil => simp [ha] at hw
      | cons q u =>
        obtain ⟨r, hr, hq⟩ := mem_advance.mp (ha ▸ List.mem_cons_self : q ∈ t.advance b c)
        exact (Regex.of_mem_residuals (h r hr) hq).2
    | tail _ hc => exact ih h.advance hw hc

end Residue

end Lexicon
