/-!
Sweeps over the states that a machine can reach. A sweep that comes to its end has seen a set of
states that no step leaves, so what it has checked of them holds after every word.
-/

namespace Lexicon

variable {σ α : Type}

def sweep [DecidableEq σ] (next : σ → List σ) (ok : σ → Bool) : Nat → List σ → List σ → Bool
  | _, [], _ => true
  | 0, _ :: _, _ => false
  | fuel + 1, s :: todo, seen =>
    let fresh := (next s).eraseDups.filter (· ∉ seen)
    ok s && sweep next ok fuel (fresh ++ todo) (fresh ++ seen)

def Swept (next : σ → List σ) (ok : σ → Bool) (todo seen : List σ) : Prop :=
  ∀ s ∈ seen, s ∈ todo ∨ ok s ∧ ∀ t ∈ next s, t ∈ seen

variable {next : σ → List σ} {ok : σ → Bool}

theorem Swept.cons {s : σ} {todo seen fresh : List σ} (h : Swept next ok (s :: todo) seen)
    (hok : ok s) (hfresh : ∀ t ∈ next s, t ∈ fresh ++ seen) :
    Swept next ok (fresh ++ todo) (fresh ++ seen) := by
  intro t ht
  rcases List.mem_append.mp ht with ht | ht
  · exact .inl (List.mem_append_left _ ht)
  · rcases h t ht with hwait | ⟨htok, hnext⟩
    · cases hwait with
      | head => exact .inr ⟨hok, hfresh⟩
      | tail _ hwait => exact .inl (List.mem_append_right _ hwait)
    · exact .inr ⟨htok, fun u hu => List.mem_append_right _ (hnext u hu)⟩

variable [DecidableEq σ]

theorem exists_swept_of_sweep {fuel : Nat} {todo seen : List σ}
    (h : sweep next ok fuel todo seen) (hs : Swept next ok todo seen) :
    ∃ all, (∀ s ∈ seen, s ∈ all) ∧ Swept next ok [] all := by
  induction fuel generalizing todo seen with
  | zero =>
    cases todo with
    | nil => exact ⟨seen, fun _ hs => hs, hs⟩
    | cons s todo => simp [sweep] at h
  | succ fuel ih =>
    cases todo with
    | nil => exact ⟨seen, fun _ hs => hs, hs⟩
    | cons s todo =>
      simp only [sweep, Bool.and_eq_true] at h
      have hfresh : ∀ t ∈ next s, t ∈ (next s).eraseDups.filter (· ∉ seen) ++ seen := by
        intro t ht
        by_cases hseen : t ∈ seen
        · exact List.mem_append_right _ hseen
        · exact List.mem_append_left _ (by simp [List.mem_eraseDups, ht, hseen])
      obtain ⟨all, hsub, hall⟩ := ih h.2 (hs.cons h.1 hfresh)
      exact ⟨all, fun t ht => hsub t (List.mem_append_right _ ht), hall⟩

/-- A sweep over all letters checks the state behind every word that is made of them. -/
theorem ok_of_sweep {step : σ → α → σ} {letters : List α} {fuel : Nat} {init : σ}
    (h : sweep (fun s => letters.map (step s)) ok fuel [init] [init]) {word : List α}
    (hw : ∀ a ∈ word, a ∈ letters) : ok (word.foldl step init) := by
  obtain ⟨all, hinit, hall⟩ := exists_swept_of_sweep h fun s hs => .inl hs
  have hmem : ∀ s ∈ all, word.foldl step s ∈ all := by
    induction word with
    | nil => exact fun s hs => hs
    | cons a word ih =>
      intro s hs
      rcases hall s hs with hnil | ⟨-, hnext⟩
      · cases hnil
      · exact ih (fun b hb => hw b (by simp [hb])) _
          (hnext _ (List.mem_map_of_mem (hw a (by simp))))
  rcases hall _ (hmem init (hinit init (by simp))) with hnil | ⟨hok, -⟩
  · cases hnil
  · exact hok

end Lexicon
