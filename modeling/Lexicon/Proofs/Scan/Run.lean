import Lexicon.Proofs.Scan.Sound

namespace Lexicon.Scan

variable {σ κ : Type}

inductive Reads (m : Recogniser σ κ) (s : Scan σ κ) : Scan σ κ → Prop
  | refl : Reads m s s
  | read {t u : Scan σ κ} : Reads m s t → t.move m = .read u → Reads m s u

inductive Reached (m : Recogniser σ κ) (text : List Char) : Scan σ κ → Prop
  | init : Reached m text (init m 0 text)
  | read {s t : Scan σ κ} : Reached m text s → s.move m = .read t → Reached m text t
  | cut {s t : Scan σ κ} {k : κ} : Reached m text s → s.move m = .cut k t → Reached m text t

variable {m : Recogniser σ κ} {s t u : Scan σ κ} {text word : List Char}

theorem Reads.trans (h : Reads m s t) (h' : Reads m t u) : Reads m s u := by
  induction h' with
  | refl => exact h
  | read _ hm ih => exact ih.read hm

theorem Reads.sound (h : Reads m s t) (hs : s.Sound m) :
    t.Sound m ∧ t.start = s.start ∧ t.remaining = s.remaining := by
  induction h with
  | refl => exact ⟨hs, rfl, rfl⟩
  | read _ hm ih =>
    obtain ⟨ht, hstart, hrem⟩ := ih
    obtain ⟨hu, hstart', hrem'⟩ := ht.of_read hm
    exact ⟨hu, hstart'.trans hstart, hrem'.trans hrem⟩

theorem Reads.remaining_eq {start : Nat} (h : Reads m (init m start text) s) :
    s.remaining = text :=
  (h.sound (sound_init m start text)).2.2

theorem Reached.sound (h : Reached m text s) : s.Sound m := by
  induction h with
  | init => exact sound_init m 0 text
  | read _ hm ih => exact (ih.of_read hm).1
  | cut _ hm ih =>
    obtain ⟨-, -, rfl⟩ := ih.of_cut hm
    exact sound_init m _ _

theorem Reached.exists_append (h : Reached m text s) :
    ∃ before, text = before ++ s.remaining ∧ s.start = (String.ofList before).utf8ByteSize := by
  induction h with
  | init => exact ⟨[], rfl, rfl⟩
  | read hs hm ih =>
    obtain ⟨-, hstart, hrem⟩ := hs.sound.of_read hm
    rwa [hstart, hrem]
  | @cut s t k hs hm ih =>
    obtain ⟨before, htext, hstart⟩ := ih
    obtain ⟨-, -, rfl⟩ := hs.sound.of_cut hm
    refine ⟨before ++ s.word.reverse, ?_, ?_⟩
    · rw [remaining_init, List.append_assoc, ← s.take_remaining, List.take_append_drop]
      exact htext
    · rw [String.ofList_append, String.utf8ByteSize_append, ← hstart]
      rfl

theorem Reads.reached (h : Reads m (init m 0 text) s) : Reached m text s := by
  induction h with
  | refl => exact .init
  | read _ hm ih => exact ih.read hm

theorem exists_reads (m : Recogniser σ κ) (s : Scan σ κ) :
    ∃ t, Reads m s t ∧ ∀ u, t.move m ≠ .read u := by
  cases hm : s.move m with
  | read u =>
    have := measure_lt_of_read hm
    obtain ⟨t, ht, hend⟩ := exists_reads m u
    exact ⟨t, Reads.refl.read hm |>.trans ht, hend⟩
  | cut k u => exact ⟨s, .refl, by simp [hm]⟩
  | stuck => exact ⟨s, .refl, by simp [hm]⟩
  | done => exact ⟨s, .refl, by simp [hm]⟩
termination_by s.measure

/-- The scanner cuts `word` off the text before it cuts anything else. -/
def CutsFirst (m : Recogniser σ κ) (text word : List Char) : Prop :=
  ∃ s k t, Reads m (init m 0 text) s ∧ s.move m = .cut k t ∧ s.word.reverse = word

theorem exists_cutsFirst {n : Nat} (hn : 0 < n) (hM : m.Matches text n) :
    ∃ word, CutsFirst m text word := by
  obtain ⟨s, hread, hend⟩ := exists_reads m (init m 0 text)
  have hs := hread.reached.sound
  have hrem := hread.remaining_eq
  cases hm : s.move m with
  | read u => exact absurd hm (hend u)
  | cut k t => exact ⟨_, s, k, t, hread, hm, rfl⟩
  | stuck =>
    obtain ⟨-, -, hno⟩ := hs.of_stuck hm
    exact absurd hM (hrem ▸ hno n hn)
  | done =>
    have hnil : text = [] := hrem ▸ Sound.of_done hm
    have hle := hM.1
    rw [hnil, List.length_nil] at hle
    omega

end Lexicon.Scan
