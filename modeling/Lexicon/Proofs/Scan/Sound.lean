import Lexicon.Proofs.Scan.Cut

/-!
What the scanner knows of the text in front of it.

Along every run the machine has read the pending word, the held verdict is the verdict on that word,
and no cut lies inside of it. So the scanner cuts exactly at the first cut of the remaining text, and
is stuck exactly when nothing of it matches.
-/

namespace Lexicon

variable {σ κ : Type}

namespace Recogniser

def Matches (m : Recogniser σ κ) (text : List Char) (n : Nat) : Prop :=
  n ≤ text.length ∧ (m.judge (text.take n)).isSome

@[simp] theorem matches_length_append (m : Recogniser σ κ) (word rest : List Char) :
    m.Matches (word ++ rest) word.length ↔ (m.judge word).isSome := by
  simp [Matches]

theorem judge_concat (m : Recogniser σ κ) (word : List Char) (c : Char) :
    m.judge (word ++ [c]) = m.verdict (m.step (word.foldl m.step m.init) c) := by
  simp [judge]

end Recogniser

namespace Scan

def remaining (s : Scan σ κ) : List Char := s.word.reverse ++ s.rest

@[simp] theorem remaining_init (m : Recogniser σ κ) (start : Nat) (text : List Char) :
    (init m start text).remaining = text := rfl

theorem take_remaining (s : Scan σ κ) : s.remaining.take s.word.length = s.word.reverse := by
  rw [remaining, ← List.length_reverse, List.take_left]

theorem text_eq_take (s : Scan σ κ) : s.text = .ofList (s.remaining.take s.word.length) := by
  rw [text, s.take_remaining]

theorem remaining_grow {m : Recogniser σ κ} {s : Scan σ κ} {c : Char} {rest : List Char}
    (h : s.rest = c :: rest) : (s.grow m c rest).remaining = s.remaining := by
  simp [remaining, grow, h]

theorem restart_eq (m : Recogniser σ κ) (s : Scan σ κ) :
    s.restart m = init m (s.start + s.text.utf8ByteSize) (s.remaining.drop s.word.length) := by
  rw [restart, remaining, ← List.length_reverse, List.drop_left]

/-- Reading on is right behind `c` unless the verdict is lost there and not found again. -/
def Continues (m : Recogniser σ κ) (s : Scan σ κ) (c : Char) (rest : List Char) : Prop :=
  s.held = none ∨ (s.grow m c rest).held.isSome ∨ extends? m (s.grow m c rest).state rest

inductive Moves (m : Recogniser σ κ) (s : Scan σ κ) : Move σ κ → Prop
  | read {c : Char} {rest : List Char} :
      s.rest = c :: rest → s.Continues m c rest → Moves m s (.read (s.grow m c rest))
  | cut {c : Char} {rest : List Char} {k : κ} :
      s.rest = c :: rest → ¬ s.Continues m c rest → s.held = some k →
      Moves m s (.cut k (s.restart m))
  | flush {k : κ} : s.rest = [] → s.held = some k → Moves m s (.cut k (s.restart m))
  | stuck : s.rest = [] → s.held = none → s.word ≠ [] → Moves m s .stuck
  | done : s.rest = [] → s.held = none → s.word = [] → Moves m s .done

theorem moves_move (m : Recogniser σ κ) (s : Scan σ κ) : s.Moves m (s.move m) := by
  unfold move
  split
  · rename_i hr
    split
    · rename_i hh
      exact .flush hr hh
    · rename_i hh
      split
      · rename_i hw
        exact .done hr hh (List.isEmpty_iff.mp hw)
      · rename_i hw
        exact .stuck hr hh (mt List.isEmpty_iff.mpr hw)
  · rename_i c rest hr
    split
    · rename_i hh hg
      split
      · rename_i he
        exact .read hr (.inr (.inr he))
      · rename_i he
        exact .cut hr (by simp [Continues, hh, hg, he]) hh
    · rename_i hkeep
      refine .read hr ?_
      cases hh : s.held with
      | none => exact .inl hh
      | some k =>
        cases hg : (s.grow m c rest).held with
        | none => exact (hkeep k hh hg).elim
        | some k' => exact .inr (.inl (by simp [hg]))

structure Sound (m : Recogniser σ κ) (s : Scan σ κ) : Prop where
  state_eq : s.state = s.word.reverse.foldl m.step m.init
  held_eq : s.held = if s.word = [] then none else m.judge s.word.reverse
  uncut : ∀ n < s.word.length, ¬ Cut (m.Matches s.remaining) n

theorem sound_init (m : Recogniser σ κ) (start : Nat) (text : List Char) :
    (init m start text).Sound m where
  state_eq := rfl
  held_eq := rfl
  uncut n hn := absurd hn (by simp [init])

namespace Sound

variable {m : Recogniser σ κ} {s t : Scan σ κ} {c : Char} {rest : List Char}

theorem held_isSome_iff (h : s.Sound m) :
    s.held.isSome ↔ 0 < s.word.length ∧ m.Matches s.remaining s.word.length := by
  have hw := m.matches_length_append s.word.reverse s.rest
  rw [List.length_reverse] at hw
  rw [h.held_eq, remaining, hw]
  cases s.word <;> simp

theorem grow_held_eq (h : s.Sound m) : (s.grow m c rest).held = m.judge (s.word.reverse ++ [c]) := by
  rw [m.judge_concat, ← h.state_eq]
  rfl

theorem grow_held_isSome_iff (h : s.Sound m) (hr : s.rest = c :: rest) :
    (s.grow m c rest).held.isSome ↔ m.Matches s.remaining (s.word.length + 1) := by
  have hw := m.matches_length_append (s.word.reverse ++ [c]) rest
  rw [List.length_append, List.length_reverse] at hw
  rw [h.grow_held_eq, ← hw]
  simp [remaining, hr]

theorem extends_iff (h : s.Sound m) (hr : s.rest = c :: rest) :
    extends? m (s.grow m c rest).state rest ↔ m.Matches s.remaining (s.word.length + 2) := by
  cases rest with
  | nil => simp [extends?, Recogniser.Matches, remaining, hr]
  | cons d rest =>
    have hw := m.matches_length_append (s.word.reverse ++ [c] ++ [d]) rest
    rw [List.length_append, List.length_append, List.length_reverse] at hw
    rw [m.judge_concat, List.foldl_append, ← h.state_eq] at hw
    simpa [extends?, grow, remaining, hr] using hw.symm

theorem continues_iff (h : s.Sound m) (hr : s.rest = c :: rest) :
    s.Continues m c rest ↔ ¬ Cut (m.Matches s.remaining) s.word.length := by
  have hn : s.held = none ↔ ¬ s.held.isSome := by simp
  rw [Continues, hn, h.held_isSome_iff, h.grow_held_isSome_iff hr, h.extends_iff hr]
  constructor
  · rintro (hs | hs | hs) hc
    · exact hs ⟨hc.pos, hc.hit⟩
    · exact hc.miss hs
    · exact hc.missAgain hs
  · intro hc
    by_cases h1 : m.Matches s.remaining (s.word.length + 1)
    · exact .inr (.inl h1)
    · by_cases h2 : m.Matches s.remaining (s.word.length + 2)
      · exact .inr (.inr h2)
      · exact .inl fun ⟨hp, hm⟩ => hc ⟨hp, hm, h1, h2⟩

theorem grow (h : s.Sound m) (hr : s.rest = c :: rest) (hc : s.Continues m c rest) :
    (s.grow m c rest).Sound m where
  state_eq := by simp [Scan.grow, h.state_eq]
  held_eq := by
    rw [h.grow_held_eq]
    simp [Scan.grow]
  uncut n hn := by
    rw [remaining_grow hr]
    by_cases hlt : n < s.word.length
    · exact h.uncut n hlt
    · have hne : n = s.word.length := by
        simp only [Scan.grow, List.length_cons] at hn
        omega
      rw [hne]
      exact (h.continues_iff hr).mp hc

theorem of_read (h : s.Sound m) (hm : s.move m = .read t) :
    t.Sound m ∧ t.start = s.start ∧ t.remaining = s.remaining := by
  have hmv := s.moves_move m
  rw [hm] at hmv
  cases hmv with
  | read hr hc => exact ⟨h.grow hr hc, rfl, remaining_grow hr⟩

theorem cut_of_not_continues (h : s.Sound m) (hr : s.rest = c :: rest)
    (hc : ¬ s.Continues m c rest) : Cut (m.Matches s.remaining) s.word.length :=
  Classical.not_not.mp (mt (h.continues_iff hr).mpr hc)

theorem cut_of_rest_eq_nil (h : s.Sound m) (hr : s.rest = []) (hs : s.held.isSome) :
    Cut (m.Matches s.remaining) s.word.length := by
  have hlen : s.remaining.length = s.word.length := by simp [remaining, hr]
  obtain ⟨hpos, hhit⟩ := h.held_isSome_iff.mp hs
  refine ⟨hpos, hhit, fun hM => ?_, fun hM => ?_⟩
  · exact absurd hM.1 (by omega)
  · exact absurd hM.1 (by omega)

theorem judge_eq_of_held {k : κ} (h : s.Sound m) (hk : s.held = some k) :
    m.judge s.word.reverse = some k := by
  have hw : s.word ≠ [] := List.ne_nil_of_length_pos (h.held_isSome_iff.mp (by simp [hk])).1
  simpa [hk, hw] using h.held_eq.symm

theorem of_cut {k : κ} (h : s.Sound m) (hm : s.move m = .cut k t) :
    FirstCut (m.Matches s.remaining) s.word.length ∧ m.judge s.word.reverse = some k ∧
      t = init m (s.start + s.text.utf8ByteSize) (s.remaining.drop s.word.length) := by
  have least : ∀ n, Cut (m.Matches s.remaining) n → s.word.length ≤ n :=
    fun n hn => Nat.le_of_not_lt fun hlt => h.uncut n hlt hn
  have hmv := s.moves_move m
  rw [hm] at hmv
  cases hmv with
  | cut hr hc hk =>
    exact ⟨⟨h.cut_of_not_continues hr hc, least⟩, h.judge_eq_of_held hk, restart_eq m s⟩
  | flush hr hk =>
    exact ⟨⟨h.cut_of_rest_eq_nil hr (by simp [hk]), least⟩, h.judge_eq_of_held hk, restart_eq m s⟩

theorem of_stuck (h : s.Sound m) (hm : s.move m = .stuck) :
    s.word ≠ [] ∧ s.remaining = s.word.reverse ∧ ∀ n, 0 < n → ¬ m.Matches s.remaining n := by
  have hmv := s.moves_move m
  rw [hm] at hmv
  cases hmv with
  | stuck hr hh hw =>
    have hrem : s.remaining = s.word.reverse := by simp [remaining, hr]
    refine ⟨hw, hrem, fun n hn hM => ?_⟩
    -- A match would have a cut at or behind it: inside of the word there is none, and at its end
    -- there is no verdict.
    obtain ⟨c, hc⟩ := exists_cut (fun _ h => h.1) hn hM
    have hle : c ≤ s.word.length := by simpa [hrem] using hc.hit.1
    by_cases hlt : c < s.word.length
    · exact h.uncut c hlt hc
    · have hcw : c = s.word.length := by omega
      have hs := h.held_isSome_iff.mpr (hcw ▸ ⟨hc.pos, hc.hit⟩)
      simp [hh] at hs

theorem of_done (hm : s.move m = .done) : s.remaining = [] := by
  have hmv := s.moves_move m
  rw [hm] at hmv
  cases hmv with
  | done hr hh hw => simp [remaining, hr, hw]

end Sound

end Scan

end Lexicon
