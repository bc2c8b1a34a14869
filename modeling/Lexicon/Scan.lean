/-!
Cutting a text into words.

The scanner lets a word grow by one character at a time and holds the verdict on the word so far.
When a word that had a verdict loses it, the word is cut before the new character, unless the word
with one more character has a verdict again: a single character may pass without one.
-/

namespace Lexicon

structure Recogniser (σ κ : Type) : Type where
  init : σ
  step : σ → Char → σ
  verdict : σ → Option κ

namespace Recogniser

variable {σ κ : Type}

def judge (m : Recogniser σ κ) (word : List Char) : Option κ := m.verdict (word.foldl m.step m.init)

end Recogniser

/-- The scanner between two characters: the unread text, the byte at which the pending word starts,
that word with its latest character first, and the state of the machine and the verdict behind it.
The verdict is not held over a character that passes without one. -/
structure Scan (σ κ : Type) : Type where
  rest : List Char
  start : Nat
  word : List Char
  state : σ
  held : Option κ

namespace Scan

variable {σ κ : Type}

def init (m : Recogniser σ κ) (start : Nat) (text : List Char) : Scan σ κ :=
  ⟨text, start, [], m.init, none⟩

def text (s : Scan σ κ) : String := .ofList s.word.reverse

/-- The number of characters still to be read counts twice, and a held verdict once. -/
def measure (s : Scan σ κ) : Nat := 2 * s.rest.length + if s.held.isSome then 1 else 0

inductive Move (σ κ : Type) : Type
  | read : Scan σ κ → Move σ κ
  | cut : κ → Scan σ κ → Move σ κ
  | stuck : Move σ κ
  | done : Move σ κ

def extends? (m : Recogniser σ κ) (state : σ) : List Char → Bool
  | [] => false
  | c :: _ => (m.verdict (m.step state c)).isSome

def restart (m : Recogniser σ κ) (s : Scan σ κ) : Scan σ κ :=
  init m (s.start + s.text.utf8ByteSize) s.rest

def grow (m : Recogniser σ κ) (s : Scan σ κ) (c : Char) (rest : List Char) : Scan σ κ :=
  let state := m.step s.state c
  ⟨rest, s.start, c :: s.word, state, m.verdict state⟩

def move (m : Recogniser σ κ) (s : Scan σ κ) : Move σ κ :=
  match s.rest with
  | [] =>
    match s.held with
    | some k => .cut k (s.restart m)
    | none => if s.word.isEmpty then .done else .stuck
  | c :: rest =>
    match s.held, (s.grow m c rest).held with
    | some k, none =>
      if extends? m (s.grow m c rest).state rest then .read (s.grow m c rest)
      else .cut k (s.restart m)
    | _, _ => .read (s.grow m c rest)

theorem measure_lt_of_read {m : Recogniser σ κ} {s t : Scan σ κ} (h : s.move m = .read t) :
    t.measure < s.measure := by
  unfold move at h
  split at h
  · split at h
    · simp at h
    · split at h <;> simp at h
  · rename_i c rest hr
    have key : (s.grow m c rest).measure < s.measure := by
      have le_one : ∀ b : Bool, (if b then 1 else 0) ≤ 1 := by decide
      have := le_one (s.grow m c rest).held.isSome
      have hl : (s.grow m c rest).rest = rest := rfl
      simp only [measure, hr, hl, List.length_cons]
      omega
    split at h
    · split at h
      · cases h; exact key
      · simp at h
    · cases h; exact key

theorem measure_lt_of_cut {m : Recogniser σ κ} {s t : Scan σ κ} {k : κ}
    (h : s.move m = .cut k t) : t.measure < s.measure := by
  have key : s.held = some k → (s.restart m).measure < s.measure := by
    intro hk
    simp [measure, restart, init, hk]
  unfold move at h
  split at h
  · split at h
    · rename_i hk
      cases h; exact key hk
    · split at h <;> simp at h
  · split at h
    · rename_i hk _
      split at h
      · simp at h
      · cases h; exact key hk
    · simp at h

end Scan

end Lexicon
