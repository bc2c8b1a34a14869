import Lexicon.Proofs.HtmlSpans
import Lexicon.Text.Numeral
import Lexicon.Text.Quoted

namespace Lexicon

theorem mapM_map_eq_some {α β : Type} {f : α → β} {g : β → Option α} {l : List α}
    (h : ∀ a ∈ l, g (f a) = some a) : (l.map f).mapM g = some l := by
  induction l with
  | nil => rfl
  | cons a l ih =>
    rw [List.forall_mem_cons] at h
    rw [List.map_cons, List.mapM_cons, h.1, ih h.2]
    rfl

end Lexicon

namespace Lexicon.Text

variable {d n : Nat} {c : Char} {s rest : List Char}

/-! Hexadecimal numbers -/

theorem hexValue?_digitChar (h : d < 16) : hexValue? d.digitChar = some d := by
  revert h
  revert d
  decide

theorem hexNumber?_append_singleton (s : List Char) (c : Char) :
    hexNumber? (s ++ [c]) =
      (hexNumber? s).bind fun n => (hexValue? c).map (16 * n + ·) := by
  simp [hexNumber?, List.foldlM_append]

theorem hexNumber?_toDigits (n : Nat) : hexNumber? (Nat.toDigits 16 n) = some n := by
  induction n using Nat.strongRecOn with
  | _ n ih =>
    rw [Nat.toDigits_eq_if (by decide)]
    split
    · rename_i hlt
      simp [hexNumber?, hexValue?_digitChar hlt]
    · have hdigit : n % 16 < 16 := Nat.mod_lt n (by decide)
      rw [hexNumber?_append_singleton, ih (n / 16) (by omega), Option.bind_some,
        hexValue?_digitChar hdigit, Option.map_some, Nat.div_add_mod]

theorem exists_digitChar_of_mem_toDigits (h : c ∈ Nat.toDigits 16 n) :
    ∃ d < 16, c = d.digitChar := by
  induction n using Nat.strongRecOn with
  | _ n ih =>
    rw [Nat.toDigits_eq_if (by decide)] at h
    split at h
    · rename_i hlt
      exact ⟨n, hlt, List.mem_singleton.mp h⟩
    · rcases List.mem_append.mp h with hmem | hmem
      · exact ih (n / 16) (by omega) hmem
      · exact ⟨n % 16, Nat.mod_lt n (by decide), List.mem_singleton.mp hmem⟩

theorem not_mem_toDigits (hc : ∀ d < 16, c ≠ d.digitChar) (n : Nat) : c ∉ Nat.toDigits 16 n := by
  intro h
  obtain ⟨d, hd, heq⟩ := exists_digitChar_of_mem_toDigits h
  exact hc d hd heq

theorem charOfCode?_toNat (c : Char) : charOfCode? c.toNat = some c := by
  have hvalid : c.toNat.isValidChar := c.valid
  rw [charOfCode?, if_pos hvalid, Char.ofNat_toNat]

namespace Quoted

def ofShortEscape? : Char → Option Char
  | '"' => some '"'
  | '\\' => some '\\'
  | 't' => some '\t'
  | 'n' => some '\n'
  | 'r' => some '\r'
  | '0' => some '\x00'
  | _ => none

def readChar : List Char → Option (Char × List Char)
  | [] => none
  | '\\' :: 'u' :: '\x7b' :: rest => do
    let (digits, rest) ← Html.cutAt '\x7d' rest
    let n ← hexNumber? digits
    let c ← charOfCode? n
    return (c, rest)
  | '\\' :: e :: rest => (ofShortEscape? e).map (·, rest)
  | c :: rest => if c = '"' ∨ c = '\\' then none else some (c, rest)

theorem length_lt_of_readChar (h : readChar s = some (c, rest)) : rest.length < s.length := by
  unfold readChar at h
  split at h
  · cases h
  · simp only [Option.bind_eq_bind, Option.bind_eq_some_iff] at h
    obtain ⟨⟨_, _⟩, hcut, _, _, _, _, h⟩ := h
    cases h
    have := Html.length_lt_of_cutAt hcut
    simp only [List.length_cons]
    omega
  · simp only [Option.map_eq_some_iff] at h
    obtain ⟨_, _, h⟩ := h
    cases h
    simp only [List.length_cons]
    omega
  · split at h
    · cases h
    · cases h
      simp

def readText (cs : List Char) : Option (List Char × List Char) :=
  match cs with
  | '"' :: rest => some ([], rest)
  | cs =>
    match _h : readChar cs with
    | none => none
    | some (c, rest) => (readText rest).map fun (s, rest) => (c :: s, rest)
termination_by cs.length
decreasing_by exact length_lt_of_readChar _h

def read : List Char → Option (List Char × List Char)
  | '"' :: rest => readText rest
  | _ => none

/-! One character -/

theorem eq_of_shortEscape? {e : Char} (h : shortEscape? c = some e) :
    e ≠ 'u' ∧ e ≠ '\n' ∧ ofShortEscape? e = some c := by
  unfold shortEscape? at h
  split at h <;> cases h <;> decide

theorem ne_of_shortEscape?_eq_none (h : shortEscape? c = none) :
    c ≠ '"' ∧ c ≠ '\\' ∧ c ≠ '\n' := by
  refine ⟨?_, ?_, ?_⟩ <;>
    · rintro rfl
      cases h

theorem readChar_encodeChar (c : Char) (rest : List Char) :
    readChar (encodeChar c ++ rest) = some (c, rest) := by
  unfold encodeChar
  split
  · rename_i e he
    obtain ⟨hu, -, hread⟩ := eq_of_shortEscape? he
    simp [readChar, hu, hread]
  · rename_i hnone
    obtain ⟨hquote, hbackslash, -⟩ := ne_of_shortEscape?_eq_none hnone
    split
    · have hclose : '\x7d' ∉ Nat.toDigits 16 c.toNat := not_mem_toDigits (by decide) c.toNat
      simp [byCodePoint, readChar, Html.cutAt_append hclose, hexNumber?_toDigits,
        charOfCode?_toNat]
    · simp [readChar, hquote, hbackslash]

theorem lineFeed_not_mem_encodeChar (c : Char) : '\n' ∉ encodeChar c := by
  unfold encodeChar
  split
  · rename_i e he
    have hne := (eq_of_shortEscape? he).2.1
    simp [hne.symm]
  · rename_i hnone
    have hne := (ne_of_shortEscape?_eq_none hnone).2.2
    split
    · have hdigits : '\n' ∉ Nat.toDigits 16 c.toNat := not_mem_toDigits (by decide) c.toNat
      simp [byCodePoint, hdigits]
    · simp [hne.symm]

theorem head?_encodeChar_append_ne (c : Char) (rest : List Char) :
    (encodeChar c ++ rest).head? ≠ some '"' := by
  unfold encodeChar
  split
  · simp
  · rename_i hnone
    have hne := (ne_of_shortEscape?_eq_none hnone).1
    split <;> simp [byCodePoint, hne]

/-! Whole texts -/

theorem readText_of_readChar (hquote : s.head? ≠ some '"') (h : readChar s = some (c, rest)) :
    readText s = (readText rest).map fun (s, rest) => (c :: s, rest) := by
  rw [readText]
  · split <;> simp_all
  · rintro rest rfl
    simp at hquote

theorem readText_flatMap (s rest : List Char) :
    readText (s.flatMap encodeChar ++ '"' :: rest) = some (s, rest) := by
  induction s with
  | nil => simp [readText]
  | cons c s ih =>
    rw [List.flatMap_cons, List.append_assoc, readText_of_readChar
      (head?_encodeChar_append_ne c _) (readChar_encodeChar c _), ih]
    rfl

theorem read_encode_append (s rest : List Char) : read (encode s ++ rest) = some (s, rest) := by
  simpa [encode, read] using readText_flatMap s rest

theorem lineFeed_not_mem_encode (s : List Char) : '\n' ∉ encode s := by
  simp [encode, lineFeed_not_mem_encodeChar]

end Quoted

end Lexicon.Text
