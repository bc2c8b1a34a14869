import Lexicon.Proofs.Candidates

/-!
The scan as a loop over the places of a text, with all the candidates for the pending word in hand.

A turn of the loop reads a character, or cuts the pending word off and takes the character again.
Every turn makes progress, and a word that is cut off has its candidates and stands in the text
between its start and the cut.
-/

namespace Lexicon

/-- The loop between two turns: the place of the next character, the byte at which the pending word
starts, that word, the candidates for it, and the tokens so far. The candidates are not held over a
character that passes without one. -/
structure Loop : Type where
  index : Nat
  start : Nat
  word : String
  old : List Candidate
  tokens : List Token
  deriving DecidableEq

namespace Loop

def init : Loop := ⟨0, 0, "", [], []⟩

def measure (size : Nat) (s : Loop) : Nat :=
  2 * (size - s.index) + if s.old.isEmpty then 0 else 1

def pop (word : String) : String := .ofList word.toList.dropLast

inductive Turn : Type
  | read : String → List Candidate → Turn
  | postpone : String → Turn
  | cut : String → Turn
  deriving DecidableEq

def turn (l : Language) (s : Loop) (c : Char) (next : Option Char) : Turn :=
  let word := s.word.push c
  let matched := l.candidates word s.start
  if matched.isEmpty && !s.old.isEmpty then
    if next.any fun d => l.matchesAny (word.push d) then .postpone word else .cut (pop word)
  else .read word matched

def iterate (l : Language) (discard : List String) (chars : List Char) (s : Loop) :
    Except Halt Loop :=
  match chars[s.index]? with
  | none => .error .outOfBounds
  | some c =>
    match s.turn l c chars[s.index + 1]? with
    | .read word matched => .ok { s with index := s.index + 1, word, old := matched }
    | .postpone word => .ok { s with index := s.index + 1, word, old := [] }
    | .cut word =>
      (l.emit discard s.old word s.start s.tokens).map fun tokens =>
        ⟨s.index, s.start + word.utf8ByteSize, "", [], tokens⟩

def finish (l : Language) (discard : List String) (s : Loop) : Except Halt (List Token) :=
  if s.old.isEmpty then
    if s.word = "" then .ok s.tokens else .error (.failed (.unlexable s.start s.word))
  else l.emit discard s.old s.word s.start s.tokens

variable {l : Language} {discard : List String} {chars : List Char} {text : String}
  {s t : Loop} {c : Char} {next : Option Char} {word : String} {n : Nat}

@[simp] theorem pop_push (word : String) (c : Char) : pop (word.push c) = word := by
  simp [pop]

theorem isEmpty_old_iff : s.old.isEmpty = false ↔ s.old ≠ [] := by
  simp

inductive Turns (l : Language) (s : Loop) (c : Char) (next : Option Char) : Turn → Prop
  | read : l.candidates (s.word.push c) s.start ≠ [] ∨ s.old = [] →
      Turns l s c next (.read (s.word.push c) (l.candidates (s.word.push c) s.start))
  | postpone {d : Char} : l.candidates (s.word.push c) s.start = [] → s.old ≠ [] →
      next = some d → l.matchesAny ((s.word.push c).push d) →
      Turns l s c next (.postpone (s.word.push c))
  | cut : l.candidates (s.word.push c) s.start = [] → s.old ≠ [] →
      (∀ d, next = some d → l.matchesAny ((s.word.push c).push d) = false) →
      Turns l s c next (.cut s.word)

theorem turns_turn (l : Language) (s : Loop) (c : Char) (next : Option Char) :
    Turns l s c next (s.turn l c next) := by
  dsimp only [turn]
  split
  · rename_i hlost
    rw [Bool.and_eq_true, List.isEmpty_iff, Bool.not_eq_true', isEmpty_old_iff] at hlost
    obtain ⟨hmatched, hold⟩ := hlost
    split
    · rename_i hext
      obtain ⟨d, hd, hmatches⟩ := (Option.any_eq_true _ _).mp hext
      exact .postpone hmatched hold hd hmatches
    · rename_i hext
      rw [pop_push]
      refine .cut hmatched hold fun d hd => ?_
      simpa [hd] using hext
  · rename_i hkeep
    refine .read ?_
    rw [Bool.and_eq_true, List.isEmpty_iff, Bool.not_eq_true', isEmpty_old_iff] at hkeep
    exact Classical.or_iff_not_imp_left.mpr fun h => by simpa [Classical.not_not.mp h] using hkeep

theorem turns_of_turn {x : Turn} (h : s.turn l c next = x) : Turns l s c next x :=
  h ▸ turns_turn l s c next

inductive Iterates (l : Language) (discard : List String) (chars : List Char) (s : Loop) :
    Loop → Prop
  | read {c : Char} {word : String} {matched : List Candidate} :
      chars[s.index]? = some c → s.turn l c chars[s.index + 1]? = .read word matched →
      Iterates l discard chars s { s with index := s.index + 1, word, old := matched }
  | postpone {c : Char} {word : String} :
      chars[s.index]? = some c → s.turn l c chars[s.index + 1]? = .postpone word →
      Iterates l discard chars s { s with index := s.index + 1, word, old := [] }
  | cut {c : Char} {word : String} {tokens : List Token} :
      chars[s.index]? = some c → s.turn l c chars[s.index + 1]? = .cut word →
      l.emit discard s.old word s.start s.tokens = .ok tokens →
      Iterates l discard chars s ⟨s.index, s.start + word.utf8ByteSize, "", [], tokens⟩

theorem iterates_of_iterate (h : s.iterate l discard chars = .ok t) :
    Iterates l discard chars s t := by
  unfold iterate at h
  split at h
  · cases h
  · rename_i c hc
    split at h
    · rename_i hturn
      cases h
      exact .read hc hturn
    · rename_i hturn
      cases h
      exact .postpone hc hturn
    · rename_i word hturn
      cases hemit : l.emit discard s.old word s.start s.tokens with
      | error e => simp [hemit, Except.map] at h
      | ok tokens =>
        rw [hemit] at h
        cases h
        exact .cut hc hturn hemit

theorem exists_cut_of_iterate_eq_error {e : Halt} (hlt : s.index < chars.length)
    (h : s.iterate l discard chars = .error e) :
    ∃ c word, chars[s.index]? = some c ∧ s.turn l c chars[s.index + 1]? = .cut word ∧
      l.emit discard s.old word s.start s.tokens = .error e := by
  unfold iterate at h
  split at h
  · rename_i hnone
    exact absurd (List.getElem?_eq_none_iff.mp hnone) (Nat.not_le.mpr hlt)
  · rename_i c hc
    split at h
    · cases h
    · cases h
    · rename_i word hturn
      cases hemit : l.emit discard s.old word s.start s.tokens with
      | error e' =>
        rw [hemit] at h
        cases h
        exact ⟨c, word, hc, hturn, hemit⟩
      | ok tokens => simp [hemit, Except.map] at h

/-- Every turn makes progress, also one that takes the same character again. -/
theorem measure_lt_of_iterate (h : s.iterate l discard chars = .ok t) :
    t.measure chars.length < s.measure chars.length := by
  have le_one : ∀ b : Bool, (if b then 0 else 1) ≤ 1 := by decide
  cases iterates_of_iterate h with
  | @read c word matched hc hturn =>
    have hlt := (List.getElem?_eq_some_iff.mp hc).1
    have hle := le_one matched.isEmpty
    simp only [measure]
    omega
  | postpone hc hturn =>
    have hlt := (List.getElem?_eq_some_iff.mp hc).1
    simp only [measure, List.isEmpty_nil, if_true]
    omega
  | @cut c word tokens hc hturn hemit =>
    cases turns_of_turn hturn with
    | cut _ hold _ => simp [measure, hold]

def run (l : Language) (discard : List String) (chars : List Char) (s : Loop) :
    Except Halt (List Token) :=
  if s.index < chars.length then
    match h : s.iterate l discard chars with
    | .ok t =>
      have := measure_lt_of_iterate h
      t.run l discard chars
    | .error e => .error e
  else s.finish l discard
termination_by s.measure chars.length

def Stands (text : String) (start index : Nat) (word : String) : Prop :=
  ∃ before after : String, text = before ++ word ++ after ∧ before.utf8ByteSize = start ∧
    before.length + word.length = index

structure Sound (l : Language) (text : String) (s : Loop) : Prop where
  stands : Stands text s.start s.index s.word
  old_eq : s.old = if s.word = "" then [] else l.candidates s.word s.start

inductive Reached (l : Language) (discard : List String) (text : String) : Nat → Loop → Prop
  | init : Reached l discard text 0 init
  | iterate {n : Nat} {s t : Loop} : Reached l discard text n s → s.index < text.length →
      s.iterate l discard text.toList = .ok t → Reached l discard text (n + 1) t

/-- The loop cuts the word off, in its next turn or behind the last one. -/
inductive Cuts (l : Language) (chars : List Char) (s : Loop) : String → Prop
  | inside {c : Char} {word : String} : chars[s.index]? = some c →
      s.turn l c chars[s.index + 1]? = .cut word → Cuts l chars s word
  | behind : chars.length ≤ s.index → s.old ≠ [] → Cuts l chars s s.word

/-- What a word has to be for the first of the candidates to be its winner. -/
structure Apt (l : Language) (text : String) (s : Loop) (word : String) : Prop where
  old_ne : s.old ≠ []
  word_ne : word ≠ ""
  stands : Stands text s.start s.index word
  candidates : ∀ c ∈ s.old, c.start = s.start ∧
    ∃ category, l.categories[c.category]? = some category ∧
      ∃ p, category.patterns[c.pattern]? = some p ∧ p.isMatch word

section

variable {start index : Nat}

theorem Stands.push (h : Stands text start index word) (hc : text.toList[index]? = some c) :
    Stands text start (index + 1) (word.push c) := by
  obtain ⟨before, after, rfl, hstart, hindex⟩ := h
  have hlen : (before ++ word).toList.length = index := by
    rw [String.length_toList, String.length_append, hindex]
  rw [String.toList_append, List.getElem?_append_right (Nat.le_of_eq hlen), hlen, Nat.sub_self] at hc
  cases hafter : after.toList with
  | nil => simp [hafter] at hc
  | cons d rest =>
    obtain rfl : d = c := by simpa [hafter] using hc
    refine ⟨before, .ofList rest, ?_, hstart, ?_⟩
    · rw [← String.toList_inj]
      simp [hafter]
    · rw [String.length_push]
      omega

theorem Stands.restart (h : Stands text start index word) :
    Stands text (start + word.utf8ByteSize) index "" := by
  obtain ⟨before, after, rfl, hstart, hindex⟩ := h
  refine ⟨before ++ word, after, by rw [String.append_empty], ?_, ?_⟩
  · rw [String.utf8ByteSize_append, hstart]
  · rw [String.length_append, hindex]
    rfl

end

theorem sound_init (l : Language) (text : String) : init.Sound l text where
  stands := ⟨"", text, by simp [init], rfl, rfl⟩
  old_eq := rfl

theorem Cuts.eq_word (h : Cuts l chars s word) : word = s.word ∧ s.old ≠ [] := by
  cases h with
  | inside hc hturn =>
    cases turns_of_turn hturn with
    | cut _ hold _ => exact ⟨rfl, hold⟩
  | behind _ hold => exact ⟨rfl, hold⟩

namespace Sound

theorem old_ne_iff (h : s.Sound l text) :
    s.old ≠ [] ↔ s.word ≠ "" ∧ l.candidates s.word s.start ≠ [] := by
  rw [h.old_eq]
  split
  · rename_i hword
    simp [hword]
  · rename_i hword
    simp [hword]

theorem old_eq_candidates (h : s.Sound l text) (hold : s.old ≠ []) :
    s.old = l.candidates s.word s.start := by
  have hword := (h.old_ne_iff.mp hold).1
  rw [h.old_eq, if_neg hword]

theorem of_iterate (h : s.Sound l text) (hs : s.iterate l discard text.toList = .ok t) :
    t.Sound l text := by
  cases iterates_of_iterate hs with
  | read hc hturn =>
    cases turns_of_turn hturn with
    | read => exact ⟨h.stands.push hc, (if_neg String.push_ne_empty).symm⟩
  | postpone hc hturn =>
    cases turns_of_turn hturn with
    | postpone hmatched =>
      refine ⟨h.stands.push hc, ?_⟩
      rw [hmatched, if_neg String.push_ne_empty]
  | cut hc hturn =>
    obtain ⟨rfl, -⟩ := (Cuts.inside hc hturn).eq_word
    exact ⟨h.stands.restart, rfl⟩

theorem apt (h : s.Sound l text) (hcut : Cuts l text.toList s word) : s.Apt l text word := by
  obtain ⟨rfl, hold⟩ := hcut.eq_word
  refine ⟨hold, (h.old_ne_iff.mp hold).1, h.stands, fun c hc => ?_⟩
  rw [h.old_eq_candidates hold] at hc
  exact Language.mem_candidates_iff.mp hc

end Sound

theorem Reached.sound (h : Reached l discard text n s) : s.Sound l text := by
  induction h with
  | init => exact sound_init l text
  | iterate _ _ ht ih => exact ih.of_iterate ht

theorem Reached.add_measure_le (h : Reached l discard text n s) :
    n + s.measure text.length ≤ 2 * text.length := by
  induction h with
  | init => simp [measure, Loop.init]
  | iterate _ _ ht ih =>
    have hlt := measure_lt_of_iterate ht
    rw [String.length_toList] at hlt
    omega

theorem exists_candidates_of_postpone (hc : chars[s.index]? = some c)
    (hturn : s.turn l c chars[s.index + 1]? = .postpone word) :
    ∃ t d, s.iterate l discard chars = .ok t ∧ chars[t.index]? = some d ∧
      t.turn l d chars[t.index + 1]? =
        .read (t.word.push d) (l.candidates (t.word.push d) t.start) ∧
      l.candidates (t.word.push d) t.start ≠ [] := by
  cases turns_of_turn hturn with
  | @postpone d hmatched hold hd hmatches =>
    have hnext : l.candidates ((s.word.push c).push d) s.start ≠ [] :=
      Language.matchesAny_iff.mp hmatches
    refine ⟨⟨s.index + 1, s.start, s.word.push c, [], s.tokens⟩, d, ?_, hd, ?_, hnext⟩
    · rw [iterate, hc]
      simp only [hturn]
    · simp [turn]

end Loop

end Lexicon
