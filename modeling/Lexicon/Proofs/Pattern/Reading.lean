import Mathlib.Data.List.TakeWhile
import Lexicon.Pattern.Draft

namespace Lexicon

open Text

/-- What the reader finds stays found, whatever comes behind. -/
def Steady {α : Type} (more : List Char) (read : List Char → Option (α × List Char)) : Prop :=
  ∀ ⦃cs x rest⦄, read cs = some (x, rest) → read (cs ++ more) = some (x, rest ++ more)

variable {α β : Type} {more tail cs rest : List Char} {p : Char → Bool} {d : Char}

theorem Steady.map {read : List Char → Option (α × List Char)} (h : Steady more read) (g : α → β) :
    Steady more fun cs => (read cs).map fun (x, rest) => (g x, rest) := by
  intro cs y rest hread
  obtain ⟨⟨x, rest⟩, hx, heq⟩ := Option.map_eq_some_iff.mp hread
  cases heq
  simp [h hx]

theorem Steady.bind {read : List Char → Option (α × List Char)}
    {next : α → List Char → Option (β × List Char)} (h : Steady more read)
    (hnext : ∀ x, Steady more (next x)) :
    Steady more fun cs => (read cs).bind fun (x, rest) => next x rest := by
  intro cs y rest hread
  obtain ⟨⟨x, behind⟩, hx, hy⟩ := Option.bind_eq_some_iff.mp hread
  simp only [h hx, Option.bind_some]
  exact hnext x hy

theorem steady_give (y : Option α) : Steady more fun rest => y.map (·, rest) := by
  intro cs x rest h
  obtain ⟨x, rfl, heq⟩ := Option.map_eq_some_iff.mp h
  cases heq
  rfl

theorem takeWhile_dropWhile_append (h : cs.dropWhile p = d :: rest) (more : List Char) :
    (cs ++ more).takeWhile p = cs.takeWhile p ∧ (cs ++ more).dropWhile p = d :: (rest ++ more) := by
  induction cs with
  | nil => cases h
  | cons c cs ih =>
    by_cases hc : p c
    · rw [List.dropWhile_cons_of_pos hc] at h
      simp [hc, ih h]
    · rw [List.dropWhile_cons_of_neg hc] at h
      cases h
      simp [hc]

theorem append_ne_cons (h : ∀ rest, cs = d :: rest → False) (hd : ')' ≠ d)
    (tail rest : List Char) : cs ++ ')' :: tail ≠ d :: rest := by
  cases cs with
  | nil => simp [hd]
  | cons c cs =>
    rintro heq
    cases heq
    exact h cs rfl

theorem append_ne_cons_cons {e : Char} (h : ∀ rest, cs = d :: e :: rest → False) (hd : ')' ≠ d)
    (he : ')' ≠ e) (tail rest : List Char) : cs ++ ')' :: tail ≠ d :: e :: rest := by
  match cs with
  | [] => simp [hd]
  | [c] => simp [he]
  | c :: c' :: cs =>
    rintro heq
    cases heq
    exact h cs rfl

@[simp] theorem skip_false (cs : List Char) : skip false cs = cs := rfl

theorem Flags.read_append {f g : Flags} {seen given : List Char} {last : Char}
    (h : f.read seen cs = some (g, given, last, rest)) :
    f.read seen (cs ++ more) = some (g, given, last, rest ++ more) := by
  induction cs generalizing f seen with
  | nil => cases h
  | cons c cs ih =>
    rw [List.cons_append, read]
    rw [read] at h
    split at h
    · rename_i hlast
      rw [if_pos hlast]
      split at h
      · cases h
      · rename_i hdash
        cases h
        rw [if_neg hdash]
    · rename_i hlast
      rw [if_neg hlast]
      split at h
      · cases h
      · rename_i hseen
        rw [if_neg hseen]
        split at h
        · rename_i hdash
          rw [if_pos hdash]
          exact ih h
        · rename_i hdash
          rw [if_neg hdash]
          obtain ⟨g', hg, h⟩ := Option.bind_eq_some_iff.mp h
          rw [hg]
          exact ih h

theorem takeWhile_append_paren (hp : p ')' = false) (cs more : List Char) :
    (cs ++ ')' :: more).takeWhile p = cs.takeWhile p ∧
      (cs ++ ')' :: more).dropWhile p = cs.dropWhile p ++ ')' :: more := by
  induction cs with
  | nil => simp [hp]
  | cons c cs ih => by_cases hc : p c <;> simp [hc, ih]

theorem spelled_false (p : Char → Bool) (cs : List Char) :
    spelled false p false cs = (cs.takeWhile p, cs.dropWhile p) := by
  induction cs with
  | nil => rfl
  | cons c cs ih => by_cases hc : p c <;> simp [spelled, hc, ih]

theorem braced_false_eq_some_iff {word : List Char} : braced false p cs = some (word, rest) ↔
    cs.takeWhile p = word ∧ cs.dropWhile p = '\x7d' :: rest := by
  unfold braced
  rw [spelled_false]
  generalize cs.takeWhile p = spelt, cs.dropWhile p = behind
  split
  · rename_i heq
    cases heq
    simp
  · rename_i hbrace
    simp only [reduceCtorEq, false_iff, not_and]
    rintro rfl rfl
    exact hbrace _ _ rfl

theorem steady_braced : Steady more (braced false p) := by
  intro cs word rest h
  obtain ⟨rfl, hdrop⟩ := braced_false_eq_some_iff.mp h
  obtain ⟨htake, hdrop'⟩ := takeWhile_dropWhile_append hdrop more
  exact braced_false_eq_some_iff.mpr ⟨htake, hdrop'⟩

namespace Escape

theorem steady_hexDigits (width n : Nat) : Steady more (hexDigits false width n) := by
  induction width generalizing n with
  | zero =>
    intro cs x rest h
    cases h
    rfl
  | succ width ih =>
    intro cs x rest h
    cases cs with
    | nil => cases h
    | cons c cs =>
      obtain ⟨d, hd, h⟩ := Option.bind_eq_some_iff.mp h
      rw [List.cons_append, hexDigits]
      simp only [skip_false, hd, Option.bind_some]
      exact ih _ h

theorem steady_codePoint (width : Nat) : Steady (')' :: tail) (codePoint false width) := by
  intro cs x rest h
  unfold codePoint codePointHere at h ⊢
  simp only [skip_false] at h ⊢
  split at h
  · exact steady_braced.bind (fun digits => steady_give (ofBraces digits)) h
  · rename_i hbrace
    split
    · rename_i heq
      exact absurd heq (append_ne_cons hbrace (by decide) _ _)
    · exact (steady_hexDigits width 0).bind (fun n => steady_give (ofDigits width n)) h

theorem steady_property (negated : Bool) : Steady (')' :: tail) (property false negated) := by
  intro cs x rest h
  unfold property propertyHere at h ⊢
  simp only [skip_false] at h ⊢
  split at h
  · cases h
  · cases h
  · exact steady_braced.map (bracedProperty negated) h
  · rename_i hslash hbrace
    cases h
    split
    · contradiction
    · rename_i heq
      cases heq
      exact (hslash rfl).elim
    · rename_i heq
      cases heq
      exact (hbrace rfl).elim
    · rename_i heq
      cases heq
      rfl

theorem bracedEdge_append {text name : List Char} {l : Look}
    (h : bracedEdge text (name, cs) = some (l, rest)) (more : List Char) :
    bracedEdge (text ++ more) (name, cs ++ more) = some (l, rest ++ more) := by
  unfold bracedEdge at h
  split at h <;> rename_i heq <;> cases heq
  · cases h
  · cases h
    rfl
  · exact steady_give _ h
  · cases h

theorem steady_wordEdge : Steady (')' :: tail) (wordEdge false) := by
  intro cs x rest h
  unfold wordEdge at h ⊢
  split at h
  · rename_i inner
    obtain ⟨htake, hdrop⟩ :=
      takeWhile_append_paren (p := isNameChar) (by decide) inner tail
    simp only [spelled_false, List.cons_append, htake, hdrop] at h ⊢
    exact bracedEdge_append h _
  · rename_i hbrace
    cases h
    split
    · rename_i heq
      exact absurd heq (append_ne_cons hbrace (by decide) _ _)
    · rfl

theorem steady_read : Steady (')' :: tail) (Escape.read false) := by
  intro cs x rest h
  cases cs with
  | nil => cases h
  | cons c cs =>
    rw [List.cons_append]
    unfold Escape.read at h ⊢
    dsimp only at h ⊢
    split at h
    all_goals first | (cases h; rfl) | skip
    · exact steady_codePoint 2 h
    · exact steady_codePoint 4 h
    · exact steady_codePoint 8 h
    · exact steady_property false h
    · exact steady_property true h
    · exact steady_wordEdge.map Atom.look h
    · split at h
      · rename_i hplain
        cases h
        rw [if_pos hplain]
      · cases h

end Escape

namespace Bracket

theorem body_eq_some_iff {s : CharSet} : namedSet?.body cs = some (s, rest) ↔
    cs.dropWhile (· ≠ ':') = ':' :: ']' :: rest ∧
      (namedSets.lookup (.ofList (cs.takeWhile (· ≠ ':')))).map CharSet.ofRanges = some s := by
  unfold namedSet?.body
  split
  · rename_i hdrop
    rw [hdrop]
    constructor
    · intro h
      obtain ⟨ranges, hranges, heq⟩ := Option.map_eq_some_iff.mp h
      cases heq
      exact ⟨rfl, by rw [hranges]; rfl⟩
    · rintro ⟨heq, hs⟩
      cases heq
      obtain ⟨ranges, hranges, rfl⟩ := Option.map_eq_some_iff.mp hs
      rw [hranges]
      rfl
  · rename_i hne
    simp only [reduceCtorEq, false_iff, not_and]
    exact fun hdrop => absurd hdrop (hne _)

theorem steady_body : Steady more namedSet?.body := by
  intro cs s rest h
  obtain ⟨hdrop, hs⟩ := body_eq_some_iff.mp h
  obtain ⟨htake, hdrop'⟩ := takeWhile_dropWhile_append hdrop more
  exact body_eq_some_iff.mpr ⟨hdrop', by rwa [htake]⟩

theorem body_append_eq_none (htail : ':' ∉ tail) (h : namedSet?.body cs = none) :
    namedSet?.body (cs ++ ')' :: tail) = none := by
  refine Option.eq_none_iff_forall_ne_some.mpr fun (s, rest) hsome => ?_
  obtain ⟨hdrop, hs⟩ := body_eq_some_iff.mp hsome
  cases hcs : cs.dropWhile (· ≠ ':') with
  | nil =>
    have hnil : (')' :: tail).dropWhile (· ≠ ':') = [] := by
      rw [List.dropWhile_eq_nil_iff]
      intro c hc
      have hne : c ≠ ':' := by
        rintro rfl
        simp_all
      simpa using hne
    rw [List.dropWhile_append, hcs, if_pos List.isEmpty_nil, hnil] at hdrop
    cases hdrop
  | cons d behind =>
    obtain ⟨htake, hdrop'⟩ := takeWhile_dropWhile_append hcs (')' :: tail)
    rw [hdrop] at hdrop'
    cases behind with
    | nil => cases hdrop'
    | cons e behind =>
      cases hdrop'
      rw [htake] at hs
      rw [body_eq_some_iff.mpr ⟨hcs, hs⟩] at h
      cases h

theorem steady_namedSet? : Steady (')' :: tail) namedSet? := by
  intro cs s rest h
  unfold namedSet? at h
  split at h
  · exact steady_body.map (true, ·) h
  · rename_i hcaret
    rw [List.cons_append, namedSet?]
    · exact steady_body.map (false, ·) h
    · exact append_ne_cons hcaret (by decide) _
  · cases h

theorem namedSet?_append_eq_none (htail : ':' ∉ tail) (h : namedSet? cs = none) :
    namedSet? (cs ++ ')' :: tail) = none := by
  unfold namedSet? at h
  split at h
  · rw [List.cons_append, List.cons_append, namedSet?,
      body_append_eq_none htail (Option.map_eq_none_iff.mp h)]
    rfl
  · rename_i hcaret
    rw [List.cons_append, namedSet?, body_append_eq_none htail (Option.map_eq_none_iff.mp h)]
    · rfl
    · exact append_ne_cons hcaret (by decide) _
  · rename_i hcolon
    rw [namedSet?]
    · exact fun rest heq => append_ne_cons hcolon (by decide) _ ('^' :: rest) heq
    · exact append_ne_cons hcolon (by decide) _

theorem first_append_of_spelled {extended negated : Bool}
    (h : spelled extended (· == '-') false (cs ++ ')' :: tail) =
      ((spelled extended (· == '-') false cs).1,
        (spelled extended (· == '-') false cs).2 ++ ')' :: tail)) :
    first extended negated (cs ++ ')' :: tail) =
      ((first extended negated cs).1, (first extended negated cs).2 ++ ')' :: tail) := by
  unfold first
  rw [h]
  rcases spelled extended (· == '-') false cs with ⟨hyphens, rest⟩
  match hyphens, rest with
  | [], [] => rfl
  | [], c :: rest =>
    by_cases hc : c = ']'
    · subst hc
      rfl
    · simp [hc]
  | _ :: _, _ => rfl

theorem enter_false_append (cs : List Char) : enter false (cs ++ ')' :: tail) =
    ((enter false cs).1, (enter false cs).2 ++ ')' :: tail) := by
  have hfirst : ∀ negated cs, first false negated (cs ++ ')' :: tail) =
      ((first false negated cs).1, (first false negated cs).2 ++ ')' :: tail) := by
    intro negated cs
    obtain ⟨htake, hdrop⟩ := takeWhile_append_paren (p := (· == '-')) (by decide) cs tail
    refine first_append_of_spelled ?_
    rw [spelled_false, spelled_false, htake, hdrop]
  simp only [enter, skip_false]
  cases cs with
  | nil => exact hfirst false []
  | cons c cs =>
    by_cases hc : c = '^'
    · subst hc
      exact hfirst true cs
    · simpa [enterHere, hc] using hfirst false (c :: cs)

theorem steady_atom : Steady (')' :: tail) (atom false) := by
  intro cs x rest h
  unfold atom at h ⊢
  split at h
  · cases h
  · exact Escape.steady_read h
  · rename_i c behind hne
    cases h
    split
    · rename_i heq
      cases heq
    · rename_i heq
      cases heq
      exact (hne rfl).elim
    · rename_i heq
      cases heq
      rfl

theorem peek_append (extended : Bool) (cs : List Char) :
    peek extended (cs ++ ')' :: tail) = some ((peek extended cs).getD ')') := by
  have htrim : ∀ cs, trimStart (cs ++ ')' :: tail) = trimStart cs ++ ')' :: tail := fun cs =>
    (takeWhile_append_paren (p := isBlank) (by decide) cs tail).2
  have hhead : ∀ cs : List Char, (cs ++ ')' :: tail).head? = some (cs.head?.getD ')') := by
    rintro ⟨⟩ <;> rfl
  unfold peek
  split
  · rw [htrim]
    generalize trimStart cs = here
    match here with
    | [] => rfl
    | c :: here =>
      by_cases hc : c = '#'
      · subst hc
        simp [htrim, hhead]
      · simp [hc]
  · exact hhead cs

theorem hyphenAlone_append (extended : Bool) (cs : List Char) :
    hyphenAlone extended (cs ++ ')' :: tail) = hyphenAlone extended cs := by
  unfold hyphenAlone
  rw [peek_append]
  cases peek extended cs <;> rfl

variable {f : Flags}

theorem steady_inner (htail : ':' ∉ tail) (hf : f.extended = false) :
    Steady (')' :: tail) (inner f) := by
  intro cs p rest h
  unfold inner at h ⊢
  split at h
  · rename_i hset
    rw [steady_namedSet? hset]
    exact steady_give _ h
  · rename_i hset
    cases h
    rw [namedSet?_append_eq_none htail hset, hf, enter_false_append]

variable [Regex.Engine] {first : Atom}

theorem upTo_of_ne (h : ∀ behind, cs ≠ '-' :: behind) :
    upTo f first cs = (first.set? f).map (·, cs) := by
  rw [upTo]
  exact h

theorem steady_upTo (hf : f.extended = false) : Steady (')' :: tail) (upTo f first) := by
  intro cs s rest h
  by_cases hdash : ∃ behind, cs = '-' :: behind
  · obtain ⟨behind, rfl⟩ := hdash
    rw [upTo] at h
    rw [List.cons_append, upTo, hyphenAlone_append]
    split at h
    · rename_i halone
      rw [if_pos halone]
      exact steady_give _ h
    · rename_i hrange
      rw [if_neg hrange]
      rw [hf] at h ⊢
      exact steady_atom.bind (fun last => steady_give (first.range? f last)) h
  · have hne := not_exists.mp hdash
    rw [upTo_of_ne hne] at h
    rw [upTo_of_ne]
    · exact steady_give _ h
    · exact append_ne_cons hne (by decide) _

theorem steady_range (hf : f.extended = false) : Steady (')' :: tail) (range f) := by
  intro cs s rest h
  obtain ⟨⟨first, behind⟩, hfirst, h⟩ := Option.bind_eq_some_iff.mp h
  rw [hf] at hfirst h
  unfold range
  simp only [hf, steady_atom hfirst, Option.bind_some]
  exact steady_upTo hf h

theorem steady_part (htail : ':' ∉ tail) (hf : f.extended = false) :
    Steady (')' :: tail) (part f) := by
  intro cs p rest h
  unfold part at h
  split at h
  · exact steady_inner htail hf h
  · cases h
    rfl
  · cases h
    rfl
  · cases h
    rfl
  · cases h
    rfl
  · rename_i hopen hclose hinter hdiff hsymm
    rw [part]
    · exact (steady_range hf).map Part.set h
    · exact append_ne_cons hopen (by decide) _
    · exact append_ne_cons hclose (by decide) _
    · exact append_ne_cons_cons hinter (by decide) (by decide) _
    · exact append_ne_cons_cons hdiff (by decide) (by decide) _
    · exact append_ne_cons_cons hsymm (by decide) (by decide) _

variable {fuel fuel' : Nat} {top : Level} {below : List Level} {n : Nested} {left : List Char}

theorem levels_succ_eq_some_iff : levels f (fuel + 1) top below cs = some (n, left) ↔
    ∃ p rest, part f (skip f.extended cs) = some (p, rest) ∧
      ((push? f top below p = some (.inl n) ∧ left = rest) ∨
        ∃ top' below', push? f top below p = some (.inr (top', below')) ∧
          levels f fuel top' below' rest = some (n, left)) := by
  rw [levels]
  constructor
  · intro h
    obtain ⟨⟨p, rest⟩, hp, h⟩ := Option.bind_eq_some_iff.mp h
    obtain ⟨m | ⟨top', below'⟩, hpush, h⟩ := Option.bind_eq_some_iff.mp h
    · cases h
      exact ⟨p, _, hp, .inl ⟨hpush, rfl⟩⟩
    · exact ⟨p, rest, hp, .inr ⟨top', below', hpush, h⟩⟩
  · rintro ⟨p, rest, hp, ⟨hpush, rfl⟩ | ⟨top', below', hpush, h⟩⟩
    · simp [hp, hpush]
    · simp [hp, hpush, h]

theorem levels_append (htail : ':' ∉ tail) (hf : f.extended = false)
    (h : levels f fuel top below cs = some (n, rest)) (hle : fuel ≤ fuel') :
    levels f fuel' top below (cs ++ ')' :: tail) = some (n, rest ++ ')' :: tail) := by
  induction fuel generalizing top below cs fuel' with
  | zero => cases h
  | succ fuel ih =>
    obtain ⟨fuel', rfl⟩ : ∃ k, fuel' = k + 1 := ⟨fuel' - 1, by omega⟩
    obtain ⟨p, behind, hp, hpush⟩ := levels_succ_eq_some_iff.mp h
    rw [hf, skip_false] at hp
    refine levels_succ_eq_some_iff.mpr ⟨p, behind ++ ')' :: tail, ?_, ?_⟩
    · rw [hf]
      exact steady_part htail hf hp
    · rcases hpush with ⟨hpush, rfl⟩ | ⟨top', below', hpush, h⟩
      · exact .inl ⟨hpush, rfl⟩
      · exact .inr ⟨top', below', hpush, ih h (by omega)⟩

theorem steady_read (htail : ':' ∉ tail) (hf : f.extended = false) :
    Steady (')' :: tail) (Bracket.read f) := by
  intro cs n rest h
  unfold Bracket.read at h ⊢
  rw [hf] at h ⊢
  rw [enter_false_append]
  exact levels_append htail hf h (by simp)

end Bracket

namespace Piece

theorem steady_namedGroup (f : Flags) : Steady more (namedGroup f) := by
  intro cs p rest h
  unfold namedGroup at h ⊢
  dsimp only at h ⊢
  split at h
  · cases h
  · rename_i hdrop
    obtain ⟨htake, hdrop'⟩ := takeWhile_dropWhile_append hdrop more
    rw [htake, hdrop']
    dsimp only
    split at h
    · rename_i hname
      cases h
      rw [if_pos hname]
    · cases h

theorem steady_flagGroup (f : Flags) : Steady more (flagGroup f) := by
  intro cs p rest h
  obtain ⟨⟨g, given, last, behind⟩, hread, h⟩ := Option.bind_eq_some_iff.mp h
  unfold flagGroup
  rw [Flags.read_append hread]
  exact steady_give _ h

theorem steady_groupHere (f : Flags) : Steady (')' :: tail) (groupHere f) := by
  intro cs p rest h
  unfold groupHere at h
  split at h
  · cases h
  · cases h
  · exact steady_namedGroup f h
  · rename_i hequal hnot
    rw [List.cons_append, List.cons_append, groupHere]
    · exact steady_namedGroup f h
    · exact append_ne_cons hequal (by decide) tail
    · exact append_ne_cons hnot (by decide) tail
  · rename_i hequal hnot hname hangle
    rw [List.cons_append, groupHere]
    · exact steady_flagGroup f h
    · exact fun t => append_ne_cons hangle (by decide) tail ('=' :: t)
    · exact fun t => append_ne_cons hangle (by decide) tail ('!' :: t)
    · exact append_ne_cons_cons hname (by decide) (by decide) tail
    · exact append_ne_cons hangle (by decide) tail
  · rename_i hquestion
    cases h
    have hquestion' := append_ne_cons hquestion (by decide) tail
    unfold groupHere
    split
    case h_6 => rfl
    all_goals exact absurd ‹_› (hquestion' _)

theorem steady_group {f : Flags} (hf : f.extended = false) : Steady (')' :: tail) (group f) := by
  intro cs p rest h
  unfold group at h ⊢
  rw [hf, skip_false] at h ⊢
  exact steady_groupHere f h

theorem number_append {n : Option Nat} (h : number false cs = (n, d :: rest)) :
    number false (cs ++ more) = (n, d :: (rest ++ more)) := by
  unfold number trimStart at h ⊢
  simp only [spelled_false] at h ⊢
  obtain ⟨hn, hrest⟩ := Prod.mk.inj h
  cases hblank : cs.dropWhile isBlank with
  | nil => simp [hblank] at hrest
  | cons c behind =>
    obtain ⟨-, hblank'⟩ := takeWhile_dropWhile_append hblank more
    rw [hblank] at hn hrest
    cases hdigits : (c :: behind).dropWhile Char.isDigit with
    | nil => simp [hdigits] at hrest
    | cons e behind' =>
      obtain ⟨htake, hdrop⟩ := takeWhile_dropWhile_append hdigits more
      rw [hdigits] at hrest
      obtain ⟨-, hrest'⟩ := takeWhile_dropWhile_append hrest more
      rw [List.cons_append] at htake hdrop hrest'
      simp only [hblank', htake, hdrop, hrest', hn]

theorem steady_upTo (lo : Nat) : Steady (')' :: tail) (upTo false lo) := by
  intro cs p rest h
  unfold upTo at h
  split at h
  · cases h
    rfl
  · rename_i hbrace
    rw [upTo]
    · split at h
      · rename_i hnumber
        rw [number_append hnumber]
        split at h
        · rename_i hle
          cases h
          exact if_pos hle
        · cases h
      · cases h
    · exact append_ne_cons hbrace (by decide) tail

theorem steady_count : Steady (')' :: tail) (count false) := by
  intro cs p rest h
  unfold count at h ⊢
  simp only [skip_false] at h ⊢
  split at h
  · rename_i hnumber
    cases h
    rw [number_append hnumber]
    rfl
  · rename_i hnumber
    rw [number_append hnumber]
    exact steady_upTo _ h
  · cases h

theorem lazy_append (cs : List Char) : lazy (cs ++ ')' :: tail) = lazy cs ++ ')' :: tail := by
  match cs with
  | [] => rfl
  | c :: cs =>
    by_cases hc : c = '?'
    · subst hc
      rfl
    · simp [lazy, hc]

variable [Regex.Engine]

theorem steady_read (htail : ':' ∉ tail) {f : Flags} (hf : f.extended = false) :
    Steady (')' :: tail) (Piece.read f) := by
  intro cs p rest h
  cases cs with
  | nil => cases h
  | cons c cs =>
    rw [List.cons_append]
    unfold Piece.read at h ⊢
    simp only [hf, skip_false] at h ⊢
    split at h
    case h_1 => exact steady_group hf h
    case h_4 =>
      exact (Bracket.steady_read htail hf).map
        (fun n => single (.chars n.set) n.depth n.set.size) h
    case h_8 =>
      obtain ⟨⟨p, behind⟩, hcount, heq⟩ := Option.map_eq_some_iff.mp h
      cases heq
      simp [steady_count hcount, lazy_append]
    case h_9 =>
      exact Escape.steady_read.bind (fun a => steady_give ((a.regex? f).map ofRegex)) h
    case h_10 => exact steady_give _ h
    case h_13 => exact steady_give _ h
    all_goals
      cases h
      simp only [lazy_append]

end Piece

end Lexicon
