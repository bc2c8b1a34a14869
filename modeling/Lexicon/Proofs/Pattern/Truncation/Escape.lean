import Lexicon.Proofs.Pattern.Reading

namespace Lexicon

open Text

def Shortens {α : Type} (read : List Char → Option (α × List Char)) : Prop :=
  ∀ ⦃cs x left⦄, read cs = some (x, left) → left <:+ cs

/-- What is read of a text in front of the parenthesis is read of the text alone, or the parenthesis
is read with it. -/
def Tracks {α : Type} (more : List Char) (read : List Char → Option (α × List Char)) : Prop :=
  ∀ ⦃cs x left⦄, read (cs ++ ')' :: more) = some (x, left) →
    (∃ rest, read cs = some (x, rest) ∧ left = rest ++ ')' :: more) ∨ left <:+ more

variable {α β : Type} {more cs left rest : List Char} {p : Char → Bool} {d : Char}
  {read : List Char → Option (α × List Char)} {extended : Bool}

theorem Shortens.map (h : Shortens read) (g : α → β) :
    Shortens fun cs => (read cs).map fun (x, left) => (g x, left) := by
  intro cs y left hread
  obtain ⟨⟨x, left⟩, hx, heq⟩ := Option.map_eq_some_iff.mp hread
  cases heq
  exact h hx

theorem Shortens.bind {next : α → List Char → Option (β × List Char)} (h : Shortens read)
    (hnext : ∀ x, Shortens (next x)) :
    Shortens fun cs => (read cs).bind fun (x, rest) => next x rest := by
  intro cs y left hread
  obtain ⟨⟨x, behind⟩, hx, hy⟩ := Option.bind_eq_some_iff.mp hread
  exact (hnext x hy).trans (h hx)

theorem shortens_give (y : Option α) : Shortens fun rest => y.map (·, rest) := by
  intro cs x left h
  obtain ⟨x, -, heq⟩ := Option.map_eq_some_iff.mp h
  cases heq
  exact List.suffix_rfl

theorem Tracks.map (h : Tracks more read) (g : α → β) :
    Tracks more fun cs => (read cs).map fun (x, left) => (g x, left) := by
  intro cs y left hread
  obtain ⟨⟨x, left⟩, hx, heq⟩ := Option.map_eq_some_iff.mp hread
  cases heq
  refine (h hx).imp_left ?_
  rintro ⟨rest, hrest, rfl⟩
  exact ⟨rest, by simp [hrest], rfl⟩

theorem Tracks.bind {next : α → List Char → Option (β × List Char)} (h : Tracks more read)
    (hnext : ∀ x, Tracks more (next x)) (hshort : ∀ x, Shortens (next x)) :
    Tracks more fun cs => (read cs).bind fun (x, rest) => next x rest := by
  intro cs y left hread
  obtain ⟨⟨x, behind⟩, hx, hy⟩ := Option.bind_eq_some_iff.mp hread
  rcases h hx with ⟨rest, hrest, rfl⟩ | hover
  · refine (hnext x hy).imp_left ?_
    rintro ⟨rest', hrest', rfl⟩
    exact ⟨rest', by simp [hrest, hrest'], rfl⟩
  · exact .inr ((hshort x hy).trans hover)

theorem tracks_give (y : Option α) : Tracks more fun rest => y.map (·, rest) := by
  intro cs x left h
  obtain ⟨x, rfl, heq⟩ := Option.map_eq_some_iff.mp h
  cases heq
  exact .inl ⟨cs, rfl, rfl⟩

theorem eq_cons_of_append_eq (h : cs ++ ')' :: more = d :: left) (hd : ')' ≠ d) :
    ∃ rest, cs = d :: rest ∧ left = rest ++ ')' :: more := by
  cases cs with
  | nil =>
    cases h
    exact absurd rfl hd
  | cons c cs =>
    cases h
    exact ⟨cs, rfl, rfl⟩

theorem eq_cons_cons_of_append_eq {e : Char} (h : cs ++ ')' :: more = d :: e :: left)
    (hd : ')' ≠ d) (he : ')' ≠ e) : ∃ rest, cs = d :: e :: rest ∧ left = rest ++ ')' :: more := by
  obtain ⟨cs, rfl, hleft⟩ := eq_cons_of_append_eq h hd
  obtain ⟨rest, rfl, rfl⟩ := eq_cons_of_append_eq hleft.symm he
  exact ⟨rest, rfl, rfl⟩

theorem dropWhile_append_cases (hp : p ')') (h : (cs ++ ')' :: more).dropWhile p = d :: left) :
    (∃ rest, cs.dropWhile p = d :: rest ∧ left = rest ++ ')' :: more) ∨ d :: left <:+ more := by
  cases hcs : cs.dropWhile p with
  | nil =>
    rw [List.dropWhile_append, hcs, if_pos List.isEmpty_nil, List.dropWhile_cons_of_pos hp] at h
    exact .inr (h ▸ List.dropWhile_suffix p)
  | cons c behind =>
    rw [(takeWhile_dropWhile_append hcs (')' :: more)).2] at h
    cases h
    exact .inl ⟨behind, rfl, rfl⟩

theorem skipRemarks_suffix (inComment : Bool) (cs : List Char) :
    skipRemarks inComment cs <:+ cs := by
  induction cs generalizing inComment with
  | nil => exact List.suffix_rfl
  | cons c cs ih =>
    rw [skipRemarks]
    split
    · exact (ih _).trans (List.suffix_cons c cs)
    · split
      · exact (ih _).trans (List.suffix_cons c cs)
      · split
        · exact (ih _).trans (List.suffix_cons c cs)
        · exact List.suffix_rfl

theorem skip_suffix (extended : Bool) (cs : List Char) : skip extended cs <:+ cs := by
  unfold skip
  split
  · exact skipRemarks_suffix false cs
  · exact List.suffix_rfl

theorem skipRemarks_comment (h : '\n' ∉ cs) : skipRemarks true cs = [] := by
  induction cs with
  | nil => rfl
  | cons c cs ih =>
    simp only [List.mem_cons, not_or] at h
    have hc : decide (c ≠ '\n') = true := decide_eq_true (Ne.symm h.1)
    rw [skipRemarks, if_pos rfl, hc, ih h.2]

theorem skipRemarks_append (hmore : '\n' ∉ more) (inComment : Bool) (cs : List Char) :
    skipRemarks inComment (cs ++ ')' :: more) = skipRemarks inComment cs ++ ')' :: more ∨
      skipRemarks inComment cs = [] ∧ skipRemarks inComment (cs ++ ')' :: more) = [] := by
  induction cs generalizing inComment with
  | nil =>
    cases inComment with
    | true =>
      have hcomment : '\n' ∉ ')' :: more := by simpa using hmore
      exact .inr ⟨rfl, skipRemarks_comment hcomment⟩
    | false => exact .inl rfl
  | cons c cs ih =>
    rw [List.cons_append, skipRemarks, skipRemarks]
    split
    · exact ih _
    · split
      · exact ih _
      · split
        · exact ih _
        · exact .inl rfl

theorem skip_append (hmore : '\n' ∉ more) (extended : Bool) (cs : List Char) :
    skip extended (cs ++ ')' :: more) = skip extended cs ++ ')' :: more ∨
      skip extended cs = [] ∧ skip extended (cs ++ ')' :: more) = [] := by
  cases extended with
  | true => exact skipRemarks_append hmore false cs
  | false => exact .inl rfl

theorem Shortens.skip (h : Shortens read) (extended : Bool) :
    Shortens fun cs => read (skip extended cs) :=
  fun _ _ _ hread => (h hread).trans (skip_suffix extended _)

theorem Tracks.skip (h : Tracks more read) (hshort : Shortens read) (hmore : '\n' ∉ more)
    (extended : Bool) : Tracks more fun cs => read (skip extended cs) := by
  intro cs x left hread
  dsimp only at hread ⊢
  rcases skip_append hmore extended cs with heq | ⟨-, hnil⟩
  · rw [heq] at hread
    exact h hread
  · rw [hnil] at hread
    obtain rfl := List.suffix_nil.mp (hshort hread)
    exact .inr (List.nil_suffix)

theorem spelled_suffix (extended : Bool) (p : Char → Bool) (inComment : Bool) (cs : List Char) :
    (spelled extended p inComment cs).2 <:+ cs := by
  induction cs generalizing inComment with
  | nil => exact List.suffix_rfl
  | cons c cs ih =>
    have hlater : ∀ b, (spelled extended p b cs).2 <:+ c :: cs := fun b =>
      (ih b).trans (List.suffix_cons c cs)
    rw [spelled]
    split
    · exact hlater _
    · split
      · exact hlater _
      · split
        · exact hlater _
        · split
          · exact hlater false
          · exact List.suffix_rfl

theorem spelled_comment (p : Char → Bool) (h : '\n' ∉ cs) :
    spelled extended p true cs = ([], []) := by
  induction cs with
  | nil => rfl
  | cons c cs ih =>
    simp only [List.mem_cons, not_or] at h
    have hc : decide (c ≠ '\n') = true := decide_eq_true (Ne.symm h.1)
    rw [spelled, if_pos rfl, hc, ih h.2]

theorem spelled_append (extended : Bool) (hp : p ')' = false) (hmore : '\n' ∉ more) (inComment : Bool)
    (cs : List Char) :
    spelled extended p inComment (cs ++ ')' :: more) = ((spelled extended p inComment cs).1,
        (spelled extended p inComment cs).2 ++ ')' :: more) ∨
      (spelled extended p inComment cs).2 = [] ∧
        spelled extended p inComment (cs ++ ')' :: more) =
          ((spelled extended p inComment cs).1, []) := by
  induction cs generalizing inComment with
  | nil =>
    cases inComment with
    | true =>
      have hcomment : '\n' ∉ ')' :: more := by simpa using hmore
      exact .inr ⟨rfl, spelled_comment p hcomment⟩
    | false => exact .inl (by simp [spelled, hp, show isBlank ')' = false by decide])
  | cons c cs ih =>
    rw [List.cons_append, spelled, spelled]
    split
    · exact ih _
    · split
      · exact ih _
      · split
        · exact ih _
        · split
          · rcases ih false with heq | ⟨hnil, heq⟩
            · exact .inl (by rw [heq])
            · exact .inr ⟨hnil, by rw [heq]⟩
          · exact .inl rfl

theorem spelled_truncate {inComment : Bool} {word : List Char} (hd : ')' ≠ d)
    (h : spelled extended p inComment (cs ++ ')' :: more) = (word, d :: left)) :
    (∃ rest, spelled extended p inComment cs = (word, d :: rest) ∧ left = rest ++ ')' :: more) ∨
      d :: left <:+ more := by
  induction cs generalizing inComment word with
  | nil =>
    have hsuffix := spelled_suffix extended p inComment (')' :: more)
    rw [List.nil_append] at h
    rw [h] at hsuffix
    rcases List.suffix_cons_iff.mp hsuffix with heq | hsuffix
    · cases heq
      exact absurd rfl hd
    · exact .inr hsuffix
  | cons c cs ih =>
    rw [List.cons_append, spelled] at h
    rw [spelled]
    split at h
    · rename_i hcomment
      rw [if_pos hcomment]
      exact ih h
    · rename_i hcomment
      rw [if_neg hcomment]
      split at h
      · rename_i hblank
        rw [if_pos hblank]
        exact ih h
      · rename_i hblank
        rw [if_neg hblank]
        split at h
        · rename_i hsign
          rw [if_pos hsign]
          exact ih h
        · rename_i hsign
          rw [if_neg hsign]
          split at h
          · rename_i hc
            rw [if_pos hc]
            obtain ⟨rfl, hrest⟩ := Prod.mk.inj h
            refine (ih (Prod.ext rfl hrest)).imp_left ?_
            rintro ⟨rest, heq, rfl⟩
            exact ⟨rest, by rw [heq], rfl⟩
          · rename_i hc
            rw [if_neg hc]
            cases h
            exact .inl ⟨cs, rfl, rfl⟩

theorem braced_eq_some_iff {word : List Char} : braced extended p cs = some (word, rest) ↔
    spelled extended p false cs = (word, '\x7d' :: rest) := by
  unfold braced
  split
  · rename_i heq
    rw [heq]
    simp
  · rename_i hbrace
    simp only [reduceCtorEq, false_iff]
    exact hbrace _ _

theorem shortens_braced : Shortens (braced extended p) := by
  intro cs word left h
  have hsuffix := spelled_suffix extended p false cs
  rw [braced_eq_some_iff.mp h] at hsuffix
  exact (List.suffix_cons _ _).trans hsuffix

theorem tracks_braced : Tracks more (braced extended p) := by
  intro cs word left h
  rcases spelled_truncate (by decide) (braced_eq_some_iff.mp h) with ⟨rest, hrest, rfl⟩ | hover
  · exact .inl ⟨rest, braced_eq_some_iff.mpr hrest, rfl⟩
  · exact .inr ((List.suffix_cons _ _).trans hover)

theorem skipRemarks_eq_of_spelled {inComment : Bool} (h : (spelled true p inComment cs).1 = []) :
    (spelled true p inComment cs).2 = skipRemarks inComment cs := by
  induction cs generalizing inComment with
  | nil => rfl
  | cons c cs ih =>
    rw [spelled] at h ⊢
    rw [skipRemarks]
    simp only [Bool.true_and, beq_iff_eq] at h ⊢
    split at h
    · rename_i hcomment
      rw [if_pos hcomment, if_pos hcomment]
      exact ih h
    · rename_i hcomment
      rw [if_neg hcomment, if_neg hcomment]
      split at h
      · rename_i hblank
        rw [if_pos hblank, if_pos hblank]
        exact ih h
      · rename_i hblank
        rw [if_neg hblank, if_neg hblank]
        split at h
        · rename_i hsign
          rw [if_pos hsign, if_pos hsign]
          exact ih h
        · rename_i hsign
          rw [if_neg hsign, if_neg hsign]
          split at h
          · cases h
          · rename_i hc
            rw [if_neg hc]

theorem skip_eq_of_spelled (extended : Bool) (cs : List Char)
    (h : (spelled extended p false cs).1 = []) :
    (spelled extended p false cs).2 = skip extended cs := by
  cases extended with
  | true => exact skipRemarks_eq_of_spelled h
  | false =>
    rw [spelled_false] at h ⊢
    have hsplit := List.takeWhile_append_dropWhile (p := p) (l := cs)
    rwa [show cs.takeWhile p = [] from h] at hsplit

namespace Escape

theorem shortens_hexDigits (width n : Nat) : Shortens (hexDigits extended width n) := by
  induction width generalizing n with
  | zero =>
    intro cs x left h
    cases h
    exact List.suffix_rfl
  | succ width ih =>
    intro cs x left h
    rw [hexDigits] at h
    split at h
    · cases h
    · rename_i c behind hskip
      obtain ⟨d, -, h⟩ := Option.bind_eq_some_iff.mp h
      have hbehind := hskip ▸ skip_suffix extended cs
      exact (ih _ h).trans ((List.suffix_cons c behind).trans hbehind)

theorem tracks_hexDigits (hmore : '\n' ∉ more) (width n : Nat) :
    Tracks more (hexDigits extended width n) := by
  induction width generalizing n with
  | zero =>
    intro cs x left h
    cases h
    exact .inl ⟨cs, rfl, rfl⟩
  | succ width ih =>
    intro cs x left h
    rw [hexDigits] at h ⊢
    rcases skip_append hmore extended cs with heq | ⟨-, hnil⟩
    · rw [heq] at h
      cases hcs : skip extended cs with
      | nil =>
        rw [hcs] at h
        obtain ⟨d, hd, -⟩ := Option.bind_eq_some_iff.mp h
        cases hd
      | cons c behind =>
        rw [hcs] at h
        obtain ⟨d, hd, h⟩ := Option.bind_eq_some_iff.mp h
        simpa [hd] using ih _ h
    · rw [hnil] at h
      cases h

theorem shortens_codePointHere (width : Nat) : Shortens (codePointHere extended width) := by
  intro cs x left h
  unfold codePointHere at h
  split at h
  · have hleft := shortens_braced.bind (fun digits => shortens_give (ofBraces digits)) h
    exact hleft.trans (List.suffix_cons _ _)
  · exact (shortens_hexDigits width 0).bind (fun n => shortens_give (ofDigits width n)) h

theorem tracks_codePointHere (hmore : '\n' ∉ more) (width : Nat) :
    Tracks more (codePointHere extended width) := by
  intro cs x left h
  unfold codePointHere at h
  split at h
  · rename_i heq
    obtain ⟨behind, rfl, rfl⟩ := eq_cons_of_append_eq heq (by decide)
    exact tracks_braced.bind (fun digits => tracks_give (ofBraces digits))
      (fun digits => shortens_give (ofBraces digits)) h
  · rename_i hbrace
    rw [codePointHere]
    · exact (tracks_hexDigits hmore width 0).bind (fun n => tracks_give (ofDigits width n))
        (fun n => shortens_give (ofDigits width n)) h
    · rintro behind rfl
      exact hbrace _ rfl

theorem shortens_codePoint (width : Nat) : Shortens (codePoint extended width) :=
  (shortens_codePointHere width).skip extended

theorem tracks_codePoint (hmore : '\n' ∉ more) (width : Nat) :
    Tracks more (codePoint extended width) :=
  (tracks_codePointHere hmore width).skip (shortens_codePointHere width) hmore extended

theorem shortens_propertyHere (negated : Bool) : Shortens (propertyHere extended negated) := by
  intro cs x left h
  unfold propertyHere at h
  split at h
  · cases h
  · cases h
  · exact (shortens_braced.map (bracedProperty negated) h).trans (List.suffix_cons _ _)
  · cases h
    exact List.suffix_cons _ _

theorem tracks_propertyHere (negated : Bool) : Tracks more (propertyHere extended negated) := by
  intro cs x left h
  cases cs with
  | nil =>
    cases h
    exact .inr List.suffix_rfl
  | cons c cs =>
    rw [List.cons_append] at h
    unfold propertyHere at h
    split at h
    · contradiction
    · cases h
    · rename_i heq
      cases heq
      exact tracks_braced.map (bracedProperty negated) h
    · rename_i hslash hbrace heq
      cases heq
      cases h
      refine .inl ⟨cs, ?_, rfl⟩
      rw [propertyHere]
      · exact hslash
      · exact hbrace

theorem shortens_property (negated : Bool) : Shortens (property extended negated) :=
  (shortens_propertyHere negated).skip extended

theorem tracks_property (hmore : '\n' ∉ more) (negated : Bool) :
    Tracks more (property extended negated) :=
  (tracks_propertyHere negated).skip (shortens_propertyHere negated) hmore extended

/-- A brace behind a word edge with nothing but remarks in it, up to the parenthesis. -/
def Stuck (extended : Bool) (more left : List Char) : Prop :=
  ∃ inner, left = '\x7b' :: (inner ++ ')' :: more) ∧ skip extended inner = []

theorem wordEdge_of_ne (h : ∀ inner, cs ≠ '\x7b' :: inner) :
    wordEdge extended cs = some (.wordEdge, cs) := by
  rw [wordEdge]
  exact h

theorem shortens_wordEdge : Shortens (wordEdge extended) := by
  intro cs l left h
  unfold wordEdge at h
  split at h
  · rename_i inner
    have hbehind := spelled_suffix extended isNameChar false inner
    unfold bracedEdge at h
    split at h
    · cases h
    · cases h
      exact List.suffix_rfl
    · rename_i heq
      rw [heq] at hbehind
      have hleft := (shortens_give _ h).trans ((List.suffix_cons _ _).trans hbehind)
      exact hleft.trans (List.suffix_cons _ _)
    · cases h
  · cases h
    exact List.suffix_rfl

theorem wordEdge_truncate {l : Look} (hmore : '\n' ∉ more)
    (h : wordEdge extended (cs ++ ')' :: more) = some (l, left)) :
    (∃ rest, wordEdge extended cs = some (l, rest) ∧ left = rest ++ ')' :: more) ∨
      l = .wordEdge ∧ Stuck extended more left := by
  by_cases hbrace : ∃ inner, cs = '\x7b' :: inner
  · obtain ⟨inner, rfl⟩ := hbrace
    have hremarks := skip_eq_of_spelled extended inner (p := isNameChar)
    rw [List.cons_append, wordEdge] at h
    rw [wordEdge]
    rcases spelled_append extended (p := isNameChar) (by decide) hmore false inner with
      heq | ⟨-, heq⟩
    · rw [heq] at h
      rcases hinner : spelled extended isNameChar false inner with ⟨name, behind⟩
      rw [hinner] at h hremarks
      match name, behind with
      | [], [] =>
        cases h
        exact .inr ⟨rfl, inner, rfl, (hremarks rfl).symm⟩
      | [], d :: behind =>
        cases h
        exact .inl ⟨'\x7b' :: inner, rfl, rfl⟩
      | c :: name, [] => cases h
      | c :: name, d :: behind =>
        unfold bracedEdge at h
        split at h <;> rename_i heq <;> cases heq
        · obtain ⟨l', hl, heq⟩ := Option.map_eq_some_iff.mp h
          cases heq
          exact .inl ⟨behind, by simp only [bracedEdge, hl, Option.map_some], rfl⟩
        · cases h
    · rw [heq] at h
      generalize (spelled extended isNameChar false inner).1 = name at h
      cases name <;> cases h
  · have hne := not_exists.mp hbrace
    rw [wordEdge_of_ne fun inner =>
      append_ne_cons (fun rest heq => hne rest heq) (by decide) _ _] at h
    cases h
    exact .inl ⟨cs, wordEdge_of_ne hne, rfl⟩

theorem shortens_read {x : Atom} {c : Char} (h : Escape.read extended (c :: cs) = some (x, left)) :
    left <:+ cs := by
  unfold Escape.read at h
  dsimp only at h
  split at h
  all_goals first | (cases h; exact List.suffix_rfl) | skip
  · exact shortens_codePoint 2 h
  · exact shortens_codePoint 4 h
  · exact shortens_codePoint 8 h
  · exact shortens_property false h
  · exact shortens_property true h
  · exact shortens_wordEdge.map Atom.look h
  · split at h <;> cases h
    exact List.suffix_rfl

theorem read_truncate {x : Atom} (hmore : '\n' ∉ more)
    (h : Escape.read extended (cs ++ ')' :: more) = some (x, left)) :
    (∃ rest, Escape.read extended cs = some (x, rest) ∧ left = rest ++ ')' :: more) ∨
      left <:+ more ∨ x = .look .wordEdge ∧ Stuck extended more left := by
  cases cs with
  | nil => exact .inr (.inl (shortens_read h))
  | cons c cs =>
    rw [List.cons_append] at h
    unfold Escape.read at h ⊢
    dsimp only at h ⊢
    split at h
    all_goals first | (cases h; exact .inl ⟨cs, rfl, rfl⟩) | skip
    · exact (tracks_codePoint hmore 2 h).imp_right .inl
    · exact (tracks_codePoint hmore 4 h).imp_right .inl
    · exact (tracks_codePoint hmore 8 h).imp_right .inl
    · exact (tracks_property hmore false h).imp_right .inl
    · exact (tracks_property hmore true h).imp_right .inl
    · obtain ⟨⟨l, behind⟩, hl, heq⟩ := Option.map_eq_some_iff.mp h
      cases heq
      rcases wordEdge_truncate hmore hl with ⟨rest, hrest, rfl⟩ | ⟨rfl, hstuck⟩
      · exact .inl ⟨rest, by simp [hrest], rfl⟩
      · exact .inr (.inr ⟨rfl, hstuck⟩)
    · split at h
      · rename_i hplain
        cases h
        exact .inl ⟨cs, if_pos hplain, rfl⟩
      · cases h

end Escape

end Lexicon
