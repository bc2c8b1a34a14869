import Lexicon.Proofs.Pattern.Truncation.Bracket

namespace Lexicon

open Text

variable {more cs left : List Char} {extended : Bool}

theorem Flags.shortens_read {f g : Flags} {seen given : List Char} {last : Char}
    (h : f.read seen cs = some (g, given, last, left)) : left <:+ cs := by
  induction cs generalizing f seen with
  | nil => cases h
  | cons c cs ih =>
    rw [Flags.read] at h
    split at h
    · split at h <;> cases h
      exact List.suffix_cons _ _
    · split at h
      · cases h
      · split at h
        · exact (ih h).trans (List.suffix_cons c cs)
        · obtain ⟨g', -, h⟩ := Option.bind_eq_some_iff.mp h
          exact (ih h).trans (List.suffix_cons c cs)

theorem Flags.read_truncate {f g : Flags} {seen given : List Char} {last : Char}
    (h : f.read seen (cs ++ ')' :: more) = some (g, given, last, left)) :
    (∃ rest, f.read seen cs = some (g, given, last, rest) ∧ left = rest ++ ')' :: more) ∨
      left <:+ more := by
  induction cs generalizing f seen with
  | nil =>
    rw [List.nil_append, Flags.read, if_pos (.inr rfl)] at h
    split at h <;> cases h
    exact .inr List.suffix_rfl
  | cons c cs ih =>
    rw [List.cons_append, Flags.read] at h
    rw [Flags.read]
    split at h
    · rename_i hlast
      rw [if_pos hlast]
      split at h
      · cases h
      · rename_i hdash
        cases h
        exact .inl ⟨cs, if_neg hdash, rfl⟩
    · rename_i hlast
      rw [if_neg hlast]
      split at h
      · cases h
      · rename_i hseen
        rw [if_neg hseen]
        split at h
        · rename_i hdash
          rw [if_pos hdash]
          exact ih h
        · rename_i hdash
          rw [if_neg hdash]
          obtain ⟨g', hg, h⟩ := Option.bind_eq_some_iff.mp h
          simp only [hg, Option.bind_some]
          exact ih h

namespace Piece

theorem shortens_namedGroup (f : Flags) : Shortens (namedGroup f) := by
  intro cs p left h
  unfold namedGroup at h
  dsimp only at h
  split at h
  · cases h
  · rename_i hdrop
    split at h <;> cases h
    have hleft := hdrop ▸ List.dropWhile_suffix (l := cs) (· ≠ '>')
    exact (List.suffix_cons _ _).trans hleft

theorem tracks_namedGroup (f : Flags) : Tracks more (namedGroup f) := by
  intro cs p left h
  unfold namedGroup at h ⊢
  dsimp only at h ⊢
  split at h
  · cases h
  · rename_i hdrop
    rcases dropWhile_append_cases (by decide) hdrop with ⟨rest, hrest, rfl⟩ | hover
    · rw [(takeWhile_dropWhile_append hrest _).1] at h
      split at h <;> cases h
      rename_i hname
      exact .inl ⟨rest, by rw [hrest]; exact if_pos hname, rfl⟩
    · split at h <;> cases h
      exact .inr ((List.suffix_cons _ _).trans hover)

theorem shortens_flagGroup (f : Flags) : Shortens (flagGroup f) := by
  intro cs p left h
  obtain ⟨⟨g, given, last, rest⟩, hread, h⟩ := Option.bind_eq_some_iff.mp h
  exact (shortens_give _ h).trans (Flags.shortens_read hread)

theorem tracks_flagGroup (f : Flags) : Tracks more (flagGroup f) := by
  intro cs p left h
  obtain ⟨⟨g, given, last, rest⟩, hread, h⟩ := Option.bind_eq_some_iff.mp h
  rcases Flags.read_truncate hread with ⟨rest', hrest, rfl⟩ | hover
  · unfold flagGroup
    rw [hrest]
    exact tracks_give _ h
  · exact .inr ((shortens_give _ h).trans hover)

theorem shortens_groupHere (f : Flags) : Shortens (groupHere f) := by
  intro cs p left h
  unfold groupHere at h
  split at h
  · cases h
  · cases h
  · exact (shortens_namedGroup f h).trans (List.suffix_append ['?', 'P', '<'] _)
  · exact (shortens_namedGroup f h).trans (List.suffix_append ['?', '<'] _)
  · exact (shortens_flagGroup f h).trans (List.suffix_cons '?' _)
  · cases h
    exact List.suffix_rfl

theorem tracks_groupHere (f : Flags) : Tracks more (groupHere f) := by
  intro cs p left h
  unfold groupHere at h
  split at h
  · cases h
  · cases h
  · rename_i heq
    obtain ⟨cs₁, rfl, h₁⟩ := eq_cons_of_append_eq heq (by decide)
    obtain ⟨cs₂, rfl, rfl⟩ := eq_cons_cons_of_append_eq h₁.symm (by decide) (by decide)
    rw [groupHere]
    exact tracks_namedGroup f h
  · rename_i hequal hnot heq
    obtain ⟨cs₁, rfl, rfl⟩ := eq_cons_cons_of_append_eq heq (by decide) (by decide)
    rw [groupHere]
    · exact tracks_namedGroup f h
    · rintro rest rfl
      exact hequal _ rfl
    · rintro rest rfl
      exact hnot _ rfl
  · rename_i hequal hnot hname hangle heq
    obtain ⟨cs₁, rfl, rfl⟩ := eq_cons_of_append_eq heq (by decide)
    rw [groupHere]
    · exact tracks_flagGroup f h
    · rintro rest rfl
      exact hequal _ rfl
    · rintro rest rfl
      exact hnot _ rfl
    · rintro rest rfl
      exact hname _ rfl
    · rintro rest rfl
      exact hangle _ rfl
  · rename_i hquestion
    cases h
    refine .inl ⟨cs, ?_, rfl⟩
    rw [groupHere]
    all_goals
      rintro rest rfl
      exact hquestion _ rfl

theorem shortens_group (f : Flags) : Shortens (group f) :=
  (shortens_groupHere f).skip f.extended

theorem tracks_group (hmore : '\n' ∉ more) (f : Flags) : Tracks more (group f) :=
  (tracks_groupHere f).skip (shortens_groupHere f) hmore f.extended

theorem number_suffix (extended : Bool) (cs : List Char) : (number extended cs).2 <:+ cs :=
  (List.dropWhile_suffix _).trans ((spelled_suffix extended _ false _).trans
    (List.dropWhile_suffix _))

theorem number_append_paren (extended : Bool) (hmore : '\n' ∉ more) (cs : List Char) :
    number extended (cs ++ ')' :: more) =
        ((number extended cs).1, (number extended cs).2 ++ ')' :: more) ∨
      (number extended (cs ++ ')' :: more)).2 = [] := by
  have htrim : ∀ cs, trimStart (cs ++ ')' :: more) = trimStart cs ++ ')' :: more := fun cs =>
    (takeWhile_append_paren (p := isBlank) (by decide) cs more).2
  unfold number
  rw [htrim]
  rcases spelled_append extended (p := Char.isDigit) (by decide) hmore false (trimStart cs) with
    heq | ⟨-, hnil⟩
  · rw [heq]
    exact .inl (by simp only [htrim])
  · rw [hnil]
    exact .inr rfl

theorem shortens_upTo (lo : Nat) : Shortens (upTo extended lo) := by
  intro cs p left h
  unfold upTo at h
  split at h
  · cases h
    exact List.suffix_cons _ _
  · have hnumber := number_suffix extended cs
    split at h <;> rename_i heq
    · rw [heq] at hnumber
      split at h <;> cases h
      exact (List.suffix_cons _ _).trans hnumber
    · cases h

theorem shortens_count : Shortens (count extended) := by
  intro cs p left h
  unfold count at h
  have hnumber := (number_suffix extended (skip extended cs)).trans (skip_suffix extended cs)
  split at h <;> rename_i heq
  · rw [heq] at hnumber
    cases h
    exact (List.suffix_cons _ _).trans hnumber
  · rw [heq] at hnumber
    exact (shortens_upTo _ h).trans
      ((skip_suffix extended _).trans ((List.suffix_cons _ _).trans hnumber))
  · cases h

theorem number_truncate {n : Option Nat} {d : Char} (hmore : '\n' ∉ more) (hd : ')' ≠ d)
    (h : number extended (cs ++ ')' :: more) = (n, d :: left)) :
    ∃ rest, number extended cs = (n, d :: rest) ∧ left = rest ++ ')' :: more := by
  rcases number_append_paren extended hmore cs with heq | hnil
  · obtain ⟨hn, hleft⟩ := Prod.mk.inj (heq.symm.trans h)
    obtain ⟨rest, hrest, rfl⟩ := eq_cons_of_append_eq hleft hd
    exact ⟨rest, Prod.ext hn hrest, rfl⟩
  · rw [h] at hnil
    cases hnil

theorem upTo_truncate {p : Piece} {lo : Nat} (hmore : '\n' ∉ more)
    (h : upTo extended lo (cs ++ ')' :: more) = some (p, left)) :
    ∃ rest, upTo extended lo cs = some (p, rest) ∧ left = rest ++ ')' :: more := by
  unfold upTo at h
  split at h
  · rename_i heq
    obtain ⟨rest, rfl, rfl⟩ := eq_cons_of_append_eq heq (by decide)
    cases h
    exact ⟨rest, rfl, rfl⟩
  · rename_i hbrace
    split at h <;> rename_i heq
    · obtain ⟨rest, hrest, rfl⟩ := number_truncate hmore (by decide) heq
      split at h <;> cases h
      rename_i hle
      refine ⟨rest, ?_, rfl⟩
      rw [upTo]
      · rw [hrest]
        exact if_pos hle
      · rintro rest' rfl
        exact hbrace _ rfl
    · cases h

theorem count_truncate {p : Piece} (hmore : '\n' ∉ more)
    (h : count extended (cs ++ ')' :: more) = some (p, left)) :
    ∃ rest, count extended cs = some (p, rest) ∧ left = rest ++ ')' :: more := by
  unfold count at h ⊢
  rcases skip_append hmore extended cs with heq | ⟨-, hnil⟩
  · rw [heq] at h
    split at h <;> rename_i heq
    · obtain ⟨rest, hrest, rfl⟩ := number_truncate hmore (by decide) heq
      cases h
      exact ⟨rest, by simp only [hrest], rfl⟩
    · obtain ⟨rest, hrest, rfl⟩ := number_truncate hmore (by decide) heq
      rw [hrest]
      rcases skip_append hmore extended rest with heq | ⟨-, hnil⟩
      · rw [heq] at h
        exact upTo_truncate hmore h
      · rw [hnil] at h
        cases h
    · cases h
  · rw [hnil] at h
    cases h

theorem lazy_suffix (cs : List Char) : lazy cs <:+ cs := by
  unfold lazy
  split
  · exact List.suffix_cons _ _
  · exact List.suffix_rfl

variable [Regex.Engine] {f : Flags} {p : Piece}

theorem shortens_read {c : Char} (h : Piece.read f (c :: cs) = some (p, left)) : left <:+ cs := by
  unfold Piece.read at h
  dsimp only at h
  split at h
  case h_1 => exact shortens_group f h
  case h_4 =>
    exact (Bracket.shortens_read f).map (fun n => single (.chars n.set) n.depth n.set.size) h
  case h_8 =>
    obtain ⟨⟨p, behind⟩, hcount, heq⟩ := Option.map_eq_some_iff.mp h
    cases heq
    exact (lazy_suffix _).trans ((skip_suffix _ behind).trans (shortens_count hcount))
  case h_9 =>
    obtain ⟨⟨x, behind⟩, hread, h⟩ := Option.bind_eq_some_iff.mp h
    refine (shortens_give _ h).trans ?_
    cases cs with
    | nil => cases hread
    | cons d cs => exact (Escape.shortens_read hread).trans (List.suffix_cons d cs)
  case h_10 => exact shortens_give _ h
  case h_13 => exact shortens_give _ h
  all_goals
    cases h
    first | exact lazy_suffix cs | exact List.suffix_rfl

/-- A piece in front of the parenthesis is a piece of the text alone, or the parenthesis has been
read with it, or it is a word edge that took the brace behind it for the next piece. -/
theorem read_truncate {c : Char} (hmore : '\n' ∉ more)
    (h : Piece.read f (c :: (cs ++ ')' :: more)) = some (p, left)) :
    (∃ rest, Piece.read f (c :: cs) = some (p, rest) ∧ left = rest ++ ')' :: more) ∨
      left <:+ more ∨
      p = ofRegex (.look (f.look .wordEdge)) ∧ Escape.Stuck f.extended more left := by
  unfold Piece.read at h ⊢
  dsimp only at h ⊢
  split at h
  case h_1 => exact (tracks_group hmore f h).imp_right .inl
  case h_4 =>
    exact ((Bracket.tracks_read hmore f).map
      (fun n => single (.chars n.set) n.depth n.set.size) h).imp_right .inl
  case h_8 =>
    obtain ⟨⟨p, behind⟩, hcount, heq⟩ := Option.map_eq_some_iff.mp h
    cases heq
    obtain ⟨rest, hrest, rfl⟩ := count_truncate hmore hcount
    rcases skip_append hmore f.extended rest with heq | ⟨-, hnil⟩
    · exact .inl ⟨lazy (skip f.extended rest), by simp [hrest], by rw [heq, lazy_append]⟩
    · rw [hnil]
      exact .inr (.inl List.nil_suffix)
  case h_9 =>
    obtain ⟨⟨x, behind⟩, hread, h⟩ := Option.bind_eq_some_iff.mp h
    rcases Escape.read_truncate hmore hread with ⟨rest, hrest, rfl⟩ | hover | ⟨rfl, hstuck⟩
    · rw [hrest]
      exact (tracks_give _ h).imp_right .inl
    · exact .inr (.inl ((shortens_give _ h).trans hover))
    · cases h
      exact .inr (.inr ⟨rfl, hstuck⟩)
  case h_10 => exact (tracks_give _ h).imp_right .inl
  case h_13 => exact (tracks_give _ h).imp_right .inl
  all_goals
    cases h
    exact .inl ⟨_, rfl, by simp only [lazy_append]⟩

theorem read_stuck (f : Flags) (hmore : '\n' ∉ more) (h : Escape.Stuck f.extended more cs) :
    Piece.read f (skip f.extended cs) = none := by
  obtain ⟨inner, rfl, hinner⟩ := h
  have hskip : skip f.extended ('\x7b' :: (inner ++ ')' :: more)) =
      '\x7b' :: (inner ++ ')' :: more) := by
    cases f.extended <;> rfl
  have hcount : count f.extended (inner ++ ')' :: more) = none := by
    refine Option.eq_none_iff_forall_ne_some.mpr ?_
    rintro ⟨p, left⟩ hsome
    obtain ⟨rest, hrest, -⟩ := count_truncate hmore hsome
    unfold count at hrest
    rw [hinner] at hrest
    cases hrest
  rw [hskip]
  unfold Piece.read
  simp only [hcount, Option.map_none]

end Piece

end Lexicon
