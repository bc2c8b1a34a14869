import Lexicon.Proofs.Pattern.Truncation.Escape

namespace Lexicon

open Text

variable {more cs left : List Char} {extended : Bool}

namespace Bracket

theorem shortens_body : Shortens namedSet?.body := by
  intro cs s left h
  obtain ⟨hdrop, -⟩ := body_eq_some_iff.mp h
  have hsuffix := hdrop ▸ List.dropWhile_suffix (l := cs) (· ≠ ':')
  exact (List.suffix_append [':', ']'] left).trans hsuffix

theorem tracks_body : Tracks more namedSet?.body := by
  intro cs s left h
  obtain ⟨hdrop, hs⟩ := body_eq_some_iff.mp h
  rcases dropWhile_append_cases (by decide) hdrop with ⟨rest, hrest, heq⟩ | hleft
  · obtain ⟨rest', rfl, rfl⟩ := eq_cons_of_append_eq heq.symm (by decide)
    rw [(takeWhile_dropWhile_append hrest _).1] at hs
    exact .inl ⟨rest', body_eq_some_iff.mpr ⟨hrest, hs⟩, rfl⟩
  · exact .inr ((List.suffix_append [':', ']'] left).trans hleft)

theorem shortens_namedSet? : Shortens namedSet? := by
  intro cs s left h
  unfold namedSet? at h
  split at h
  · exact (shortens_body.map (true, ·) h).trans (List.suffix_append [':', '^'] _)
  · exact (shortens_body.map (false, ·) h).trans (List.suffix_cons ':' _)
  · cases h

theorem tracks_namedSet? : Tracks more namedSet? := by
  intro cs s left h
  unfold namedSet? at h
  split at h
  · rename_i heq
    obtain ⟨rest, rfl, rfl⟩ := eq_cons_cons_of_append_eq heq (by decide) (by decide)
    exact tracks_body.map (true, ·) h
  · rename_i hcaret heq
    obtain ⟨rest, rfl, rfl⟩ := eq_cons_of_append_eq heq (by decide)
    rw [namedSet?]
    · exact tracks_body.map (false, ·) h
    · rintro rest' rfl
      exact hcaret _ rfl
  · cases h

theorem first_suffix (negated : Bool) (cs : List Char) : (first extended negated cs).2 <:+ cs := by
  have hspelled := spelled_suffix extended (· == '-') false cs
  unfold first
  split <;> rename_i heq <;> rw [heq] at hspelled
  · exact (List.suffix_cons _ _).trans hspelled
  · exact hspelled

theorem enterHere_suffix (cs : List Char) : (enterHere extended cs).2 <:+ cs := by
  unfold enterHere
  split
  · exact (first_suffix true _).trans (List.suffix_cons _ _)
  · exact first_suffix false _

theorem enter_suffix (cs : List Char) : (enter extended cs).2 <:+ cs :=
  (enterHere_suffix _).trans (skip_suffix extended cs)

theorem first_append (hmore : '\n' ∉ more) (negated : Bool) (cs : List Char) :
    first extended negated (cs ++ ')' :: more) =
        ((first extended negated cs).1, (first extended negated cs).2 ++ ')' :: more) ∨
      (first extended negated (cs ++ ')' :: more)).2 = [] := by
  rcases spelled_append extended (p := (· == '-')) (by decide) hmore false cs with
    heq | ⟨-, hnil⟩
  · exact .inl (first_append_of_spelled heq)
  · refine .inr ?_
    unfold first
    rw [hnil]
    split <;> rename_i heq
    · cases (Prod.mk.inj heq).2
    · exact (Prod.mk.inj heq).2.symm

theorem enter_append (extended : Bool) (hmore : '\n' ∉ more) (cs : List Char) :
    enter extended (cs ++ ')' :: more) =
        ((enter extended cs).1, (enter extended cs).2 ++ ')' :: more) ∨
      (enter extended (cs ++ ')' :: more)).2 = [] := by
  unfold enter
  rcases skip_append hmore extended cs with heq | ⟨-, hnil⟩
  · rw [heq]
    generalize skip extended cs = here
    cases here with
    | nil => exact first_append hmore false []
    | cons c here =>
      by_cases hc : c = '^'
      · subst hc
        exact first_append hmore true here
      · simpa [enterHere, hc] using first_append hmore false (c :: here)
  · rw [hnil]
    exact .inr rfl

theorem shortens_atom {x : Atom} {c : Char} (h : atom extended (c :: cs) = some (x, left)) :
    left <:+ cs := by
  unfold atom at h
  split at h
  · contradiction
  · rename_i heq
    cases heq
    cases cs with
    | nil => cases h
    | cons d cs => exact (Escape.shortens_read h).trans (List.suffix_cons d cs)
  · rename_i heq
    cases heq
    cases h
    exact List.suffix_rfl

theorem atom_suffix (extended : Bool) : Shortens (atom extended) := by
  intro cs x left h
  cases cs with
  | nil => cases h
  | cons c cs => exact (shortens_atom h).trans (List.suffix_cons c cs)

theorem atom_truncate {x : Atom} (hmore : '\n' ∉ more)
    (h : atom extended (cs ++ ')' :: more) = some (x, left)) :
    (∃ rest, atom extended cs = some (x, rest) ∧ left = rest ++ ')' :: more) ∨
      left <:+ more ∨ x = .look .wordEdge := by
  cases cs with
  | nil => exact .inr (.inl (shortens_atom h))
  | cons c cs =>
    rw [List.cons_append] at h
    unfold atom at h
    split at h
    · contradiction
    · rename_i heq
      cases heq
      exact (Escape.read_truncate hmore h).imp_right (.imp_right And.left)
    · rename_i heq
      cases heq
      cases h
      rename_i hslash
      refine .inl ⟨cs, ?_, rfl⟩
      rw [atom]
      exact fun heq => hslash heq

variable {f : Flags}

theorem shortens_inner : Shortens (inner f) := by
  intro cs p left h
  unfold inner at h
  split at h
  · rename_i hset
    exact (shortens_give _ h).trans (shortens_namedSet? hset)
  · cases h
    exact enter_suffix cs

theorem tracks_inner (hmore : '\n' ∉ more) : Tracks more (inner f) := by
  intro cs p left h
  unfold inner at h ⊢
  split at h
  · rename_i hset
    rcases tracks_namedSet? hset with ⟨rest, hrest, rfl⟩ | hover
    · rw [hrest]
      exact tracks_give _ h
    · exact .inr ((shortens_give _ h).trans hover)
  · rename_i hset
    have hnone : namedSet? cs = none := by
      refine Option.eq_none_iff_forall_ne_some.mpr ?_
      rintro ⟨s, rest⟩ hsome
      rw [steady_namedSet? hsome] at hset
      cases hset
    rw [hnone]
    cases h
    rcases enter_append f.extended hmore cs with heq | hnil
    · rw [heq]
      exact .inl ⟨_, rfl, rfl⟩
    · rw [hnil]
      exact .inr List.nil_suffix

theorem range?_look (first : Atom) (l : Look) : first.range? f (.look l) = none := by
  cases first <;> rfl

variable [Regex.Engine]

theorem shortens_upTo (first : Atom) : Shortens (upTo f first) := by
  intro cs s left h
  unfold upTo at h
  split at h
  · rename_i behind
    split at h
    · exact shortens_give _ h
    · have hleft := ((atom_suffix f.extended).bind
        fun last => shortens_give (first.range? f last)) h
      exact hleft.trans ((skip_suffix _ behind).trans (List.suffix_cons _ _))
  · exact shortens_give _ h

theorem tracks_upTo (hmore : '\n' ∉ more) (first : Atom) : Tracks more (upTo f first) := by
  intro cs s left h
  by_cases hdash : ∃ behind, cs = '-' :: behind
  · obtain ⟨behind, rfl⟩ := hdash
    rw [List.cons_append, upTo, hyphenAlone_append] at h
    rw [upTo]
    split at h
    · rename_i halone
      rw [if_pos halone]
      exact tracks_give _ h
    · rename_i hrange
      rw [if_neg hrange]
      rcases skip_append hmore f.extended behind with heq | ⟨-, hnil⟩
      · rw [heq] at h
        obtain ⟨⟨last, rest⟩, hlast, h⟩ := Option.bind_eq_some_iff.mp h
        rcases atom_truncate hmore hlast with ⟨rest', hrest, rfl⟩ | hover | rfl
        · rw [hrest]
          exact tracks_give _ h
        · exact .inr ((shortens_give _ h).trans hover)
        · dsimp only at h
          rw [range?_look] at h
          cases h
      · rw [hnil] at h
        cases h
  · have hne := not_exists.mp hdash
    rw [upTo_of_ne (append_ne_cons (fun rest heq => hne rest heq) (by decide) _)] at h
    rw [upTo_of_ne hne]
    exact tracks_give _ h

theorem upTo_look (l : Look) (cs : List Char) : upTo f (.look l) cs = none := by
  unfold upTo
  split
  · split
    · rfl
    · generalize atom _ _ = read
      cases read <;> rfl
  · rfl

theorem shortens_range {s : CharSet} {c : Char} (h : range f (c :: cs) = some (s, left)) :
    left <:+ cs := by
  obtain ⟨⟨first, rest⟩, hfirst, h⟩ := Option.bind_eq_some_iff.mp h
  exact (shortens_upTo first h).trans ((skip_suffix _ rest).trans (shortens_atom hfirst))

theorem tracks_range (hmore : '\n' ∉ more) : Tracks more (range f) := by
  intro cs s left h
  obtain ⟨⟨first, rest⟩, hfirst, h⟩ := Option.bind_eq_some_iff.mp h
  unfold range
  rcases atom_truncate hmore hfirst with ⟨rest', hrest, rfl⟩ | hover | rfl
  · rw [hrest]
    exact (tracks_upTo hmore first).skip (shortens_upTo first) hmore f.extended h
  · exact .inr ((shortens_upTo first h).trans ((skip_suffix _ rest).trans hover))
  · dsimp only at h
    rw [upTo_look] at h
    cases h

theorem shortens_part {p : Part} {c : Char} (h : part f (c :: cs) = some (p, left)) :
    left <:+ cs := by
  unfold part at h
  split at h <;> rename_i heq
  · cases heq
    exact shortens_inner h
  · cases heq
    cases h
    exact List.suffix_rfl
  · cases heq
    cases h
    exact List.suffix_cons _ _
  · cases heq
    cases h
    exact List.suffix_cons _ _
  · cases heq
    cases h
    exact List.suffix_cons _ _
  · obtain ⟨⟨s, rest⟩, hrange, heq⟩ := Option.map_eq_some_iff.mp h
    cases heq
    exact shortens_range hrange

theorem part_suffix : Shortens (part f) := by
  intro cs p left h
  cases cs with
  | nil => cases h
  | cons c cs => exact (shortens_part h).trans (List.suffix_cons c cs)

theorem tracks_part (hmore : '\n' ∉ more) : Tracks more (part f) := by
  intro cs p left h
  cases cs with
  | nil => exact .inr (shortens_part h)
  | cons c cs =>
    unfold part at h
    split at h
    case h_1 heq =>
      cases heq
      exact tracks_inner hmore h
    case h_2 heq =>
      cases heq
      cases h
      exact .inl ⟨cs, rfl, rfl⟩
    case h_6 hopen hclose hinter hdiff hsymm =>
      rw [part]
      · exact (tracks_range hmore).map Part.set h
      · rintro rest heq
        exact hopen (rest ++ ')' :: more) (by rw [heq]; rfl)
      · rintro rest heq
        exact hclose (rest ++ ')' :: more) (by rw [heq]; rfl)
      · rintro rest heq
        exact hinter (rest ++ ')' :: more) (by rw [heq]; rfl)
      · rintro rest heq
        exact hdiff (rest ++ ')' :: more) (by rw [heq]; rfl)
      · rintro rest heq
        exact hsymm (rest ++ ')' :: more) (by rw [heq]; rfl)
    all_goals
      rename_i heq
      obtain ⟨rest, hrest, rfl⟩ := eq_cons_cons_of_append_eq heq (by decide) (by decide)
      cases hrest
      cases h
      exact .inl ⟨rest, rfl, rfl⟩

theorem length_lt_of_part {p : Part} (h : part f cs = some (p, left)) :
    left.length < cs.length := by
  cases cs with
  | nil => cases h
  | cons c cs => exact Nat.lt_succ_of_le (shortens_part h).length_le

variable {fuel fuel' : Nat} {top : Level} {below : List Level} {n : Nested}

theorem shortens_levels : Shortens (levels f fuel top below) := by
  induction fuel generalizing top below with
  | zero =>
    intro cs n left h
    cases h
  | succ fuel ih =>
    intro cs n left h
    obtain ⟨p, rest, hp, hpush⟩ := levels_succ_eq_some_iff.mp h
    have hrest := (part_suffix hp).trans (skip_suffix f.extended cs)
    rcases hpush with ⟨-, rfl⟩ | ⟨top', below', -, h⟩
    · exact hrest
    · exact (ih h).trans hrest

/-- The brackets of the text alone have less fuel, but enough of it. -/
theorem levels_truncate (hmore : '\n' ∉ more)
    (h : levels f fuel' top below (cs ++ ')' :: more) = some (n, left))
    (hfuel : cs.length < fuel) :
    (∃ rest, levels f fuel top below cs = some (n, rest) ∧ left = rest ++ ')' :: more) ∨
      left <:+ more := by
  induction fuel' generalizing fuel top below cs with
  | zero => cases h
  | succ fuel' ih =>
    obtain ⟨fuel, rfl⟩ : ∃ k, fuel = k + 1 := ⟨fuel - 1, by omega⟩
    obtain ⟨p, behind, hp, hpush⟩ := levels_succ_eq_some_iff.mp h
    rcases skip_append hmore f.extended cs with heq | ⟨-, hnil⟩
    · rw [heq] at hp
      rcases tracks_part hmore hp with ⟨rest, hrest, rfl⟩ | hover
      · have hlength := (length_lt_of_part hrest).trans_le (skip_suffix f.extended cs).length_le
        rcases hpush with ⟨hpush, rfl⟩ | ⟨top', below', hpush, h⟩
        · exact .inl ⟨rest, levels_succ_eq_some_iff.mpr ⟨p, rest, hrest, .inl ⟨hpush, rfl⟩⟩, rfl⟩
        · refine (ih h (by omega : rest.length < fuel)).imp_left ?_
          rintro ⟨rest', hlevels, rfl⟩
          exact ⟨rest', levels_succ_eq_some_iff.mpr
            ⟨p, rest, hrest, .inr ⟨top', below', hpush, hlevels⟩⟩, rfl⟩
      · rcases hpush with ⟨-, rfl⟩ | ⟨top', below', -, h⟩
        · exact .inr hover
        · exact .inr ((shortens_levels h).trans hover)
    · rw [hnil] at hp
      cases hp

theorem shortens_read (f : Flags) : Shortens (Bracket.read f) := fun cs _ _ h =>
  (shortens_levels h).trans (enter_suffix cs)

theorem tracks_read (hmore : '\n' ∉ more) (f : Flags) : Tracks more (Bracket.read f) := by
  intro cs n left h
  unfold Bracket.read at h ⊢
  rcases enter_append f.extended hmore cs with heq | hnil
  · rw [heq] at h
    exact levels_truncate hmore h (Nat.lt_succ_of_le (enter_suffix cs).length_le)
  · have hleft := shortens_levels h
    rw [hnil] at hleft
    exact .inr (hleft.trans List.nil_suffix)

end Bracket

end Lexicon
