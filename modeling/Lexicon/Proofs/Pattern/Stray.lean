import Lexicon.Proofs.Declaration
import Lexicon.Proofs.Pattern.Anchoring
import Lexicon.Proofs.Pattern.Truncation.Piece

namespace Lexicon

open Text

namespace Piece

variable {f : Flags} {p : Piece} {cs left : List Char}

theorem ofRegex_ne_leave (r : Regex) : ofRegex r ≠ .leave := by
  cases r <;> exact Piece.noConfusion

theorem ne_leave_of_atom {o : Option Regex} {x : Piece × List Char}
    (h : (o.map ofRegex).map (·, cs) = some x) : x.1 ≠ .leave := by
  obtain ⟨p, hp, rfl⟩ := Option.map_eq_some_iff.mp h
  obtain ⟨r, -, rfl⟩ := Option.map_eq_some_iff.mp hp
  exact ofRegex_ne_leave r

theorem dot?_ne_leave : dot? f ≠ some .leave := by
  unfold dot?
  split
  · exact fun heq => ofRegex_ne_leave _ (Option.some.inj heq)
  · simp

theorem eq_of_read_leave [Regex.Engine] {c : Char}
    (h : Piece.read f (c :: cs) = some (.leave, left)) : c = ')' ∧ left = cs := by
  unfold Piece.read at h
  dsimp only at h
  split at h
  case h_1 => rcases group_shape h with ⟨g, captures, name, heq⟩ | ⟨g, heq⟩ <;> cases heq
  case h_2 =>
    cases h
    exact ⟨rfl, rfl⟩
  case h_4 =>
    obtain ⟨n, -, heq⟩ := Option.map_eq_some_iff.mp h
    cases heq
  case h_8 =>
    obtain ⟨⟨p, behind⟩, hcount, heq⟩ := Option.map_eq_some_iff.mp h
    cases heq
    obtain ⟨lo, hi, heq, -⟩ := count_shape hcount
    cases heq
  case h_9 =>
    obtain ⟨⟨a, behind⟩, -, h⟩ := Option.bind_eq_some_iff.mp h
    exact absurd rfl (ne_leave_of_atom h)
  case h_10 =>
    obtain ⟨p, hp, heq⟩ := Option.map_eq_some_iff.mp h
    cases heq
    exact absurd hp dot?_ne_leave
  case h_13 => exact absurd rfl (ne_leave_of_atom h)
  all_goals cases h

end Piece

namespace Draft

variable {d e : Draft} {p : Piece} {fuel : Nat} {cs tail rest : List Char}
  {base : List (Flags × Bool × Group)}

theorem length_below_inside (d : Draft) (base : List (Flags × Bool × Group)) :
    (d.inside base).below.length = d.below.length + base.length :=
  List.length_append

theorem push?_of_inside (h : d.push? p = none) (hinside : (d.inside base).push? p = some e) :
    p = .leave ∧ d.below = [] := by
  cases p with
  | single r depth size => cases h
  | setFlags f => cases h
  | enter f captures name =>
    rw [Draft.push?] at h hinside
    split at h
    · rename_i hname
      cases (if_pos hname).symm.trans hinside
    · cases h
  | leave =>
    rw [Draft.push?] at h
    split at h
    · rename_i hbelow
      exact ⟨rfl, hbelow⟩
    · cases h
  | bar => cases h
  | times lo hi =>
    rw [Draft.push?, Option.map_eq_none_iff] at h
    obtain ⟨g, hg, -⟩ := Option.map_eq_some_iff.mp hinside
    rw [inside, h] at hg
    cases hg

theorem length_below_le_of_push? (hp : p ≠ .leave) (h : d.push? p = some e) :
    d.below.length ≤ e.below.length := by
  cases p with
  | leave => exact absurd rfl hp
  | enter f captures name =>
    rw [Draft.push?] at h
    split at h <;> cases h
    exact Nat.le_succ _
  | times lo hi =>
    obtain ⟨g, -, rfl⟩ := Option.map_eq_some_iff.mp h
    exact Nat.le_refl _
  | _ =>
    cases h
    exact Nat.le_refl _

theorem length_below_of_push?_leave (h : d.push? .leave = some e) :
    d.below.length = e.below.length + 1 := by
  rw [Draft.push?] at h
  split at h <;> cases h
  rename_i hbelow
  rw [hbelow, List.length_cons]

variable [Regex.Engine]

/-- Does the text close a group that it has not opened? -/
def strays (d : Draft) : Nat → List Char → Bool
  | 0, _ => false
  | fuel + 1, cs =>
    match Piece.read d.flags (skip d.flags.extended cs) with
    | none => false
    | some (p, rest) =>
      match d.push? p, p with
      | some d, _ => d.strays fuel rest
      | none, .leave => true
      | none, _ => false

theorem read_of_strays (h : d.strays fuel cs) : d.read fuel cs = none := by
  induction fuel generalizing d cs with
  | zero => rfl
  | succ fuel ih =>
    refine Option.eq_none_iff_forall_ne_some.mpr fun e hread => ?_
    rw [strays] at h
    obtain ⟨hnil, -⟩ | ⟨p, rest, d', hp, hpush, hread⟩ := read_cases hread
    · rw [hnil] at h
      cases h
    · simp only [hp, hpush] at h
      rw [ih h] at hread
      cases hread

theorem read_congr {cs' : List Char}
    (h : skip d.flags.extended cs = skip d.flags.extended cs') :
    d.read (fuel + 1) cs = d.read (fuel + 1) cs' := by
  rw [read, read, h]

theorem length_below_le (h : d.read fuel cs = some e) :
    d.below.length ≤ e.below.length + cs.count ')' := by
  induction fuel generalizing d cs with
  | zero => cases h
  | succ fuel ih =>
    obtain ⟨-, rfl⟩ | ⟨p, rest, d', hp, hpush, hread⟩ := read_cases h
    · exact Nat.le_add_right _ _
    · have hd' := ih hread
      have hskip := (skip_suffix d.flags.extended cs).sublist.count_le ')'
      cases hcs : skip d.flags.extended cs with
      | nil =>
        rw [hcs] at hp
        cases hp
      | cons c here =>
        rw [hcs] at hp hskip
        by_cases hleave : p = .leave
        · subst hleave
          obtain ⟨rfl, rfl⟩ := Piece.eq_of_read_leave hp
          have hpushed := length_below_of_push?_leave hpush
          rw [List.count_cons_self] at hskip
          omega
        · have hpushed := length_below_le_of_push? hleave hpush
          have hrest := (Piece.shortens_read hp).sublist.count_le ')'
          rw [List.count_cons] at hskip
          omega

theorem length_below_le_of_over {d' : Draft} {f : Flags} {c : Char} (hparen : ')' ∉ tail)
    (hp : Piece.read f (c :: (cs ++ ')' :: tail)) = some (p, rest)) (hover : rest <:+ tail)
    (hpush : d.push? p = some d') (hread : d'.read fuel rest = some e) :
    d.below.length ≤ e.below.length := by
  have hne : p ≠ .leave := by
    rintro rfl
    obtain ⟨-, rfl⟩ := Piece.eq_of_read_leave hp
    have hlonger := hover.length_le
    simp only [List.length_append, List.length_cons] at hlonger
    omega
  have hnone : rest.count ')' = 0 := List.count_eq_zero.mpr fun h => hparen (hover.subset h)
  have hclosed := length_below_le hread
  rw [hnone] at hclosed
  exact (length_below_le_of_push? hne hpush).trans hclosed

theorem read_stuck (htail : '\n' ∉ tail) (h : Escape.Stuck d.flags.extended tail cs) :
    d.read fuel cs = none := by
  cases fuel with
  | zero => rfl
  | succ fuel =>
    refine Option.eq_none_iff_forall_ne_some.mpr fun e hread => ?_
    have hstuck := Piece.read_stuck d.flags htail h
    obtain ⟨hnil, -⟩ | ⟨p, rest, d', hp, -, -⟩ := read_cases hread
    · obtain ⟨inner, rfl, -⟩ := h
      revert hnil
      cases d.flags.extended <;> exact List.cons_ne_nil _ _
    · rw [hstuck] at hp
      cases hp

/-- What is read inside of further groups, of which one is closed behind the text, is read of the
text on its own, or the text closes one of these groups itself. -/
theorem exists_read_alone {more : Nat} (hparen : ')' ∉ tail) (htail : '\n' ∉ tail)
    (h : (d.inside base).read (fuel + more) (cs ++ ')' :: tail) = some e)
    (hbelow : e.below.length < base.length) (hfuel : cs.length < fuel) :
    (∃ e' left, more ≤ left ∧ d.read fuel cs = some e' ∧
      (e'.inside base).read left (')' :: tail) = some e) ∨ d.strays fuel cs := by
  induction fuel generalizing d cs with
  | zero => exact absurd hfuel (Nat.not_lt_zero _)
  | succ fuel ih =>
    rw [Nat.add_right_comm] at h
    have hlength := (skip_suffix d.flags.extended cs).length_le
    rcases skip_append htail d.flags.extended cs with hskip | ⟨-, hnil⟩
    · cases hcs : skip d.flags.extended cs with
      | nil =>
        -- The text is at its end, and all fuel that is left goes to the parenthesis.
        refine .inl ⟨d, fuel + more + 1, by omega, by rw [read, hcs], ?_⟩
        have hclose : skip d.flags.extended (')' :: tail) = ')' :: tail := by
          cases d.flags.extended <;> rfl
        rw [hcs] at hskip
        have hsame : skip d.flags.extended (')' :: tail) =
            skip d.flags.extended (cs ++ ')' :: tail) := hclose.trans hskip.symm
        exact (read_congr (d := d.inside base) hsame).trans h
      | cons c here =>
        rw [hcs, List.length_cons] at hlength
        rw [hcs] at hskip
        obtain ⟨hnil, -⟩ | ⟨p, rest, d', hp, hpush, hread⟩ := read_cases h
        · rw [inside, hskip] at hnil
          cases hnil
        rw [inside, hskip, List.cons_append] at hp
        rcases Piece.read_truncate htail hp with ⟨rest', hrest, rfl⟩ | hover | ⟨rfl, hstuck⟩
        · rw [read, strays, hcs]
          simp only [hrest, Option.bind_eq_bind, Option.bind_some]
          cases halone : d.push? p with
          | none =>
            obtain ⟨rfl, -⟩ := push?_of_inside halone hpush
            exact .inr rfl
          | some d₁ =>
            rw [push?_inside halone] at hpush
            cases hpush
            have hshorter := (Piece.shortens_read hrest).length_le
            exact ih hread (by omega)
        · have hopen := length_below_le_of_over hparen hp hover hpush hread
          rw [length_below_inside] at hopen
          omega
        · have hflags : d'.flags = d.flags := by
            cases hpush
            rfl
          rw [← hflags] at hstuck
          rw [read_stuck htail hstuck] at hread
          cases hread
    · -- The parenthesis is part of a comment, so that no group is closed any more.
      obtain ⟨-, rfl⟩ | ⟨p, rest, d', hp, -, -⟩ := read_cases h
      · rw [length_below_inside] at hbelow
        omega
      · rw [inside, hnil] at hp
        cases hp

end Draft

namespace Pattern

section

variable [Regex.Engine]

def Strays (source : List Char) : Prop := Draft.strays {} (source.length + 1) source

instance (source : List Char) : Decidable (Strays source) :=
  inferInstanceAs (Decidable (_ = true))

variable {source : List Char} {i : Item}

theorem read?_of_strays (h : Strays source) : Regex.read? source = none := by
  rw [Regex.read?_eq, Regex.item?, Draft.read_of_strays h]
  rfl

theorem below_eq_nil_of_read {d e : Draft} {left : Nat}
    (h : (d.inside outer).read left ")\\z".toList = some e) (he : e.below = []) :
    d.below = [] := by
  have hclosed := Draft.length_below_le h
  have hcount : ")\\z".toList.count ')' = 1 := by decide
  rw [he, hcount, Draft.length_below_inside] at hclosed
  refine List.eq_nil_of_length_eq_zero ?_
  simpa [outer] using hclosed

theorem item?_of_anchored (h : Regex.item? (anchored source) = some i) (hs : ¬ Strays source) :
    ∃ j, Regex.item? source = some j ∧ i = between j := by
  obtain ⟨e, hread, hfinish⟩ := Option.bind_eq_some_iff.mp h
  obtain ⟨he, rfl⟩ := Draft.finish?_eq_some_iff.mp hfinish
  rw [read_anchored] at hread
  have hopen : e.below.length < outer.length := by
    rw [he]
    exact Nat.one_pos
  rcases Draft.exists_read_alone (by decide) (by decide) hread hopen (Nat.lt_succ_self _) with
    ⟨d, left, hleft, halone, hclosing⟩ | hstrays
  · have hbelow := below_eq_nil_of_read hclosing he
    cases (read_closing hbelow hleft).symm.trans hclosing
    refine ⟨d.top.close, ?_, close_closed _⟩
    rw [Regex.item?, halone]
    exact Draft.finish?_eq_some_iff.mpr ⟨hbelow, rfl⟩
  · exact absurd hstrays hs

/-- What is put around a text does not bring its automaton back within the limit. -/
def Grows (source : List Char) : Prop := ∀ i, Regex.item? source = some i →
  Regex.Engine.fits (anchored source) (i.size + 64) → Regex.Engine.fits source i.size

theorem compile?_eq_none {source : String} (hsize : Grows source.toList)
    (h : Regex.read? source.toList = none) (hs : ¬ Strays source.toList) :
    compile? source = none := by
  rw [compile?, Option.map_eq_none_iff, Regex.read?_eq]
  cases hi : Regex.item? (anchored source.toList) with
  | none => rfl
  | some i =>
    obtain ⟨j, hj, rfl⟩ := item?_of_anchored hi hs
    rw [Regex.read?_eq, hj, Option.bind_some] at h
    have hroom : ¬ (j.depth ≤ Regex.maxDepth ∧ Regex.Engine.fits source.toList j.size) := by
      intro hroom
      rw [if_pos hroom] at h
      cases h
    rw [Option.bind_some]
    refine if_neg fun hwithin => hroom ⟨?_, hsize j hj hwithin.2⟩
    exact (Nat.le_add_right _ _).trans hwithin.1

/-- A text that closes the group around it is no pattern on its own. Of the other texts those that
are none are refused, and so is any declaration that has one of them among its patterns. -/
theorem refused_unless_strays (source : String) (hsize : Grows source.toList) :
    (Strays source.toList → Regex.read? source.toList = none) ∧
    (¬ Strays source.toList → Regex.read? source.toList = none →
      compile? source = none ∧
      ∀ name clauses, (∃ c ∈ Language.declared clauses, source ∈ c.2) →
        ∃ fault, Language.build name clauses = .error fault) := by
  refine ⟨read?_of_strays, fun hs h => ?_⟩
  have hrefused := compile?_eq_none hsize h hs
  refine ⟨hrefused, fun name clauses ⟨c, hc, hsource⟩ => ?_⟩
  refine Language.exists_fault_of_not_wellFormed (fun hw => ?_) name
  have hcompiled := (hw.sound c hc).2 source hsource
  rw [hrefused] at hcompiled
  cases hcompiled

end

theorem grows (source : List Char) : Grows source := by
  intro i _ h
  simp only [Regex.Engine.fits, decide_eq_true_eq] at h ⊢
  omega

theorem unclosed_refused :
    Grows "b(a".toList ∧ Regex.read? "b(a".toList = none ∧ ¬ Strays "b(a".toList ∧
      compile? "b(a" = none ∧
      ∃ fault, Language.build "words"
        [.category "word" ["[a-z]+", "'\\w+"], .wrongCategory "rest" ["b(a", "b"]] =
          .error fault := by
  have hsize := grows "b(a".toList
  have hnone : Regex.read? "b(a".toList = none := by decide +kernel
  have hstays : ¬ Strays "b(a".toList := by decide +kernel
  obtain ⟨hrefused, hbuild⟩ := (refused_unless_strays "b(a" hsize).2 hstays hnone
  exact ⟨hsize, hnone, hstays, hrefused,
    hbuild _ _ ⟨("rest", ["b(a", "b"]), by decide, by decide⟩⟩

/-- The first parenthesis closes the group around the text, and the group that the text leaves open
takes the parenthesis behind it. -/
theorem stray_accepted : Regex.read? "a)|(?:b".toList = none ∧ (compile? "a)|(?:b").isSome ∧
    ∃ l, Language.build "words" [.category "word" ["a)|(?:b"]] = .ok l := by
  have hbuilt : (Language.build "words" [.category "word" ["a)|(?:b"]]).isOk := by decide +kernel
  refine ⟨by decide +kernel, by decide +kernel, ?_⟩
  cases hl : Language.build "words" [.category "word" ["a)|(?:b"]] with
  | ok l => exact ⟨l, rfl⟩
  | error fault =>
    rw [hl] at hbuilt
    cases hbuilt

end Pattern

end Lexicon
