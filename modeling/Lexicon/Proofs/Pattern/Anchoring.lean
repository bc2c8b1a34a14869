import Lexicon.Pattern
import Lexicon.Pattern.Unicode
import Lexicon.Proofs.Pattern.Meaning
import Lexicon.Proofs.Pattern.Reading

namespace Lexicon

namespace Piece

def Proper : Piece → Prop
  | single r _ _ => r.Proper
  | times lo hi => ∀ m ∈ hi, lo ≤ m
  | _ => True

variable {f : Flags} {p : Piece} {cs rest : List Char}

theorem proper_ofRegex {r : Regex} (h : r.Proper) : (ofRegex r).Proper := by
  cases r <;> exact h

theorem proper_of_dot? (h : dot? f = some p) : p.Proper := by
  unfold dot? at h
  split at h <;> cases h
  exact proper_ofRegex trivial

theorem group_shape (h : group f cs = some (p, rest)) :
    (∃ g captures name, p = .enter g captures name) ∨ ∃ g, p = .setFlags g := by
  have hnamed : ∀ {cs}, namedGroup f cs = some (p, rest) →
      ∃ g captures name, p = .enter g captures name := by
    intro cs h
    unfold namedGroup at h
    dsimp only at h
    split at h
    · cases h
    · split at h <;> cases h
      exact ⟨_, _, _, rfl⟩
  unfold group groupHere at h
  split at h
  · cases h
  · cases h
  · exact .inl (hnamed h)
  · exact .inl (hnamed h)
  · obtain ⟨⟨g, given, last, behind⟩, -, h⟩ := Option.bind_eq_some_iff.mp h
    obtain ⟨p, hflags, heq⟩ := Option.map_eq_some_iff.mp h
    cases heq
    unfold ofFlags at hflags
    split at hflags
    · cases hflags
      exact .inl ⟨_, _, _, rfl⟩
    · split at hflags <;> cases hflags
      exact .inr ⟨_, rfl⟩
  · cases h
    exact .inl ⟨_, _, _, rfl⟩

theorem count_shape {extended : Bool} (h : count extended cs = some (p, rest)) :
    ∃ lo hi, p = .times lo hi ∧ ∀ m ∈ hi, lo ≤ m := by
  unfold count at h
  split at h
  · cases h
    exact ⟨_, _, rfl, by simp⟩
  · unfold upTo at h
    split at h
    · cases h
      exact ⟨_, _, rfl, by simp⟩
    · split at h
      · split at h <;> cases h
        exact ⟨_, _, rfl, by simpa⟩
      · cases h
  · cases h

theorem proper_group (h : group f cs = some (p, rest)) : p.Proper := by
  rcases group_shape h with ⟨g, captures, name, rfl⟩ | ⟨g, rfl⟩ <;> trivial

theorem proper_count {extended : Bool} (h : count extended cs = some (p, rest)) : p.Proper := by
  obtain ⟨lo, hi, rfl, hle⟩ := count_shape h
  exact hle

variable [Regex.Engine]

theorem proper_of_regex? {a : Atom} {r : Regex} (h : a.regex? f = some r) : r.Proper := by
  unfold Atom.regex? at h
  split at h
  · cases h
    trivial
  · split at h <;> cases h
    trivial
  · cases h
    trivial
  · obtain ⟨s, -, rfl⟩ := Option.map_eq_some_iff.mp h
    trivial

theorem proper_atom {a : Atom} (h : ((a.regex? f).map ofRegex).map (·, cs) = some (p, rest)) :
    p.Proper := by
  obtain ⟨p, hp, heq⟩ := Option.map_eq_some_iff.mp h
  obtain ⟨r, hr, rfl⟩ := Option.map_eq_some_iff.mp hp
  cases heq
  exact proper_ofRegex (proper_of_regex? hr)

theorem proper_read (h : Piece.read f cs = some (p, rest)) : p.Proper := by
  cases cs with
  | nil => cases h
  | cons c cs =>
    unfold Piece.read at h
    dsimp only at h
    split at h
    case h_1 => exact proper_group h
    case h_4 =>
      obtain ⟨x, -, heq⟩ := Option.map_eq_some_iff.mp h
      cases heq
      trivial
    case h_8 =>
      obtain ⟨⟨p, behind⟩, hcount, heq⟩ := Option.map_eq_some_iff.mp h
      cases heq
      exact proper_count hcount
    case h_9 =>
      obtain ⟨⟨a, behind⟩, -, h⟩ := Option.bind_eq_some_iff.mp h
      exact proper_atom h
    case h_10 =>
      obtain ⟨p, hp, heq⟩ := Option.map_eq_some_iff.mp h
      cases heq
      exact proper_of_dot? hp
    case h_13 => exact proper_atom h
    all_goals
      cases h
      simp [Proper, Regex.Proper, ofRegex]

end Piece

namespace Regex

theorem proper_concat {l : List Regex} (h : ∀ r ∈ l, r.Proper) : (concat l).Proper := by
  match l with
  | [] => trivial
  | [r] => exact h r (by simp)
  | r :: s :: l =>
    exact ⟨h r (by simp), proper_concat fun q hq => h q (List.mem_cons_of_mem r hq)⟩

theorem proper_choice {l : List Regex} (h : ∀ r ∈ l, r.Proper) : (choice l).Proper := by
  match l with
  | [] => trivial
  | [r] => exact h r (by simp)
  | r :: s :: l =>
    exact ⟨h r (by simp), proper_choice fun q hq => h q (List.mem_cons_of_mem r hq)⟩

end Regex

namespace Group

def Proper (g : Group) : Prop :=
  (∀ i ∈ g.done, i.regex.Proper) ∧ ∀ i ∈ g.items, i.regex.Proper

variable {g : Group}

theorem Proper.add (h : g.Proper) {i : Item} (hi : i.regex.Proper) : (g.add i).Proper :=
  ⟨h.1, by simpa [Group.add] using ⟨hi, h.2⟩⟩

theorem Proper.bar (h : g.Proper) : g.bar.Proper := by
  refine ⟨?_, by simp [Group.bar]⟩
  simp only [Group.bar, Item.join, List.mem_cons, forall_eq_or_imp]
  exact ⟨Regex.proper_concat (by simpa using h.2), h.1⟩

theorem Proper.close (h : g.Proper) : g.close.regex.Proper :=
  Regex.proper_choice (by simpa using h.bar.1)

theorem Proper.times {lo : Nat} {hi : Option Nat} {g' : Group} (h : g.Proper)
    (hle : ∀ m ∈ hi, lo ≤ m) (hg : g.times lo hi = some g') : g'.Proper := by
  unfold Group.times at hg
  split at hg
  · cases hg
  · rename_i i rest hitems
    split at hg <;> cases hg
    have hproper := h.2
    rw [hitems, List.forall_mem_cons] at hproper
    exact ⟨h.1, List.forall_mem_cons.mpr ⟨⟨hproper.1, hle⟩, hproper.2⟩⟩

end Group

namespace Draft

def Proper (d : Draft) : Prop := d.top.Proper ∧ ∀ l ∈ d.below, l.2.2.Proper

def inside (d : Draft) (base : List (Flags × Bool × Group)) : Draft :=
  { d with below := d.below ++ base }

variable {d e : Draft} {p : Piece} {fuel : Nat} {cs tail : List Char}
  {base : List (Flags × Bool × Group)}

theorem Proper.push? (h : d.Proper) (hp : p.Proper) (hpush : d.push? p = some e) : e.Proper := by
  cases p with
  | single r depth size =>
    cases hpush
    exact ⟨h.1.add hp, h.2⟩
  | setFlags f =>
    cases hpush
    exact ⟨h.1.add trivial, h.2⟩
  | enter f captures name =>
    rw [Draft.push?] at hpush
    split at hpush <;> cases hpush
    exact ⟨⟨by simp, by simp⟩, List.forall_mem_cons.mpr h⟩
  | leave =>
    rw [Draft.push?] at hpush
    split at hpush <;> cases hpush
    rename_i f captures g below hbelow
    have hproper := h.2
    rw [hbelow, List.forall_mem_cons] at hproper
    exact ⟨hproper.1.add h.1.close, hproper.2⟩
  | bar =>
    cases hpush
    exact ⟨h.1.bar, h.2⟩
  | times lo hi =>
    obtain ⟨g, hg, rfl⟩ := Option.map_eq_some_iff.mp hpush
    exact ⟨h.1.times hp hg, h.2⟩

theorem push?_inside (h : d.push? p = some e) : (d.inside base).push? p = some (e.inside base) := by
  cases p with
  | single r depth size =>
    cases h
    rfl
  | setFlags f =>
    cases h
    rfl
  | enter f captures name =>
    rw [Draft.push?] at h ⊢
    split at h <;> cases h
    rename_i hname
    exact if_neg hname
  | leave =>
    rw [Draft.push?] at h ⊢
    split at h <;> cases h
    rename_i hbelow
    simp [inside, hbelow]
  | bar =>
    cases h
    rfl
  | times lo hi =>
    obtain ⟨g, hg, rfl⟩ := Option.map_eq_some_iff.mp h
    simp [Draft.push?, inside, hg]

theorem finish?_eq_some_iff {i : Item} : d.finish? = some i ↔ d.below = [] ∧ d.top.close = i := by
  simp [finish?, List.isEmpty_iff]

variable [Regex.Engine]

theorem read_succ {rest : List Char} (hp : Piece.read d.flags (skip d.flags.extended cs) =
    some (p, rest)) (hpush : d.push? p = some e) : d.read (fuel + 1) cs = e.read fuel rest := by
  rw [read]
  cases hcs : skip d.flags.extended cs with
  | nil =>
    rw [hcs] at hp
    cases hp
  | cons c cs =>
    rw [hcs] at hp
    simp [hp, hpush]

theorem read_cases (h : d.read (fuel + 1) cs = some e) :
    (skip d.flags.extended cs = [] ∧ d = e) ∨
      ∃ p rest d', Piece.read d.flags (skip d.flags.extended cs) = some (p, rest) ∧
        d.push? p = some d' ∧ d'.read fuel rest = some e := by
  rw [read] at h
  cases hcs : skip d.flags.extended cs with
  | nil =>
    rw [hcs] at h
    cases h
    exact .inl ⟨rfl, rfl⟩
  | cons c cs =>
    simp only [hcs, Option.bind_eq_bind, Option.bind_eq_some_iff] at h
    obtain ⟨⟨p, rest⟩, hp, d', hpush, hread⟩ := h
    exact .inr ⟨p, rest, d', hp, hpush, hread⟩

theorem Proper.read (h : d.Proper) (hread : d.read fuel cs = some e) : e.Proper := by
  induction fuel generalizing d cs with
  | zero => cases hread
  | succ fuel ih =>
    obtain ⟨-, rfl⟩ | ⟨p, rest, d', hp, hpush, hread⟩ := read_cases hread
    · exact h
    · exact ih (h.push? (Piece.proper_read hp) hpush) hread

def flagsAlong (d : Draft) : Nat → List Char → List Flags
  | 0, _ => []
  | fuel + 1, cs =>
    d.flags :: match Piece.read d.flags (skip d.flags.extended cs) with
      | none => []
      | some (p, rest) =>
        match d.push? p with
        | none => []
        | some d => d.flagsAlong fuel rest

/-- What is read of a text on its own is read of it inside of further groups, up to the parenthesis
that closes the innermost of these. -/
theorem exists_read_inside (htail : ':' ∉ tail) (h : d.read fuel cs = some e)
    (hflags : ∀ f ∈ d.flagsAlong fuel cs, f.extended = false) (base : List (Flags × Bool × Group))
    (more : Nat) :
    ∃ left, more ≤ left ∧ (d.inside base).read (fuel + more) (cs ++ ')' :: tail) =
      (e.inside base).read left (')' :: tail) := by
  induction fuel generalizing d cs with
  | zero => cases h
  | succ fuel ih =>
    rw [flagsAlong, List.forall_mem_cons] at hflags
    obtain ⟨hd, hflags⟩ := hflags
    obtain ⟨hcs, rfl⟩ | ⟨p, rest, d', hp, hpush, hread⟩ := read_cases h
    · -- The text is at its end, and all fuel that is left goes to the parenthesis.
      obtain rfl : cs = [] := by rwa [hd] at hcs
      exact ⟨fuel + 1 + more, Nat.le_add_left _ _, rfl⟩
    · simp only [hp, hpush] at hflags
      obtain ⟨left, hleft, hrest⟩ := ih hread hflags
      rw [hd, skip_false] at hp
      have hp' : Piece.read (d.inside base).flags
          (skip (d.inside base).flags.extended (cs ++ ')' :: tail)) =
            some (p, rest ++ ')' :: tail) := by
        rw [inside, hd, skip_false]
        exact Piece.steady_read htail hd hp
      refine ⟨left, hleft, ?_⟩
      rw [Nat.add_right_comm, read_succ hp' (push?_inside hpush), hrest]

end Draft

namespace Regex

variable [Engine]

theorem read?_eq (text : List Char) : read? text = (item? text).bind fun i =>
    if i.depth ≤ maxDepth ∧ Engine.fits text i.size then some i.regex else none :=
  rfl

theorem proper_of_item? {text : List Char} {i : Item} (h : item? text = some i) :
    i.regex.Proper := by
  obtain ⟨d, hread, hfinish⟩ := Option.bind_eq_some_iff.mp h
  obtain ⟨-, rfl⟩ := Draft.finish?_eq_some_iff.mp hfinish
  have hproper : Draft.Proper {} := ⟨⟨by simp, by simp⟩, by simp⟩
  exact (hproper.read hread).1.close

end Regex

namespace Pattern

def edge (l : Look) : Item := ⟨.look l, 0, 32, true⟩

def outer : List (Flags × Bool × Group) := [({}, false, { items := [edge .textStart] })]

def closed (i : Item) : Group := { items := [i.grouped false, edge .textStart] }

/-- The item of a pattern with what is put around it. -/
def between (i : Item) : Item :=
  ⟨.seq (.look .textStart) (.seq i.regex (.look .textEnd)), i.depth + 2, i.size + 64, true⟩

theorem close_closed (i : Item) : ((closed i).add (edge .textEnd)).close = between i := by
  simp [closed, edge, between, Item.grouped, Group.add, Group.close, Group.bar, Item.join,
    Regex.concat, Regex.choice]
  omega

theorem anchored_eq (source : List Char) :
    anchored source = "\\A(?:".toList ++ (source ++ ")\\z".toList) :=
  List.append_assoc _ _ _

section

variable [Regex.Engine]

/-- Blanks count all along the pattern: the flag that takes them out is never in force. -/
def Unextended (source : List Char) : Prop :=
  ∀ f ∈ Draft.flagsAlong {} (source.length + 1) source, f.extended = false

instance (source : List Char) : Decidable (Unextended source) :=
  inferInstanceAs (Decidable (∀ f ∈ _, _ = false))

theorem read_anchored (source : List Char) : Draft.read {} ((anchored source).length + 1)
    (anchored source) = (Draft.inside {} outer).read (source.length + 1 + 6)
      (source ++ ")\\z".toList) := by
  have hlength : (anchored source).length + 1 = source.length + 1 + 6 + 1 + 1 := by
    simp [anchored_eq]
  rw [hlength, anchored_eq]
  rfl

theorem read_closing {d : Draft} {left : Nat} (hbelow : d.below = [])
    (hleft : 6 ≤ left) : (d.inside outer).read left ")\\z".toList =
      some { names := d.names, top := (closed d.top.close).add (edge .textEnd) } := by
  obtain ⟨k, rfl⟩ := Nat.exists_eq_add_of_le' hleft
  have hleave : Piece.read (d.inside outer).flags
      (skip (d.inside outer).flags.extended ")\\z".toList) = some (.leave, "\\z".toList) := by
    rw [Draft.inside]
    cases d.flags.extended <;> rfl
  have hpush : (d.inside outer).push? .leave =
      some { names := d.names, top := closed d.top.close } := by
    rw [Draft.push?, Draft.inside, hbelow]
    rfl
  rw [Draft.read_succ hleave hpush]
  rfl

theorem item?_anchored {source : List Char} {i : Item} (h : Regex.item? source = some i)
    (hflags : Unextended source) : Regex.item? (anchored source) = some (between i) := by
  obtain ⟨d, hread, hfinish⟩ := Option.bind_eq_some_iff.mp h
  obtain ⟨hbelow, rfl⟩ := Draft.finish?_eq_some_iff.mp hfinish
  obtain ⟨left, hleft, hinside⟩ :=
    Draft.exists_read_inside (by decide : ':' ∉ "\\z".toList) hread hflags outer 6
  have hclosing := hinside.trans (read_closing hbelow hleft)
  rw [Regex.item?, read_anchored, ← close_closed]
  exact (congrArg (Option.bind · Draft.finish?) hclosing).trans rfl

theorem compile?_eq {source : String} {i : Item} (h : Regex.item? source.toList = some i)
    (hflags : Unextended source.toList) : compile? source =
      if i.depth + 2 ≤ Regex.maxDepth ∧ Regex.Engine.fits (anchored source.toList) (i.size + 64) then
        some ⟨source, i.regex⟩
      else none := by
  rw [compile?, Regex.read?_eq, item?_anchored h hflags, Option.bind_some, between]
  split <;> rfl

end

def flagged : String := "a|(?i)b[)\\]]\x7b1,2\x7d|\\p\x7bLu\x7d\\)$"

def deep : List Char := List.replicate 249 '(' ++ 'a' :: List.replicate 249 ')'

def large : String := "\\Aa\x7b327674\x7d"

end Pattern

end Lexicon
