import Lexicon.Bundled
import Lexicon.Proofs.Segmentation

/-!
Texts fall apart at the boundaries of their tokens. What stands before a boundary is cut as it was
in the whole text, although the scanner can no longer look behind the boundary, and what stands
behind it is cut as it was, although the scanner starts anew there.
-/

namespace Lexicon

theorem FirstCut.truncate {M N : Nat → Prop} {n bound : Nat} (h : FirstCut M n) (hn : n ≤ bound)
    (hle : ∀ i ≤ bound, N i ↔ M i) (hgt : ∀ i, N i → i ≤ bound) : FirstCut N n := by
  have hit : ∀ i, N i → M i := fun i hi => (hle i (hgt i hi)).mp hi
  refine ⟨⟨h.pos, (hle n hn).mpr h.hit, mt (hit _) h.miss, mt (hit _) h.missAgain⟩, ?_⟩
  intro k hk
  apply Nat.le_of_not_lt
  intro hlt
  have hmiss : ¬ M (k + 1) := mt (hle (k + 1) (by omega)).mpr hk.miss
  by_cases hbound : k + 2 ≤ bound
  · have hcut : Cut M k :=
      ⟨hk.pos, hit k hk.hit, hmiss, mt (hle (k + 2) hbound).mpr hk.missAgain⟩
    exact absurd (h.least k hcut) (by omega)
  · -- Only a cut one character before the end looks over it, and the whole word matches there.
    have heq : n = k + 1 := by omega
    exact hmiss (heq ▸ h.hit)

namespace Language

variable {l : Language} {before after : List Char} {n : Nat}

theorem matches_append_iff (h : n ≤ before.length) :
    l.Matches (before ++ after) n ↔ l.Matches before n := by
  simp only [Matches, List.take_append_of_le_length h, List.length_append]
  constructor
  · exact fun hM => ⟨h, hM.2⟩
  · exact fun hM => ⟨by omega, hM.2⟩

theorem firstCut_of_append (h : FirstCut (l.Matches (before ++ after)) n)
    (hn : n ≤ before.length) : FirstCut (l.Matches before) n := by
  apply h.truncate hn
  · intro i hi
    exact (matches_append_iff hi).symm
  · intro i hi
    exact hi.1

end Language

namespace Token

def bytes : List Token → Nat
  | [] => 0
  | t :: tokens => t.size + bytes tokens

def reach (tokens : List Token) : Nat := (tokens.getLast?.map fun t => t.start + t.size).getD 0

def behind (d : Nat) (t : Token) : Token := { t with start := t.start - d }

end Token

open Token

namespace Segmentation

variable {l : Language} {start : Nat} {text : List Char} {t : Token} {tokens : List Token}

theorem nil_iff : Segmentation l [] start text (.ok []) ↔ text = [] := by
  constructor
  · intro h
    generalize hr : Except.ok [] = result at h
    cases h with
    | done => rfl
    | unlexable => cases hr
    | wrong => cases hr
    | word =>
      rename_i rest _ _ _ _
      cases rest <;> cases hr
  · rintro rfl
    exact .done

theorem cons_iff : Segmentation l [] start text (.ok (t :: tokens)) ↔
    ∃ rest, text = t.text.toList ++ rest ∧ FirstCut (l.Matches text) t.text.toList.length ∧
      l.classify t.text = some t.category ∧ l.isWrong t.category = false ∧ t.start = start ∧
      Segmentation l [] (start + t.size) rest (.ok tokens) := by
  constructor
  · intro h
    generalize hr : Except.ok (t :: tokens) = result at h
    cases h with
    | done => cases hr
    | unlexable => cases hr
    | wrong => cases hr
    | @word _ n _ category rest hn hc hw hrest =>
      cases rest with
      | error e => cases hr
      | ok ts =>
        cases hr
        have hlen : (text.take n).length = n := List.length_take_of_le hn.hit.1
        refine ⟨text.drop n, ?_, ?_, hc, hw, rfl, hrest⟩
        · simp
        · simpa [hlen] using hn
  · rintro ⟨rest, rfl, hn, hc, hw, hstart, hrest⟩
    have hword := @word l [] start _ _ _ (.ok tokens) hn (by simpa using hc) hw
      (by simpa [size] using hrest)
    simpa [Except.map, ← hstart] using hword

theorem behind {d : Nat} (h : Segmentation l [] (start + d) text (.ok tokens)) :
    Segmentation l [] start text (.ok (tokens.map (Token.behind d))) := by
  induction tokens generalizing start text with
  | nil => exact nil_iff.mpr (nil_iff.mp h)
  | cons t tokens ih =>
    obtain ⟨rest, htext, hn, hc, hw, hstart, hrest⟩ := cons_iff.mp h
    rw [Nat.add_right_comm] at hrest
    refine cons_iff.mpr ⟨rest, htext, hn, hc, hw, ?_, ih hrest⟩
    simp [Token.behind, hstart]

theorem split (h : Segmentation l [] start text (.ok tokens)) (k : Nat) :
    ∃ before after, text = before ++ after ∧
      (String.ofList before).utf8ByteSize = bytes (tokens.take k) ∧
      Segmentation l [] start before (.ok (tokens.take k)) ∧
      Segmentation l [] (start + bytes (tokens.take k)) after (.ok (tokens.drop k)) := by
  induction k generalizing start text tokens with
  | zero => exact ⟨[], text, rfl, rfl, nil_iff.mpr rfl, h⟩
  | succ k ih =>
    cases tokens with
    | nil => exact ⟨text, [], by simp, by simp [nil_iff.mp h, bytes], h, .done⟩
    | cons t tokens =>
      obtain ⟨rest, rfl, hn, hc, hw, hstart, hrest⟩ := cons_iff.mp h
      obtain ⟨before, after, rfl, hbytes, hbefore, hafter⟩ := ih hrest
      have hsum : bytes ((t :: tokens).take (k + 1)) = t.size + bytes (tokens.take k) := rfl
      refine ⟨t.text.toList ++ before, after, by simp, ?_, ?_, ?_⟩
      · rw [hsum, String.ofList_append, String.utf8ByteSize_append, hbytes, String.ofList_toList,
          size]
      · rw [← List.append_assoc] at hn
        have hfirst := Language.firstCut_of_append hn (by simp)
        exact cons_iff.mpr ⟨before, rfl, hfirst, hc, hw, hstart, hbefore⟩
      · rwa [hsum, ← Nat.add_assoc]

theorem single (h : Segmentation l [] start text (.ok tokens)) (ht : t ∈ tokens) :
    Segmentation l [] 0 t.text.toList (.ok [{ t with start := 0 }]) := by
  induction tokens generalizing start text with
  | nil => cases ht
  | cons u tokens ih =>
    obtain ⟨rest, rfl, hn, hc, hw, -, hrest⟩ := cons_iff.mp h
    cases ht with
    | head =>
      have hfirst := Language.firstCut_of_append hn (Nat.le_refl _)
      exact cons_iff.mpr ⟨[], by simp, by simpa using hfirst, hc, hw, rfl, .done⟩
    | tail _ ht => exact ih hrest ht

theorem reach_cons (h : Segmentation l [] start text (.ok (t :: tokens))) :
    reach (t :: tokens) = start + bytes (t :: tokens) := by
  induction tokens generalizing start text t with
  | nil =>
    obtain ⟨rest, -, -, -, -, hstart, -⟩ := cons_iff.mp h
    simp [reach, bytes, hstart]
  | cons u tokens ih =>
    obtain ⟨rest, -, -, -, -, -, hrest⟩ := cons_iff.mp h
    simpa [reach, bytes, Nat.add_assoc] using ih hrest

theorem reach_eq (h : Segmentation l [] 0 text (.ok tokens)) : reach tokens = bytes tokens := by
  cases tokens with
  | nil => rfl
  | cons t tokens => rw [h.reach_cons, Nat.zero_add]

end Segmentation

namespace Lexer

/-- A text that is lexed with nothing discarded may be split behind any number of its tokens, and
each of them is what its text alone is lexed to. -/
theorem lexWith_split (x : Lexer) (names : Option (List String)) (text : String)
    (tokens : List Token) (hp : x.language.pipeline = none) (hd : names.getD x.discarded = [])
    (h : x.lexWith text names = .ok tokens) :
    (∀ k ≤ tokens.length, ∃ before after : String, text = before ++ after ∧
      before.utf8ByteSize = reach (tokens.take k) ∧
      x.lexWith before names = .ok (tokens.take k) ∧
      x.lexWith after names = .ok ((tokens.drop k).map (behind (reach (tokens.take k))))) ∧
    ∀ t ∈ tokens, x.lexWith t.text names = .ok [{ t with start := 0 }] := by
  have hn : ∀ ns ∈ names, ∀ n ∈ ns, x.language.hasCategory n := by
    rintro ns rfl n hn
    obtain rfl : ns = [] := hd
    cases hn
  simp only [lexWith_eq_scan hp hn, hd, Language.scan_eq_iff] at h ⊢
  constructor
  · intro k _
    obtain ⟨before, after, htext, hbytes, hbefore, hafter⟩ := h.split k
    rw [← hbefore.reach_eq] at hbytes hafter
    refine ⟨.ofList before, .ofList after, ?_, hbytes, ?_, ?_⟩
    · rw [← String.ofList_append, ← htext, String.ofList_toList]
    · simpa using hbefore
    · simpa using hafter.behind
  · intro t ht
    exact h.single ht

theorem bnf_rule_split :
    ∃ l tokens, Language.build "bnf" Bundled.bnf = .ok l ∧
      tokens = [⟨"terminal", "'é'", 0⟩, ⟨"definition", "::=", 4⟩, ⟨"nonterminal", "<e>", 7⟩] ∧
      lexWith ⟨l, []⟩ "'é'::=<e>" none = .ok tokens ∧
      (∃ before after : String, "'é'::=<e>" = before ++ after ∧ before.utf8ByteSize = 4 ∧
        lexWith ⟨l, []⟩ before none = .ok [⟨"terminal", "'é'", 0⟩] ∧
        lexWith ⟨l, []⟩ after none = .ok [⟨"definition", "::=", 0⟩, ⟨"nonterminal", "<e>", 3⟩]) ∧
      lexWith ⟨l, []⟩ "<e>" none = .ok [⟨"nonterminal", "<e>", 0⟩] := by
  have hbuild : ∃ l, Language.build "bnf" Bundled.bnf = .ok l ∧
      lexWith ⟨l, []⟩ "'é'::=<e>" none =
        .ok [⟨"terminal", "'é'", 0⟩, ⟨"definition", "::=", 4⟩, ⟨"nonterminal", "<e>", 7⟩] :=
    Language.exists_of_build (by decide +kernel)
  obtain ⟨l, hl, hlex⟩ := hbuild
  have hp : l.pipeline = none := (Language.built_of_build hl).pipeline_eq
  have hsplit := lexWith_split ⟨l, []⟩ none _ _ hp rfl hlex
  exact ⟨l, _, hl, rfl, hlex, hsplit.1 1 (by decide), hsplit.2 ⟨"nonterminal", "<e>", 7⟩ (by simp)⟩

end Lexer

end Lexicon
