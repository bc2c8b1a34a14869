import Lexicon.Bundled
import Lexicon.Proofs.Composition

namespace Lexicon

def charsFrom (offset : Nat) : List Char → Nat
  | [] => 0
  | c :: text => if offset = 0 then text.length + 1 else charsFrom (offset - c.utf8Size) text

@[simp] theorem charsFrom_zero (text : List Char) : charsFrom 0 text = text.length := by
  cases text <;> simp [charsFrom]

theorem charsFrom_append (before after : List Char) :
    charsFrom (String.ofList before).utf8ByteSize (before ++ after) = after.length := by
  induction before with
  | nil => simp
  | cons c before ih =>
    have hsize : (String.ofList (c :: before)).utf8ByteSize =
        c.utf8Size + (String.ofList before).utf8ByteSize := by
      rw [← List.singleton_append, String.ofList_append, String.utf8ByteSize_append]
      simp
    have hpos := c.utf8Size_pos
    rw [hsize, List.cons_append, charsFrom, if_neg (by omega), Nat.add_sub_cancel_left, ih]

namespace Token

/-- The tokens up to the first that ends less than two characters before the end of the text. -/
def settled (text : String) (tokens : List Token) : List Token :=
  tokens.takeWhile fun t => 2 ≤ charsFrom (t.start + t.size) text.toList

theorem two_le_charsFrom_reach {text : String} {tokens : List Token}
    (h : settled text tokens ≠ []) : 2 ≤ charsFrom (reach (settled text tokens)) text.toList := by
  have hlast := List.all_eq_true.mp List.all_takeWhile _ (List.getLast_mem h)
  simpa [reach, List.getLast?_eq_some_getLast h] using hlast

end Token

open Token

def LexError.From (offset : Nat) : LexError → Prop
  | unlexable start _ => offset ≤ start
  | wrongCategory _ _ start => offset ≤ start
  | _ => False

/-- The result starts with the given tokens, or fails where they end or behind that. -/
def Token.Keeps (kept : List Token) : Except LexError (List Token) → Prop
  | .ok tokens => kept <+: tokens
  | .error e => e.From (reach kept)

namespace Language

variable {l : Language} {text : List Char} {n : Nat}

theorem firstCut_append (h : FirstCut (l.Matches text) n) (hn : n + 2 ≤ text.length)
    (more : List Char) : FirstCut (l.Matches (text ++ more)) n :=
  h.congr fun _ _ hi => (matches_append_iff (by omega)).symm

end Language

namespace Segmentation

variable {l : Language} {start : Nat} {text before after more : List Char}
  {kept tokens : List Token} {result : Except LexError (List Token)}

theorem from_of_eq_error {discard : List String} {e : LexError}
    (h : Segmentation l discard start text result) (he : result = .error e) : e.From start := by
  induction h with
  | done => cases he
  | unlexable =>
    cases he
    exact Nat.le_refl _
  | wrong =>
    cases he
    exact Nat.le_refl _
  | @word start n text category rest hn hc hw hrest ih =>
    have hrest : rest = .error e := by
      cases rest with
      | error e' =>
        split at he
        · exact he
        · exact he
      | ok tokens => split at he <;> cases he
    have hfrom := ih hrest
    cases e with
    | unlexable s w => exact Nat.le_trans (Nat.le_add_right _ _) hfrom
    | wrongCategory c w s => exact Nat.le_trans (Nat.le_add_right _ _) hfrom
    | _ => exact hfrom

theorem cons {t : Token} (hn : FirstCut (l.Matches (t.text.toList ++ after)) t.text.toList.length)
    (hc : l.classify t.text = some t.category) (hw : l.isWrong t.category = false)
    (hrest : Segmentation l [] (t.start + t.size) after result) :
    Segmentation l [] t.start (t.text.toList ++ after) (result.map (t :: ·)) := by
  have hword := @word l [] t.start _ _ _ result hn (by simpa using hc) hw
    (by simpa [size] using hrest)
  simpa using hword

theorem split_append (h : Segmentation l [] start text (.ok (kept ++ tokens))) :
    ∃ before after, text = before ++ after ∧
      (String.ofList before).utf8ByteSize = bytes kept ∧
      Segmentation l [] start before (.ok kept) := by
  obtain ⟨before, after, htext, hbytes, hbefore, -⟩ := h.split kept.length
  rw [List.take_left] at hbytes hbefore
  exact ⟨before, after, htext, hbytes, hbefore⟩

theorem append_more (hbefore : Segmentation l [] start before (.ok kept))
    (h : Segmentation l [] start (before ++ after) (.ok (kept ++ tokens)))
    (hafter : kept ≠ [] → 2 ≤ after.length)
    (hmore : Segmentation l [] (start + bytes kept) (after ++ more) result) :
    Segmentation l [] start (before ++ (after ++ more)) (result.map (kept ++ ·)) := by
  induction kept generalizing start before with
  | nil =>
    obtain rfl := nil_iff.mp hbefore
    cases result <;> exact hmore
  | cons t kept ih =>
    obtain ⟨rest, rfl, -, hc, hw, rfl, hrest⟩ := cons_iff.mp hbefore
    obtain ⟨rest', htext, hn, -, -, -, hrest'⟩ := cons_iff.mp h
    rw [List.append_assoc, List.append_cancel_left_eq] at htext
    subst htext
    -- The cut behind `t` sees two characters further, and these stand in front of what is appended.
    have htwo := hafter (by simp)
    have hcut := Language.firstCut_append hn (by simp; omega) more
    rw [List.append_assoc, List.append_assoc] at hcut
    rw [bytes, ← Nat.add_assoc] at hmore
    have hcons := cons hcut hc hw (ih hrest hrest' (fun _ => htwo) hmore)
    rw [List.append_assoc]
    cases result <;> exact hcons

theorem keeps (h : Segmentation l [] (reach kept) text result) :
    Keeps kept (result.map (kept ++ ·)) := by
  cases result with
  | error e => exact h.from_of_eq_error rfl
  | ok tokens => exact List.prefix_append kept tokens

end Segmentation

namespace Language

theorem exists_segmentation (l : Language) (start : Nat) (text : List Char) :
    ∃ result, Segmentation l [] start text result :=
  ⟨_, l.segmentation_scanFrom [] (.init l.recogniser start text) (Scan.sound_init _ _ _)⟩

end Language

theorem Segmentation.keeps_settled {l : Language} {text : String} {tokens : List Token}
    (h : Segmentation l [] 0 text.toList (.ok tokens)) (more : List Char) :
    ∃ result, Segmentation l [] 0 (text.toList ++ more) result ∧
      Keeps (settled text tokens) result := by
  obtain ⟨rest, hrest⟩ : settled text tokens <+: tokens := List.takeWhile_prefix _
  have hwhole := h
  rw [← hrest] at hwhole
  obtain ⟨before, after, htext, hbytes, hbefore⟩ := hwhole.split_append
  have hreach := hbefore.reach_eq
  have hafter : settled text tokens ≠ [] → 2 ≤ after.length := by
    intro hne
    have htwo := two_le_charsFrom_reach hne
    rwa [htext, hreach, ← hbytes, charsFrom_append] at htwo
  obtain ⟨result, hresult⟩ := l.exists_segmentation (reach (settled text tokens)) (after ++ more)
  refine ⟨_, ?_, hresult.keeps⟩
  rw [hreach, ← Nat.zero_add (bytes _)] at hresult
  rw [htext] at hwhole ⊢
  rw [List.append_assoc]
  exact hbefore.append_more hwhole hafter hresult

namespace Lexer

/-- Whatever is appended to a text, the result starts with its settled tokens or fails where they
end or behind that. -/
theorem lexWith_append_keeps_settled (x : Lexer) (names : Option (List String))
    (text more : String) (tokens : List Token) (hp : x.language.pipeline = none)
    (hd : names.getD x.discarded = []) (h : x.lexWith text names = .ok tokens) :
    Keeps (settled text tokens) (x.lexWith (text ++ more) names) := by
  have hn : ∀ ns ∈ names, ∀ n ∈ ns, x.language.hasCategory n := by
    rintro ns rfl n hn
    obtain rfl : ns = [] := hd
    cases hn
  simp only [lexWith_eq_scan hp hn, hd, Language.scan_eq_iff] at h ⊢
  obtain ⟨result, hresult, hkeeps⟩ := h.keeps_settled more.toList
  rw [← String.toList_append] at hresult
  rwa [Language.scan_eq_iff.mpr hresult]

theorem ash_fraction_keeps_settled :
    ∃ l tokens, Language.build "ash" Bundled.ash = .ok l ∧
      tokens = [⟨"string", "\"é\"", 0⟩, ⟨"integer", "1", 4⟩, ⟨"separator", ".", 5⟩] ∧
      lexWith ⟨l, []⟩ "\"é\"1." none = .ok tokens ∧
      settled "\"é\"1." tokens = [⟨"string", "\"é\"", 0⟩] ∧
      Keeps [⟨"string", "\"é\"", 0⟩] (lexWith ⟨l, []⟩ "\"é\"1.5" none) ∧
      lexWith ⟨l, []⟩ "\"é\"1.5" none =
        .ok [⟨"string", "\"é\"", 0⟩, ⟨"float", "1.5", 4⟩] := by
  have hbuild : ∃ l, Language.build "ash" Bundled.ash = .ok l ∧
      lexWith ⟨l, []⟩ "\"é\"1." none =
        .ok [⟨"string", "\"é\"", 0⟩, ⟨"integer", "1", 4⟩, ⟨"separator", ".", 5⟩] ∧
      lexWith ⟨l, []⟩ "\"é\"1.5" none =
        .ok [⟨"string", "\"é\"", 0⟩, ⟨"float", "1.5", 4⟩] :=
    Language.exists_of_build (by decide +kernel)
  obtain ⟨l, hl, hlex, hmore⟩ := hbuild
  have hp : l.pipeline = none := (Language.built_of_build hl).pipeline_eq
  have hsettled : settled "\"é\"1." [⟨"string", "\"é\"", 0⟩, ⟨"integer", "1", 4⟩,
      ⟨"separator", ".", 5⟩] = [⟨"string", "\"é\"", 0⟩] := by decide +kernel
  have hkeeps := lexWith_append_keeps_settled ⟨l, []⟩ none "\"é\"1." "5" _ hp rfl hlex
  rw [hsettled] at hkeeps
  exact ⟨l, _, hl, rfl, hlex, hsettled, hkeeps, hmore⟩

end Lexer

end Lexicon
