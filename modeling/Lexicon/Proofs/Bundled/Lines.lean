import Lexicon.Bundled
import Lexicon.Proofs.Build
import Lexicon.Proofs.Characters

/-!
Ash is lexed line by line. A character that is a word by itself and stands in no other word is never
part of a longer match, and the scanner does not look across it. So a text falls apart there, and it
is lexed if and only if both of its parts are.
-/

namespace Lexicon

theorem Residue.length_eq_one_of_run_chars {b : Option Char} {s : CharSet} {word : List Char}
    (h : run b [.chars s] word) : word.length = 1 := by
  cases word with
  | nil => simp [run, accepts, Regex.nullable] at h
  | cons c word =>
    cases word with
    | nil => rfl
    | cons d word =>
      have hadv : Residue.advance (some c) d (Residue.advance b c [.chars s]) = [] := by
        cases hc : s.contains c <;> simp [advance, Regex.residuals, hc, List.eraseDups_cons]
      rw [run, run, hadv, run_nil] at h
      cases h

def Regex.single : Regex → Bool
  | chars _ => true
  | _ => false

namespace Category

def isolates (c : Category) (d : Char) : Bool :=
  c.avoids d || c.patterns.all (·.regex.single)

theorem eq_singleton_of_isolates {c : Category} {d : Char} {word : String} (h : c.isolates d)
    (hw : c.accepts word) (hd : d ∈ word.toList) : word.toList = [d] := by
  rcases Bool.or_eq_true_iff.mp h with havoids | hsingle
  · exact absurd hd (not_mem_of_avoids havoids hw)
  · obtain ⟨p, hp, hmatch⟩ := List.any_eq_true.mp hw
    have hregex := List.all_eq_true.mp hsingle p hp
    have hlength : word.toList.length = 1 := by
      rw [Pattern.isMatch, Regex.isMatch] at hmatch
      cases hr : p.regex with
      | chars s =>
        rw [hr] at hmatch
        exact Residue.length_eq_one_of_run_chars hmatch
      | _ => simp [hr, Regex.single] at hregex
    obtain ⟨e, he⟩ := List.length_eq_one_iff.mp hlength
    rw [he] at hd ⊢
    rw [List.mem_singleton.mp hd]

end Category

namespace Language

variable {l : Language} {d : Char} {category : String} {before after : List Char} {n : Nat}

/-- The character alone is a word of the category, and no other word has it. -/
structure Isolates (l : Language) (d : Char) (category : String) : Prop where
  classify_eq : l.classify (.ofList [d]) = some category
  right : l.isWrong category = false
  alone : ∀ word, l.Accepts word → d ∈ word → word = [d]

def isolates (l : Language) (d : Char) (category : String) : Bool :=
  l.classify (.ofList [d]) == some category && !l.isWrong category &&
    l.categories.all (·.isolates d)

theorem isolates_of_check (h : l.isolates d category) : l.Isolates d category := by
  simp only [isolates, Bool.and_eq_true, beq_iff_eq, Bool.not_eq_true'] at h
  refine ⟨h.1.1, h.1.2, ?_⟩
  rintro word ⟨c, hc, p, hp, hmatch⟩ hd
  have haccepts : c.accepts (.ofList word) := List.any_eq_true.mpr ⟨p, hp, hmatch⟩
  simpa using Category.eq_singleton_of_isolates (List.all_eq_true.mp h.2 c hc) haccepts
    (by simpa using hd)

theorem Isolates.accepts (h : l.Isolates d category) : l.Accepts [d] :=
  (l.classify_isSome_iff [d]).mp (by rw [h.classify_eq]; rfl)

theorem Isolates.matches_append_iff (h : l.Isolates d category) (hne : before ≠ []) :
    l.Matches (before ++ d :: after) n ↔ l.Matches before n := by
  by_cases hn : n ≤ before.length
  · exact Language.matches_append_iff hn
  · refine ⟨fun hM => ?_, fun hM => absurd hM.1 hn⟩
    have htake : (before ++ d :: after).take n =
        before ++ d :: after.take (n - before.length - 1) := by
      rw [List.take_append, List.take_of_length_le (by omega)]
      obtain ⟨k, hk⟩ : ∃ k, n - before.length = k + 1 := ⟨n - before.length - 1, by omega⟩
      simp [hk]
    have halone := h.alone _ hM.2 (by simp [htake])
    have hlength := congrArg List.length (htake.symm.trans halone)
    have hpos := List.length_pos_iff.mpr hne
    simp only [List.length_append, List.length_cons, List.length_nil] at hlength
    omega

theorem Isolates.firstCut_append_iff (h : l.Isolates d category) (hne : before ≠ []) :
    FirstCut (l.Matches (before ++ d :: after)) n ↔ FirstCut (l.Matches before) n := by
  have hM : l.Matches (before ++ d :: after) = l.Matches before := by
    funext n
    exact propext (h.matches_append_iff hne)
  rw [hM]

theorem Isolates.firstCut_cons_iff (h : l.Isolates d category) :
    FirstCut (l.Matches (d :: after)) n ↔ n = 1 := by
  have hM : ∀ k, 0 < k → (l.Matches (d :: after) k ↔ k = 1) := by
    intro k hk
    obtain ⟨k, rfl⟩ := Nat.exists_eq_add_one.mpr hk
    constructor
    · intro hk
      have halone := congrArg List.length (h.alone _ hk.2 (by simp))
      rwa [List.length_take_of_le hk.1] at halone
    · rintro hk
      obtain rfl : k = 0 := by omega
      exact ⟨by simp, h.accepts⟩
  constructor
  · intro hn
    exact (hM n hn.pos).mp hn.hit
  · rintro rfl
    refine ⟨⟨Nat.one_pos, (hM 1 Nat.one_pos).mpr rfl, ?_, ?_⟩, fun k hk => hk.pos⟩
    · exact mt (hM 2 (by omega)).mp (by omega)
    · exact mt (hM 3 (by omega)).mp (by omega)

end Language

def Token.ahead (d : Nat) (t : Token) : Token := { t with start := t.start + d }

open Token

namespace Segmentation

variable {l : Language} {d : Char} {category : String} {start : Nat}
  {text before after : List Char} {tokens : List Token}

theorem ahead {n : Nat} (h : Segmentation l [] start text (.ok tokens)) :
    Segmentation l [] (start + n) text (.ok (tokens.map (Token.ahead n))) := by
  induction tokens generalizing start text with
  | nil => exact nil_iff.mpr (nil_iff.mp h)
  | cons t tokens ih =>
    obtain ⟨rest, htext, hn, hc, hw, hstart, hrest⟩ := cons_iff.mp h
    have htail := ih hrest
    rw [Nat.add_right_comm] at htail
    refine cons_iff.mpr ⟨rest, htext, hn, hc, hw, ?_, htail⟩
    simp [Token.ahead, hstart]

theorem add_iff {n : Nat} : Segmentation l [] (start + n) text (.ok tokens) ↔
    ∃ ts, Segmentation l [] start text (.ok ts) ∧ tokens = ts.map (Token.ahead n) := by
  constructor
  · intro h
    have heq := Except.ok.inj (h.unique h.behind.ahead)
    exact ⟨_, h.behind, heq⟩
  · rintro ⟨ts, hts, rfl⟩
    exact hts.ahead

def mark (category : String) (d : Char) (start : Nat) : Token := ⟨category, .ofList [d], start⟩

theorem cons_isolated (hd : l.Isolates d category)
    (h : Segmentation l [] (start + d.utf8Size) after (.ok tokens)) :
    Segmentation l [] start (d :: after) (.ok (mark category d start :: tokens)) := by
  refine cons_iff.mpr ⟨after, by simp [mark], ?_, hd.classify_eq, hd.right, rfl, ?_⟩
  · exact hd.firstCut_cons_iff.mpr (by simp [mark])
  · simpa [mark, size] using h

theorem of_cons_isolated (hd : l.Isolates d category)
    (h : Segmentation l [] start (d :: after) (.ok tokens)) :
    ∃ us, Segmentation l [] (start + d.utf8Size) after (.ok us) ∧
      tokens = mark category d start :: us := by
  cases tokens with
  | nil => cases nil_iff.mp h
  | cons t tokens =>
    obtain ⟨rest, htext, hn, -, -, -, hrest⟩ := cons_iff.mp h
    have hlength : [d].length = t.text.toList.length := (hd.firstCut_cons_iff.mp hn).symm
    have hsplit : [d] ++ after = t.text.toList ++ rest := htext
    obtain ⟨hword, rfl⟩ := List.append_inj hsplit hlength
    have hsize : t.size = d.utf8Size := by
      rw [size, ← String.ofList_toList (s := t.text), ← hword]
      simp
    rw [hsize] at hrest
    exact ⟨tokens, hrest, Except.ok.inj (h.unique (cons_isolated hd hrest))⟩

theorem bytes_append (t : Token) (rest : List Char) (start : Nat) :
    start + (String.ofList (t.text.toList ++ rest)).utf8ByteSize =
      start + t.size + (String.ofList rest).utf8ByteSize := by
  rw [String.ofList_append, String.utf8ByteSize_append, String.ofList_toList, size, Nat.add_assoc]

theorem append_isolated_iff (hd : l.Isolates d category) :
    Segmentation l [] start (before ++ d :: after) (.ok tokens) ↔
      ∃ ts us, Segmentation l [] start before (.ok ts) ∧
        Segmentation l [] (start + (String.ofList before).utf8ByteSize + d.utf8Size) after
          (.ok us) ∧
        tokens = ts ++ mark category d (start + (String.ofList before).utf8ByteSize) :: us := by
  constructor
  · intro h
    induction tokens generalizing start before with
    | nil => simp [nil_iff] at h
    | cons t tokens ih =>
      cases before with
      | nil =>
        obtain ⟨us, hus, heq⟩ := of_cons_isolated hd h
        exact ⟨[], us, .done, hus, heq⟩
      | cons c before =>
        obtain ⟨rest, htext, hn, hc, hw, hstart, hrest⟩ := cons_iff.mp h
        have hcut := (hd.firstCut_append_iff (by simp)).mp hn
        -- The first word ends before the character, so that this stands in the rest.
        obtain ⟨before', hbefore, rfl⟩ : ∃ before', c :: before = t.text.toList ++ before' ∧
            rest = before' ++ d :: after := by
          rcases List.append_eq_append_iff.mp htext with ⟨mid, hmid, hrest⟩ | ⟨mid, hmid, hrest⟩
          · have hnil : mid = [] := by
              have hle := hcut.hit.1
              rw [hmid, List.length_append] at hle
              exact List.length_eq_zero_iff.mp (by omega)
            exact ⟨[], by simp [hmid, hnil], by simp [hrest, hnil]⟩
          · exact ⟨mid, hmid, hrest⟩
        obtain ⟨ts, us, hts, hus, rfl⟩ := ih hrest
        rw [hbefore] at hcut ⊢
        rw [bytes_append]
        refine ⟨t :: ts, us, ?_, hus, rfl⟩
        exact cons_iff.mpr ⟨before', rfl, hcut, hc, hw, hstart, hts⟩
  · rintro ⟨ts, us, hts, hus, rfl⟩
    induction ts generalizing start before with
    | nil =>
      obtain rfl := nil_iff.mp hts
      exact cons_isolated hd hus
    | cons t ts ih =>
      obtain ⟨before, rfl, hn, hc, hw, hstart, hrest⟩ := cons_iff.mp hts
      have hne : t.text.toList ++ before ≠ [] :=
        List.ne_nil_of_length_pos (Nat.lt_of_lt_of_le hn.pos hn.hit.1)
      rw [bytes_append] at hus ⊢
      refine cons_iff.mpr ⟨before ++ d :: after, by simp, ?_, hc, hw, hstart, ih hrest hus⟩
      exact (hd.firstCut_append_iff hne).mpr hn

theorem eq_mark_of_mem (hd : l.Isolates d category) {t : Token}
    (h : Segmentation l [] start text (.ok tokens)) (ht : t ∈ tokens) (hmem : d ∈ t.text.toList) :
    t = mark category d t.start := by
  have hclass := h.classify_eq ht
  have hword : t.text = .ofList [d] := by
    rw [← hd.alone t.text.toList ((l.classify_isSome_iff _).mp (by simp [hclass])) hmem,
      String.ofList_toList]
  rw [hword, hd.classify_eq] at hclass
  cases hclass
  rw [mark, ← hword]

end Segmentation

namespace Bundled

theorem exists_ash : ∃ l, Language.build "ash" ash = .ok l ∧ l.Isolates '\n' "newline" ∧
    l.pipeline = none := by
  have hbuild : ∃ l, Language.build "ash" ash = .ok l ∧ l.isolates '\n' "newline" :=
    Language.exists_of_build (by decide +kernel)
  obtain ⟨l, hl, hisolates⟩ := hbuild
  exact ⟨l, hl, Language.isolates_of_check hisolates,
    (Language.built_of_build hl).pipeline_eq⟩

/-- Two texts with a line feed between them are lexed, with nothing discarded, if and only if each
of them is, and the tokens are theirs with the line feed between them. All line feeds are newlines
of their own. -/
theorem ash_lexWith_lines :
    ∃ l, Language.build "ash" ash = .ok l ∧
      ∀ (x : Lexer) (names : Option (List String)), x.language = l →
        names.getD x.discarded = [] →
        (∀ (a b : String) (tokens : List Token), x.lexWith (a ++ "\n" ++ b) names = .ok tokens ↔
          ∃ above below, x.lexWith a names = .ok above ∧ x.lexWith b names = .ok below ∧
            tokens = above ++ ⟨"newline", "\n", a.utf8ByteSize⟩ ::
              below.map (Token.ahead (a.utf8ByteSize + 1))) ∧
        ∀ (text : String) (tokens : List Token), x.lexWith text names = .ok tokens →
          ∀ t ∈ tokens, '\n' ∈ t.text.toList → t.category = "newline" ∧ t.text = "\n" := by
  obtain ⟨l, hl, hisolates, hp⟩ := exists_ash
  refine ⟨l, hl, ?_⟩
  rintro x names rfl hd
  have hn : ∀ ns ∈ names, ∀ n ∈ ns, x.language.hasCategory n := by
    rintro ns rfl n hn
    obtain rfl : ns = [] := hd
    cases hn
  simp only [Lexer.lexWith_eq_scan hp hn, hd, Language.scan_eq_iff]
  constructor
  · intro a b tokens
    have htext : (a ++ "\n" ++ b).toList = a.toList ++ '\n' :: b.toList := by simp
    have hbelow : ∀ us, Segmentation x.language [] (a.utf8ByteSize + 1) b.toList (.ok us) ↔
        ∃ below, Segmentation x.language [] 0 b.toList (.ok below) ∧
          us = below.map (Token.ahead (a.utf8ByteSize + 1)) := by
      intro us
      rw [← Segmentation.add_iff, Nat.zero_add]
    rw [htext, Segmentation.append_isolated_iff hisolates, String.ofList_toList, Nat.zero_add]
    constructor
    · rintro ⟨above, us, habove, hus, rfl⟩
      obtain ⟨below, hb, rfl⟩ := (hbelow us).mp hus
      exact ⟨above, below, habove, hb, rfl⟩
    · rintro ⟨above, below, habove, hb, rfl⟩
      exact ⟨above, _, habove, (hbelow _).mpr ⟨below, hb, rfl⟩, rfl⟩
  · intro text tokens h t ht hmem
    have heq := h.eq_mark_of_mem hisolates ht hmem
    rw [heq]
    exact ⟨rfl, rfl⟩

theorem ash_comment_lines :
    ∃ l above below, Language.build "ash" ash = .ok l ∧
      above = [⟨"identifier", "x", 0⟩, ⟨"operator", "=", 1⟩, ⟨"string", "\"é\"", 2⟩,
        ⟨"comment", "#\"", 6⟩] ∧
      below = [⟨"newline", "\n", 0⟩, ⟨"float", "1.5", 1⟩] ∧
      Lexer.lexWith ⟨l, []⟩ "x=\"é\"#\"" none = .ok above ∧
      Lexer.lexWith ⟨l, []⟩ "\n1.5" none = .ok below ∧
      Lexer.lexWith ⟨l, []⟩ "x=\"é\"#\"\n\n1.5" none =
        .ok (above ++ [⟨"newline", "\n", 8⟩, ⟨"newline", "\n", 9⟩, ⟨"float", "1.5", 10⟩]) := by
  have hbuild : ∃ l, Language.build "ash" ash = .ok l ∧
      Lexer.lexWith ⟨l, []⟩ "x=\"é\"#\"" none = .ok [⟨"identifier", "x", 0⟩, ⟨"operator", "=", 1⟩,
        ⟨"string", "\"é\"", 2⟩, ⟨"comment", "#\"", 6⟩] ∧
      Lexer.lexWith ⟨l, []⟩ "\n1.5" none = .ok [⟨"newline", "\n", 0⟩, ⟨"float", "1.5", 1⟩] :=
    Language.exists_of_build (by decide +kernel)
  obtain ⟨l, hl, habove, hbelow⟩ := hbuild
  obtain ⟨l', hl', hlines⟩ := ash_lexWith_lines
  obtain rfl : l = l' := by simpa [hl] using hl'
  refine ⟨l, _, _, hl, rfl, rfl, habove, hbelow, ?_⟩
  exact ((hlines ⟨l, []⟩ none rfl rfl).1 "x=\"é\"#\"" "\n1.5" _).mpr
    ⟨_, _, habove, hbelow, by decide⟩

end Bundled

end Lexicon
