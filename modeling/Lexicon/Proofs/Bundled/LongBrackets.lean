import Lexicon.Bundled
import Lexicon.Proofs.Lexeme
import Lexicon.Proofs.Stability

namespace Lexicon

namespace LongBrackets

def throughClose : List Char → List Char
  | ']' :: ']' :: _ => [']', ']']
  | c :: text => c :: throughClose text
  | [] => []

/-- The comment or long string that the text begins with, and its category. -/
def opening? : List Char → Option (String × List Char)
  | '-' :: '-' :: '[' :: '[' :: text => some ("comment", "--[[".toList ++ throughClose text)
  | '-' :: '-' :: text => some ("comment", "--".toList ++ text.takeWhile (· ≠ '\n'))
  | '[' :: '[' :: text => some ("string", "[[".toList ++ throughClose text)
  | _ => none

open Regex

def round : Regex :=
  alt (chars (.compl (.single ']'))) (seq (chars (.single ']')) (chars (.compl (.single ']'))))

def closed : Regex := seq (rep round 0 none) (word "]]".toList)

def unclosed : Regex := seq (rep round 0 none) (rep (chars (.single ']')) 0 (some 1))

def noBracket : Regex :=
  rep (seq (chars (.compl (.anyOf "[\n".toList))) (rep (chars (.compl (.single '\n'))) 0 none))
    0 (some 1)

def lineComment : Regex :=
  seq (word "--".toList) (alt noBracket (seq (chars (.single '[')) noBracket))

variable {c d : Char} {text v w : List Char} {tail : Regex}

theorem throughClose_cons (h : ¬ (c = ']' ∧ text.head? = some ']')) :
    throughClose (c :: text) = c :: throughClose text := by
  rw [throughClose.eq_def]
  split
  · simp_all
  · simp_all
  · simp_all

def Ends (text : List Char) : Prop :=
  ∃ rest, text = throughClose text ++ rest ∧
    (closed.Denotes (throughClose text) ∨ rest = [] ∧ unclosed.Denotes (throughClose text))

theorem denotes_round_append (hv : round.Denotes v) (hne : v ≠ [])
    (h : (seq (rep round 0 none) tail).Denotes w) :
    (seq (rep round 0 none) tail).Denotes (v ++ w) := by
  cases h with
  | seq hrounds htail =>
    rw [← List.append_assoc]
    exact .seq (.more (by simp) hne hv hrounds) htail

theorem Ends.append (h : Ends text) (hv : round.Denotes v) (hne : v ≠ [])
    (hthrough : throughClose (v ++ text) = v ++ throughClose text) : Ends (v ++ text) := by
  obtain ⟨rest, htext, hdenotes⟩ := h
  rw [Ends, hthrough]
  refine ⟨rest, ?_, hdenotes.imp (denotes_round_append hv hne)
    (And.imp_right (denotes_round_append hv hne))⟩
  rw [List.append_assoc, ← htext]

theorem ends (text : List Char) : Ends text := by
  match text with
  | [] => exact ⟨[], rfl, .inr ⟨rfl, .seq .none .none⟩⟩
  | c :: text =>
    by_cases hc : c = ']'
    · subst hc
      match text with
      | [] => exact ⟨[], rfl, .inr ⟨rfl, .seq .none (denotes_option (by simp) (.chars (by simp)))⟩⟩
      | d :: text =>
        by_cases hd : d = ']'
        · subst hd
          exact ⟨text, rfl, .inl (.seq .none (denotes_word _))⟩
        · have hround : round.Denotes [']', d] :=
            .right (denotes_cons (by simp) (.chars (by simpa [CharSet.contains] using Ne.symm hd)))
          refine (ends text).append hround (by simp) ?_
          rw [List.cons_append, throughClose_cons (by simpa using hd), List.cons_append,
            throughClose_cons (by simp [hd])]
          rfl
    · have hround : round.Denotes [c] :=
        .left (.chars (by simpa [CharSet.contains] using Ne.symm hc))
      exact (ends text).append hround (by simp) (throughClose_cons (by simp [hc]))

theorem denotes_noBracket (hw : '\n' ∉ w) (hhead : ∀ c ∈ w.head?, c ≠ '[') :
    noBracket.Denotes w := by
  cases w with
  | nil => exact .none
  | cons c w =>
    have hc : c ≠ '[' := hhead c rfl
    simp only [List.mem_cons, not_or] at hw
    refine denotes_option (by simp) (denotes_cons ?_ (denotes_rep_chars fun d hd => ?_))
    · simpa [CharSet.contains, CharSet.anyOf] using ⟨hc.symm, hw.1⟩
    · have hne : '\n' ≠ d := fun heq => hw.2 (heq ▸ hd)
      simpa [CharSet.contains] using hne

theorem denotes_lineComment (hw : '\n' ∉ w) (hopen : ¬ "[[".toList <+: w) :
    lineComment.Denotes ("--".toList ++ w) := by
  refine .seq (denotes_word _) ?_
  by_cases hhead : w.head? = some '['
  · obtain ⟨v, rfl⟩ : ∃ v, w = '[' :: v := List.head?_eq_some_iff.mp hhead
    refine .right (denotes_cons (by simp) (denotes_noBracket (by simp_all) ?_))
    rintro c hc rfl
    obtain ⟨v, rfl⟩ := List.head?_eq_some_iff.mp hc
    exact hopen ⟨v, rfl⟩
  · refine .left (denotes_noBracket hw ?_)
    rintro c hc rfl
    exact hhead hc

/-- Letters that stand for all characters that Lua tells apart. -/
def letters : List Char := "\x00\t\n\"#'+-./01:<=>AEGX[\\]abcdefghiklnoprstuw~٠".toList

structure Form : Type where
  regex : Regex
  follow : CharSet
  category : String

def bracketed (opener category : String) : List Form :=
  [⟨seq (word opener.toList) closed, .all, category⟩,
    ⟨seq (word opener.toList) unclosed, .none, category⟩]

def forms : List Form :=
  ⟨lineComment, .single '\n', "comment"⟩ ::
    (bracketed "--[[" "comment" ++ bracketed "[[" "string")

def Form.Begins (f : Form) (word text : List Char) : Prop :=
  f.regex.Denotes word ∧ ∃ rest, text = word ++ rest ∧ ∀ c ∈ rest.head?, f.follow.contains c

theorem exists_bracketed (opener category : String) (text : List Char) :
    ∃ f ∈ bracketed opener category, f.category = category ∧
      f.Begins (opener.toList ++ throughClose text) (opener.toList ++ text) := by
  obtain ⟨rest, htext, hclosed | ⟨rfl, hunclosed⟩⟩ := ends text
  · refine ⟨_, List.mem_cons_self, rfl, .seq (denotes_word _) hclosed, rest, ?_, by simp⟩
    rw [List.append_assoc, ← htext]
  · refine ⟨_, List.mem_cons_of_mem _ List.mem_cons_self, rfl, .seq (denotes_word _) hunclosed,
      [], ?_, by simp⟩
    rw [List.append_assoc, ← htext]

theorem begins_lineComment (hopen : ¬ "[[".toList <+: text) :
    (Form.mk lineComment (.single '\n') "comment").Begins
      ("--".toList ++ text.takeWhile (· ≠ '\n')) ("--".toList ++ text) := by
  refine ⟨denotes_lineComment ?_ fun h => hopen (h.trans (List.takeWhile_prefix _)),
    text.dropWhile (· ≠ '\n'), ?_, ?_⟩
  · intro hmem
    simpa using List.all_eq_true.mp List.all_takeWhile _ hmem
  · rw [List.append_assoc, List.takeWhile_append_dropWhile]
  · intro c hc
    have hnot := List.head?_dropWhile_not (fun c : Char => decide (c ≠ '\n')) text
    rw [Option.mem_def.mp hc] at hnot
    have hc : c = '\n' := by simpa using hnot
    simp [hc]

theorem exists_form {category : String} (h : opening? text = some (category, w)) :
    ∃ f ∈ forms, f.category = category ∧ f.Begins w text := by
  unfold opening? at h
  split at h
  case h_1 text =>
    cases h
    obtain ⟨f, hf, hbegins⟩ := exists_bracketed "--[[" "comment" text
    exact ⟨f, List.mem_cons_of_mem _ (List.mem_append_left _ hf), hbegins⟩
  case h_2 text hopen =>
    cases h
    refine ⟨_, List.mem_cons_self, rfl, begins_lineComment ?_⟩
    rintro ⟨rest, rfl⟩
    exact hopen rest rfl
  case h_3 text =>
    cases h
    obtain ⟨f, hf, hbegins⟩ := exists_bracketed "[[" "string" text
    exact ⟨f, List.mem_cons_of_mem _ (List.mem_append_right _ hf), hbegins⟩
  case h_4 => cases h

end LongBrackets

theorem Lexer.keeps_of_delimits {x : Lexer} {names : Option (List String)} {r : Regex}
    {follow : CharSet} {category : String} {word rest : List Char}
    (hr : x.language.Delimits r follow category) (hword : r.Denotes word)
    (hfollow : ∀ c ∈ rest.head?, follow.contains c) (hright : x.language.isWrong category = false)
    (hp : x.language.pipeline = none) (hd : names.getD x.discarded = []) :
    Token.Keeps [⟨category, .ofList word, 0⟩] (x.lexWith (.ofList (word ++ rest)) names) := by
  obtain ⟨hcut, hclass⟩ := hr word rest hword hfollow
  have hn : ∀ ns ∈ names, ∀ n ∈ ns, x.language.hasCategory n := by
    rintro ns rfl n hn
    obtain rfl : ns = [] := hd
    cases hn
  obtain ⟨result, hrest⟩ := x.language.exists_segmentation
    (Token.reach [⟨category, .ofList word, 0⟩]) rest
  have hseg := Segmentation.cons (t := ⟨category, .ofList word, 0⟩)
    (by rwa [String.toList_ofList]) hclass hright hrest
  rw [String.toList_ofList, ← String.toList_ofList (l := word ++ rest)] at hseg
  rw [lexWith_eq_scan hp hn, hd, Language.scan_eq_iff.mpr hseg]
  exact hrest.keeps

namespace Bundled

open LongBrackets

theorem lua_delimits_forms :
    ∃ l, Language.build "lua" lua = .ok l ∧ ∀ f ∈ forms,
      l.Delimits f.regex f.follow f.category ∧ l.isWrong f.category = false := by
  have hbuild : ∃ l, Language.build "lua" lua = .ok l ∧ ∀ f ∈ forms,
      l.delimits f.regex f.follow f.category letters 100 ∧ l.isWrong f.category = false :=
    Language.exists_of_build (by decide +kernel)
  obtain ⟨l, hl, hforms⟩ := hbuild
  exact ⟨l, hl, fun f hf => ⟨Language.delimits_of_sweep (hforms f hf).1, (hforms f hf).2⟩⟩

/-- With nothing discarded, a comment or long string at the start of a text is the first token,
unless the lexer fails behind it. -/
theorem lua_lexWith_opening :
    ∃ l, Language.build "lua" lua = .ok l ∧
      ∀ (x : Lexer) (names : Option (List String)) (text : String) (category : String)
        (word : List Char), x.language = l → names.getD x.discarded = [] →
        opening? text.toList = some (category, word) →
        Token.Keeps [⟨category, .ofList word, 0⟩] (x.lexWith text names) := by
  obtain ⟨l, hl, hforms⟩ := lua_delimits_forms
  refine ⟨l, hl, ?_⟩
  rintro x names text category word rfl hd hopening
  obtain ⟨f, hf, rfl, hword, rest, htext, hfollow⟩ := exists_form hopening
  obtain ⟨hdelimits, hright⟩ := hforms f hf
  have hkeeps := Lexer.keeps_of_delimits hdelimits hword hfollow hright
    (Language.built_of_build hl).pipeline_eq hd
  rwa [← htext, String.ofList_toList] at hkeeps

theorem lua_long_comment_kept :
    ∃ l, Language.build "lua" lua = .ok l ∧
      opening? "--[[é\n]x]]]]--y".toList = some ("comment", "--[[é\n]x]]".toList) ∧
      Token.Keeps [⟨"comment", "--[[é\n]x]]", 0⟩]
        (Lexer.lexWith ⟨l, []⟩ "--[[é\n]x]]]]--y" none) ∧
      Lexer.lexWith ⟨l, []⟩ "--[[é\n]x]]]]--y" none = .ok [⟨"comment", "--[[é\n]x]]", 0⟩,
        ⟨"operator", "]", 11⟩, ⟨"operator", "]", 12⟩, ⟨"comment", "--y", 13⟩] := by
  obtain ⟨l, hl, hkept⟩ := lua_lexWith_opening
  have hbuild : ∃ l, Language.build "lua" lua = .ok l ∧
      Lexer.lexWith ⟨l, []⟩ "--[[é\n]x]]]]--y" none = .ok [⟨"comment", "--[[é\n]x]]", 0⟩,
        ⟨"operator", "]", 11⟩, ⟨"operator", "]", 12⟩, ⟨"comment", "--y", 13⟩] :=
    Language.exists_of_build (by decide +kernel)
  obtain ⟨l', hl', hlex⟩ := hbuild
  obtain rfl : l = l' := Except.ok.inj (hl.symm.trans hl')
  have hopening : opening? "--[[é\n]x]]]]--y".toList =
      some ("comment", "--[[é\n]x]]".toList) := by decide
  exact ⟨l, hl, hopening, hkept ⟨l, []⟩ none _ _ _ rfl rfl hopening, hlex⟩

end Bundled

end Lexicon
