import Mathlib.Data.List.SplitBy
import Lexicon.Proofs.Bundled.Markup
import Lexicon.Proofs.Lexeme
import Lexicon.Proofs.Stage.Relabel

namespace Lexicon.EscapedText

def signs : List Char := "|*/@\\#".toList

def escape (text : List Char) : List Char :=
  text.flatMap fun c => if c ∈ signs then ['\\', c] else [c]

def alike (a b : Char) : Bool := a = '\n' ↔ b = '\n'

def runs (text : List Char) : List (List Char) := text.splitBy alike

def category (run : List Char) : String :=
  if '\n' ∉ run then "normal" else if run.length = 1 then "newline" else "paragraph"

def token (start : Nat) (run : List Char) : Token := ⟨category run, .ofList run, start⟩

def tokensFrom : Nat → List (List Char) → List Token
  | _, [] => []
  | start, run :: rest => token start run :: tokensFrom (start + (token start run).size) rest

section Runs

variable {w v rest : List Char} {vs : List (List Char)} {start : Nat}

theorem alike_iff {a b : Char} : alike a b ↔ (a = '\n' ↔ b = '\n') := by
  simp [alike]

theorem category_eq_normal_iff : category w = "normal" ↔ '\n' ∉ w := by
  unfold category
  split
  · simp_all
  · split <;> simp_all

theorem runs_append (hne : w ≠ []) (hw : ∀ a ∈ w, ∀ b ∈ w, alike a b)
    (h : ∀ a ∈ w, ∀ b ∈ rest.head?, alike a b = false) : runs (w ++ rest) = w :: runs rest := by
  have hapart : ∀ a ∈ w.getLast?, ∀ b ∈ rest.head?, alike a b = false := fun a ha =>
    h a (List.mem_of_getLast? ha)
  have hchain := (List.pairwise_of_forall_mem_list hw).isChain
  rw [runs, List.splitBy_append hapart, List.splitBy_of_isChain hne hchain]
  rfl

theorem not_mem_of_isChain (h : w.IsChain (alike · ·)) (hhead : ∀ c ∈ w.head?, c ≠ '\n') :
    '\n' ∉ w := by
  induction w with
  | nil => simp
  | cons c w ih =>
    have hc : c ≠ '\n' := hhead c rfl
    rw [List.isChain_cons] at h
    have hw := ih h.2 fun d hd => mt (alike_iff.mp (h.1 d hd)).mpr hc
    simpa [hw] using Ne.symm hc

theorem exists_runs_eq_cons {c : Char} (hc : c ∈ rest.head?) :
    ∃ v vs, runs rest = v :: vs ∧ c ∈ v.head? := by
  cases hruns : runs rest with
  | nil =>
    obtain rfl : rest = [] := List.splitBy_eq_nil.mp hruns
    cases hc
  | cons v vs =>
    obtain ⟨hrest, hnil, -⟩ := List.splitBy_eq_iff.mp hruns
    have hv : v ≠ [] := fun h => hnil (by simp [h])
    rw [hrest, List.flatten_cons] at hc
    refine ⟨v, vs, rfl, ?_⟩
    simpa [List.head?_append, List.head?_eq_some_head hv] using hc

theorem runs_append_of_eq_cons (hruns : runs rest = v :: vs) (hv : '\n' ∉ v) (hw : '\n' ∉ w) :
    runs (w ++ rest) = (w ++ v) :: vs := by
  obtain ⟨hrest, hnil, hchains, hapart⟩ := List.splitBy_eq_iff.mp hruns
  have hne : v ≠ [] := fun h => hnil (by simp [h])
  refine List.splitBy_eq_iff.mpr ⟨?_, ?_, ?_, ?_⟩
  · rw [hrest, List.flatten_cons, List.flatten_cons, List.append_assoc]
  · simp only [List.mem_cons, not_or] at hnil ⊢
    exact ⟨fun h => hne (List.append_eq_nil_iff.mp h.symm).2, hnil.2⟩
  · intro m hm
    rcases List.mem_cons.mp hm with rfl | hm
    · refine (List.pairwise_of_forall_mem_list fun a ha b hb => ?_).isChain
      have hall : '\n' ∉ w ++ v := by simp [hw, hv]
      exact alike_iff.mpr ⟨fun h => absurd (h ▸ ha) hall, fun h => absurd (h ▸ hb) hall⟩
    · exact hchains m (List.mem_cons_of_mem v hm)
  · rw [List.isChain_cons] at hapart ⊢
    refine ⟨fun m hm => ?_, hapart.2⟩
    obtain ⟨ha, hb, halike⟩ := hapart.1 m hm
    exact ⟨by simp [hne], hb, by rwa [List.getLast_append_of_ne_nil _ hne]⟩

theorem size_token_append : (token start (w ++ v)).size = (token start w).size +
    (token (start + (token start w).size) v).size := by
  simp [token, Token.size, String.ofList_append, String.utf8ByteSize_append]

theorem tokensFrom_runs_of_apart (hne : w ≠ []) (hw : ∀ a ∈ w, ∀ b ∈ w, alike a b)
    (h : ∀ a ∈ w, ∀ b ∈ rest.head?, alike a b = false) (start : Nat) :
    tokensFrom start (runs (w ++ rest)) = Merge.cons "normal" (token start w)
      (tokensFrom (start + (token start w).size) (runs rest)) := by
  rw [runs_append hne hw h]
  cases hhead : rest.head? with
  | none =>
    obtain rfl := List.head?_eq_none_iff.mp hhead
    rfl
  | some c =>
    obtain ⟨v, vs, hruns, hv⟩ := exists_runs_eq_cons (Option.mem_def.mpr hhead)
    have hcategory : ¬ (category w = "normal" ∧ category v = "normal") := by
      rintro ⟨hwn, hvn⟩
      rw [category_eq_normal_iff] at hwn hvn
      obtain ⟨a, ha⟩ := List.exists_mem_of_ne_nil w hne
      have halike := h a ha c (Option.mem_def.mpr hhead)
      have hane : a ≠ '\n' := fun heq => hwn (heq ▸ ha)
      have hcne : c ≠ '\n' := fun heq => hvn (heq ▸ List.mem_of_head? hv)
      simp [alike, hane, hcne] at halike
    rw [hruns]
    exact (if_neg hcategory).symm

theorem tokensFrom_runs_of_joined (hw : '\n' ∉ w) {c : Char} (hc : c ∈ rest.head?) (hne : c ≠ '\n')
    (start : Nat) :
    tokensFrom start (runs (w ++ rest)) = Merge.cons "normal" (token start w)
      (tokensFrom (start + (token start w).size) (runs rest)) := by
  obtain ⟨v, vs, hruns, hv⟩ := exists_runs_eq_cons hc
  have hplain : '\n' ∉ v := by
    refine not_mem_of_isChain ((List.splitBy_eq_iff.mp hruns).2.2.1 v (by simp)) fun d hd => ?_
    rwa [Option.mem_unique hd hv]
  have hjoined : token start (w ++ v) = { token start w with
      text := (token start w).text ++ (token (start + (token start w).size) v).text } := by
    simp [token, category, hw, hplain, String.ofList_append]
  have hnormal : (token start w).category = "normal" ∧
      (token (start + (token start w).size) v).category = "normal" :=
    ⟨category_eq_normal_iff.mpr hw, category_eq_normal_iff.mpr hplain⟩
  rw [runs_append_of_eq_cons hruns hplain hw, hruns, tokensFrom, tokensFrom, Merge.cons,
    if_pos hnormal, size_token_append, Nat.add_assoc, hjoined]

theorem tokensFrom_runs_append (hne : w ≠ [])
    (h : '\n' ∉ w ∨ (∀ c ∈ w, c = '\n') ∧ ∀ c ∈ rest.head?, c ≠ '\n') (start : Nat) :
    tokensFrom start (runs (w ++ rest)) = Merge.cons "normal" (token start w)
      (tokensFrom (start + (token start w).size) (runs rest)) := by
  rcases h with hplain | ⟨hbreaks, hrest⟩
  · have hw : ∀ a ∈ w, a ≠ '\n' := fun a ha heq => hplain (heq ▸ ha)
    by_cases hjoined : ∃ c ∈ rest.head?, c ≠ '\n'
    · obtain ⟨c, hc, hcne⟩ := hjoined
      exact tokensFrom_runs_of_joined hplain hc hcne start
    · refine tokensFrom_runs_of_apart hne (fun a ha b hb => ?_) (fun a ha b hb => ?_) start
      · simp [alike, hw a ha, hw b hb]
      · have hb : b = '\n' := Classical.not_not.mp fun hne => hjoined ⟨b, hb, hne⟩
        simp [alike, hw a ha, hb]
  · refine tokensFrom_runs_of_apart hne (fun a ha b hb => ?_) (fun a ha b hb => ?_) start
    · simp [alike, hbreaks a ha, hbreaks b hb]
    · simp [alike, hbreaks a ha, hrest b hb]

end Runs

section Escape

variable {c : Char} {w text : List Char}

theorem escape_cons_of_mem (hc : c ∈ signs) : escape (c :: text) = ['\\', c] ++ escape text := by
  simp [escape, hc]

theorem escape_append_of_not_mem (hw : ∀ c ∈ w, c ∉ signs) :
    escape (w ++ text) = w ++ escape text := by
  have hself : (w.flatMap fun c => if c ∈ signs then ['\\', c] else [c]) = w := by
    rw [List.flatMap_congr fun c hc => if_neg (hw c hc), List.flatMap_singleton']
  rw [escape, List.flatMap_append, hself]
  rfl

theorem eq_or_mem_of_head?_escape {d : Char} (hd : d ∈ (escape text).head?) :
    d = '\\' ∨ d ∈ text.head? := by
  cases text with
  | nil => cases hd
  | cons c text =>
    by_cases hc : c ∈ signs
    · exact .inl (by simpa [escape, hc] using hd.symm)
    · exact .inr (by simpa [escape, hc] using hd)

theorem exists_run {p : Char → Bool} (hc : p c) (text : List Char) :
    ∃ w rest, c :: text = w ++ rest ∧ w ≠ [] ∧ (∀ d ∈ w, p d) ∧ (∀ d ∈ rest.head?, p d = false) ∧
      rest.length < (c :: text).length := by
  refine ⟨(c :: text).takeWhile p, (c :: text).dropWhile p,
    List.takeWhile_append_dropWhile.symm, by simp [hc],
    List.all_eq_true.mp List.all_takeWhile, ?_, ?_⟩
  · intro d hd
    have hnot := List.head?_dropWhile_not p (c :: text)
    rw [Option.mem_def.mp hd] at hnot
    simpa using hnot
  · rw [List.dropWhile_cons_of_pos hc]
    exact Nat.lt_succ_of_le (List.dropWhile_sublist p).length_le

theorem escape_induction {motive : List Char → Prop} (nil : motive [])
    (sign : ∀ c text, c ∈ signs → motive text → motive (c :: text))
    (breaks : ∀ w text, w ≠ [] → (∀ c ∈ w, c = '\n') → (∀ c ∈ text.head?, c ≠ '\n') →
      motive text → motive (w ++ text))
    (plain : ∀ w text, w ≠ [] → (∀ c ∈ w, c ∉ '\n' :: signs) →
      (∀ c ∈ text.head?, c ∈ '\n' :: signs) → motive text → motive (w ++ text))
    (text : List Char) : motive text := by
  induction hlength : text.length using Nat.strongRecOn generalizing text with
  | _ k ih =>
    subst hlength
    cases text with
    | nil => exact nil
    | cons c text =>
      by_cases hsign : c ∈ signs
      · exact sign c text hsign (ih text.length (Nat.lt_succ_self _) text rfl)
      · by_cases hbreak : c = '\n'
        · obtain ⟨w, rest, htext, hne, hw, hrest, hlt⟩ :=
            exists_run (p := (· = '\n')) (by simpa using hbreak) text
          rw [htext]
          exact breaks w rest hne (by simpa using hw) (by simpa using hrest)
            (ih rest.length hlt rest rfl)
        · obtain ⟨w, rest, htext, hne, hw, hrest, hlt⟩ :=
            exists_run (c := c) (p := (· ∉ '\n' :: signs)) (by simp [hbreak, hsign]) text
          rw [htext]
          exact plain w rest hne (by simpa using hw)
            (fun d hd => Classical.not_not.mp (of_decide_eq_false (hrest d hd)))
            (ih rest.length hlt rest rfl)

end Escape

end Lexicon.EscapedText

namespace Lexicon.Bundled

open EscapedText Regex

def plain : CharSet := .compl (.anyOf ('\n' :: signs))

def escapes : Regex := seq (chars (.single '\\')) (chars (.anyOf signs))

def newlines : Regex := chars (.single '\n')

def paragraphs : Regex := seq newlines (rep newlines 1 none)

def ReadsRuns (l : Language) (text : List Char) : Prop :=
  ∀ start last, ∃ tokens, Segmentation l [] start text (.ok tokens) ∧
    Merge.apply "normal" (markupSplice.relabelFrom last tokens) = tokensFrom start (runs text)

variable {l : Language} {w rest : List Char} {r : Regex} {follow : CharSet} {name : String}

theorem relabelled_markup (hname : name ∈ ["escape", "normal", "newline", "paragraph"])
    (last : Option Token) (text : String) (start : Nat) :
    markupSplice.relabelled last ⟨name, text, start⟩ =
      ⟨if name = "escape" then "normal" else name, text, start⟩ := by
  simp only [List.mem_cons, List.not_mem_nil, or_false] at hname
  rcases hname with rfl | rfl | rfl | rfl
  all_goals simp [Splice.relabelled, Splice.special, markupSplice]

theorem ReadsRuns.append (h : ReadsRuns l rest) (hdelimits : l.Delimits r follow name)
    (hright : l.isWrong name = false) (hdenotes : r.Denotes w)
    (hfollow : ∀ c ∈ rest.head?, follow.contains c)
    (hname : name ∈ ["escape", "normal", "newline", "paragraph"])
    (hcategory : (if name = "escape" then "normal" else name) = category w) (hne : w ≠ [])
    (hw : '\n' ∉ w ∨ (∀ c ∈ w, c = '\n') ∧ ∀ c ∈ rest.head?, c ≠ '\n') :
    ReadsRuns l (w ++ rest) := by
  intro start last
  have hrelabelled := relabelled_markup hname last (.ofList w) start
  rw [hcategory] at hrelabelled
  obtain ⟨tokens, hseg, hmerge⟩ := h (start + (token start w).size) (some (token start w))
  refine ⟨⟨name, .ofList w, start⟩ :: tokens, ?_, ?_⟩
  · simpa using Segmentation.of_delimits hdelimits hright hdenotes hfollow hseg
  · rw [Splice.relabelFrom, hrelabelled, Merge.apply, Merge.applyFrom_eq_cons,
      tokensFrom_runs_append hne hw, ← hmerge]
    rfl

/-- What an escaped text is made of is cut off where it ends. -/
structure CutsEscaped (l : Language) : Prop where
  escape : l.Delimits escapes .all "escape"
  plain : l.Delimits (rep (chars plain) 1 none) (.compl plain) "normal"
  newline : l.Delimits newlines (.compl (.single '\n')) "newline"
  paragraph : l.Delimits paragraphs (.compl (.single '\n')) "paragraph"
  right : l.wrong = []

theorem ReadsRuns.breaks (h : ReadsRuns l rest) (hl : CutsEscaped l) (hne : w ≠ [])
    (hw : ∀ c ∈ w, c = '\n') (hrest : ∀ c ∈ rest.head?, c ≠ '\n') : ReadsRuns l (w ++ rest) := by
  have hright : ∀ name, l.isWrong name = false := by simp [Language.isWrong, hl.right]
  have hfollow : ∀ c ∈ rest.head?, (CharSet.compl (.single '\n')).contains c := by
    intro c hc
    simp [CharSet.contains, Ne.symm (hrest c hc)]
  cases w with
  | nil => exact absurd rfl hne
  | cons c w =>
    obtain rfl : c = '\n' := hw c (by simp)
    cases w with
    | nil =>
      exact h.append hl.newline (hright _) (.chars (by simp)) hfollow (by simp) (by simp [category])
        (by simp) (.inr ⟨hw, hrest⟩)
    | cons d w =>
      have hdenotes : paragraphs.Denotes ('\n' :: d :: w) := by
        simp only [List.forall_mem_cons] at hw
        exact denotes_cons (by simp) (denotes_rep_one_chars (by simp [hw.2.1])
          fun e he => by simp [hw.2.2 e he])
      exact h.append hl.paragraph (hright _) hdenotes hfollow (by simp) (by simp [category])
        (by simp) (.inr ⟨hw, hrest⟩)

theorem readsRuns_escape (hl : CutsEscaped l) (text : List Char) : ReadsRuns l (escape text) := by
  have hright : ∀ name, l.isWrong name = false := by simp [Language.isWrong, hl.right]
  induction text using escape_induction with
  | nil => exact fun start last => ⟨[], .done, rfl⟩
  | sign c text hc ih =>
    have hne : '\n' ≠ c := by
      rintro rfl
      exact absurd hc (by decide)
    have hdenotes : escapes.Denotes ['\\', c] :=
      denotes_cons (by simp) (.chars (CharSet.contains_anyOf.mpr hc))
    rw [escape_cons_of_mem hc]
    exact ih.append hl.escape (hright _) hdenotes (by simp) (by simp) (by simp [category, hne])
      (by simp) (.inl (by simp [hne]))
  | breaks w text hne hw hhead ih =>
    rw [escape_append_of_not_mem fun c hc => by rw [hw c hc]; decide]
    refine ih.breaks hl hne hw fun c hc => ?_
    rcases eq_or_mem_of_head?_escape hc with rfl | hc
    · decide
    · exact hhead c hc
  | plain w text hne hw hhead ih =>
    have hbreak : '\n' ∉ w := fun h => hw _ h List.mem_cons_self
    have hcontains : ∀ c, plain.contains c ↔ c ∉ '\n' :: signs := by
      intro c
      rw [plain, CharSet.contains, Bool.not_eq_true', Bool.eq_false_iff, Ne,
        CharSet.contains_anyOf]
    have hdenotes : (rep (chars plain) 1 none).Denotes w := by
      cases w with
      | nil => exact absurd rfl hne
      | cons c w =>
        exact denotes_rep_one_chars ((hcontains c).mpr (hw c (by simp)))
          fun d hd => (hcontains d).mpr (hw d (by simp [hd]))
    rw [escape_append_of_not_mem fun c hc h => hw c hc (List.mem_cons_of_mem _ h)]
    refine ih.append hl.plain (hright _) hdenotes (fun c hc => ?_) (by simp)
      (by simp [category, hbreak]) hne (.inl hbreak)
    have hmem : c ∈ '\n' :: signs := by
      rcases eq_or_mem_of_head?_escape hc with rfl | hc
      · decide
      · exact hhead c hc
    rw [CharSet.contains, Bool.not_eq_true', Bool.eq_false_iff, Ne, hcontains]
    exact not_not.mpr hmem

theorem exists_cutsEscaped : ∃ l, Language.build "markup" markup = .ok l ∧ CutsEscaped l := by
  have hbuild : ∃ l, Language.build "markup" markup = .ok l ∧
      l.delimits escapes .all "escape" "\n|*/@\\#-a".toList 100 ∧
      l.delimits (rep (chars plain) 1 none) (.compl plain) "normal" "\n|*/@\\#-a".toList 100 ∧
      l.delimits newlines (.compl (.single '\n')) "newline" "\n|*/@\\#-a".toList 100 ∧
      l.delimits paragraphs (.compl (.single '\n')) "paragraph" "\n|*/@\\#-a".toList 100 :=
    Language.exists_of_build (by decide +kernel)
  obtain ⟨l, hl, hescape, hplain, hnewline, hparagraph⟩ := hbuild
  exact ⟨l, hl, Language.delimits_of_sweep hescape, Language.delimits_of_sweep hplain,
    Language.delimits_of_sweep hnewline, Language.delimits_of_sweep hparagraph,
    (Language.built_of_build hl).wrong_eq⟩

theorem category_of_mem_tokensFrom {start : Nat} {words : List (List Char)} {t : Token}
    (ht : t ∈ tokensFrom start words) : t.category ∈ ["normal", "newline", "paragraph"] := by
  induction words generalizing start with
  | nil => cases ht
  | cons w words ih =>
    rcases List.mem_cons.mp ht with rfl | ht
    · simp only [token, category]
      split
      · simp
      · split <;> simp
    · exact ih ht

theorem table_tokensFrom (start : Nat) (words : List (List Char)) :
    Table.apply {} (tokensFrom start words) = .ok (tokensFrom start words) := by
  apply Table.apply_eq_self
  · intro t ht
    have hcategory := category_of_mem_tokensFrom ht
    constructor <;> intro heq <;> simp [heq] at hcategory
  · intro t ht heq
    have hcategory := category_of_mem_tokensFrom ht
    simp [heq] at hcategory

/-- An escaped text, with nothing discarded, is lexed into its runs: a stretch without a line feed is
text, a single line feed is a newline, and several of them are a paragraph. -/
theorem markup_lexWith_escape :
    ∃ l, Language.build "markup" markup = .ok l ∧
      ∀ (x : Lexer) (names : Option (List String)) (text : String), x.language = l →
        names.getD x.discarded = [] →
        x.lexWith (.ofList (escape text.toList)) names =
          .ok (tokensFrom 0 (runs (escape text.toList))) := by
  obtain ⟨l, hl, hcuts⟩ := exists_cutsEscaped
  refine ⟨l, hl, ?_⟩
  rintro x names text rfl hd
  obtain ⟨scanned, hseg, hmerge⟩ := readsRuns_escape hcuts text.toList 0 none
  have hscan : x.language.scan [] (.ofList (escape text.toList)) = .ok scanned :=
    Language.scan_eq_iff.mpr (by rwa [String.toList_ofList])
  refine lexWith_eq_ok (isMarkup_of_build hl) (by simp [hd]) hscan rfl ?_
  have hkept : Token.without (names.getD x.discarded) scanned = scanned := by
    simp [Token.without, hd]
  have hspliced := (markupSplice.yields_applyFrom none scanned).merge_eq
  rw [hkept, ← table_tokensFrom 0 (runs (escape text.toList)), ← hmerge]
  exact congrArg _ hspliced

theorem markup_signs_escaped :
    ∃ l, Language.build "markup" markup = .ok l ∧
      escape "#é|--\n\n\\\n**".toList = "\\#é\\|--\n\n\\\\\n\\*\\*".toList ∧
      Lexer.lexWith ⟨l, []⟩ "\\#é\\|--\n\n\\\\\n\\*\\*" none =
        .ok [⟨"normal", "\\#é\\|--", 0⟩, ⟨"paragraph", "\n\n", 8⟩, ⟨"normal", "\\\\", 10⟩,
          ⟨"newline", "\n", 12⟩, ⟨"normal", "\\*\\*", 13⟩] := by
  obtain ⟨l, hl, hlex⟩ := markup_lexWith_escape
  refine ⟨l, hl, by decide, ?_⟩
  have hescaped := hlex ⟨l, []⟩ none "#é|--\n\n\\\n**" rfl rfl
  have htext : String.ofList (escape "#é|--\n\n\\\n**".toList) =
      "\\#é\\|--\n\n\\\\\n\\*\\*" := by decide
  have htokens : tokensFrom 0 (runs (escape "#é|--\n\n\\\n**".toList)) =
      [⟨"normal", "\\#é\\|--", 0⟩, ⟨"paragraph", "\n\n", 8⟩, ⟨"normal", "\\\\", 10⟩,
        ⟨"newline", "\n", 12⟩, ⟨"normal", "\\*\\*", 13⟩] := by decide
  rwa [htext, htokens] at hescaped

end Lexicon.Bundled
