import Lexicon.Bundled
import Lexicon.Proofs.Build
import Lexicon.Proofs.Discard
import Lexicon.Proofs.Lexeme

namespace Lexicon.JsonText

open Text

structure Stretch : Type where
  category : String
  word : List Char

def size (w : List Char) : Nat := (String.ofList w).utf8ByteSize

def source (ps : List Stretch) : List Char := ps.flatMap (·.word)

/-- The tokens of a text that starts at byte `start`, without the blanks. -/
def lexemes : Nat → List Stretch → List Token
  | _, [] => []
  | start, p :: ps =>
    let rest := lexemes (start + size p.word) ps
    if p.category = "blank" then rest else ⟨p.category, .ofList p.word, start⟩ :: rest

def digits : List Char := "0123456789".toList

def hexDigits : List Char := "0123456789abcdefABCDEF".toList

def escapes : List Char := "\"\\/bfnrt".toList

def blanks : List Char := " \t\n\r".toList

def marks : List Char := "[]\x7b\x7d,:".toList

def MadeOf (cs w : List Char) : Prop := ∀ c ∈ w, c ∈ cs

instance (cs w : List Char) : Decidable (MadeOf cs w) := List.decidableBAll (· ∈ cs) w

inductive Digits : List Char → Prop
  | mk {c : Char} {w : List Char} : c ∈ digits → MadeOf digits w → Digits (c :: w)

inductive Integer : List Char → Prop
  | zero : Integer ['0']
  | positive {c : Char} {w : List Char} :
      c ∈ digits → c ≠ '0' → MadeOf digits w → Integer (c :: w)

inductive Fraction : List Char → Prop
  | none : Fraction []
  | point {w : List Char} : Digits w → Fraction ('.' :: w)

inductive Exponent : List Char → Prop
  | none : Exponent []
  | plain {e : Char} {w : List Char} : e ∈ ['e', 'E'] → Digits w → Exponent (e :: w)
  | signed {e sign : Char} {w : List Char} :
      e ∈ ['e', 'E'] → sign ∈ ['-', '+'] → Digits w → Exponent (e :: sign :: w)

inductive Number : List Char → Prop
  | plain {i f e : List Char} : Integer i → Fraction f → Exponent e → Number (i ++ (f ++ e))
  | minus {i f e : List Char} :
      Integer i → Fraction f → Exponent e → Number ('-' :: (i ++ (f ++ e)))

inductive Inside : List Char → Prop
  | done : Inside []
  | char {c : Char} {w : List Char} : ' ' ≤ c → c ≠ '"' → c ≠ '\\' → Inside w → Inside (c :: w)
  | escape {c : Char} {w : List Char} : c ∈ escapes → Inside w → Inside ('\\' :: c :: w)
  | unicode {a b c d : Char} {w : List Char} : a ∈ hexDigits → b ∈ hexDigits → c ∈ hexDigits →
      d ∈ hexDigits → Inside w → Inside ('\\' :: 'u' :: a :: b :: c :: d :: w)

inductive Quoted : List Char → Prop
  | mk {w : List Char} : Inside w → Quoted ('"' :: (w ++ ['"']))

inductive Keyword : List Char → Prop
  | mk {w : String} : w ∈ ["true", "false", "null"] → Keyword w.toList

inductive Mark (c : Char) : List Stretch → Prop
  | mk {v w : List Char} : MadeOf blanks v → MadeOf blanks w →
      Mark c [⟨"blank", v⟩, ⟨"punctuation", [c]⟩, ⟨"blank", w⟩]

inductive Symbol : Type
  | text : Symbol
  | value : Symbol
  | member : Symbol
  | series : Symbol → Symbol

inductive Derives : Symbol → List Stretch → Prop
  | text {v w : List Char} {ps : List Stretch} : MadeOf blanks v → Derives .value ps →
      MadeOf blanks w → Derives .text (⟨"blank", v⟩ :: (ps ++ [⟨"blank", w⟩]))
  | keyword {w : List Char} : Keyword w → Derives .value [⟨"keyword", w⟩]
  | number {w : List Char} : Number w → Derives .value [⟨"number", w⟩]
  | string {w : List Char} : Quoted w → Derives .value [⟨"string", w⟩]
  | emptyArray {left right : List Stretch} : Mark '[' left → Mark ']' right →
      Derives .value (left ++ right)
  | array {left ps right : List Stretch} : Mark '[' left → Derives (.series .value) ps →
      Mark ']' right → Derives .value (left ++ (ps ++ right))
  | emptyObject {left right : List Stretch} : Mark '\x7b' left → Mark '\x7d' right →
      Derives .value (left ++ right)
  | object {left ps right : List Stretch} : Mark '\x7b' left → Derives (.series .member) ps →
      Mark '\x7d' right → Derives .value (left ++ (ps ++ right))
  | member {w : List Char} {colon ps : List Stretch} : Quoted w → Mark ':' colon →
      Derives .value ps → Derives .member (⟨"string", w⟩ :: (colon ++ ps))
  | last {s : Symbol} {ps : List Stretch} : Derives s ps → Derives (.series s) ps
  | more {s : Symbol} {ps comma qs : List Stretch} : Derives s ps → Mark ',' comma →
      Derives (.series s) qs → Derives (.series s) (ps ++ (comma ++ qs))

section Denotes

open Regex

variable {w : List Char}

def oneOf (cs : List Char) : Regex := chars (.anyOf cs)

def optional (r : Regex) : Regex := rep r 0 (some 1)

def someDigits : Regex := rep (oneOf digits) 1 none

def integer : Regex :=
  alt (oneOf ['0']) (seq (oneOf (digits.erase '0')) (rep (oneOf digits) 0 none))

def fraction : Regex := optional (seq (oneOf ['.']) someDigits)

def exponent : Regex :=
  optional (seq (oneOf ['e', 'E']) (seq (optional (oneOf ['-', '+'])) someDigits))

def number : Regex := seq (optional (oneOf ['-'])) (seq integer (seq fraction exponent))

def unescaped : Regex := chars (.compl (.union (.range '\x00' '\x1f') (.anyOf ['"', '\\'])))

def escaped : Regex :=
  seq (oneOf ['\\']) (alt (oneOf escapes) (seq (oneOf ['u'])
    (seq (oneOf hexDigits) (seq (oneOf hexDigits) (seq (oneOf hexDigits) (oneOf hexDigits))))))

def quoted : Regex := seq (oneOf ['"']) (seq (rep (alt unescaped escaped) 0 none) (oneOf ['"']))

def keyword : Regex :=
  alt (.word "true".toList) (alt (.word "false".toList) (.word "null".toList))

theorem denotes_oneOf {cs : List Char} {c : Char} (h : c ∈ cs) : (oneOf cs).Denotes [c] :=
  .chars (CharSet.contains_anyOf.mpr h)

theorem denotes_oneOf_cons {cs : List Char} {c : Char} {r : Regex} (h : c ∈ cs)
    (hw : r.Denotes w) : (seq (oneOf cs) r).Denotes (c :: w) :=
  denotes_cons (CharSet.contains_anyOf.mpr h) hw

theorem MadeOf.contains {cs : List Char} (h : MadeOf cs w) :
    ∀ c ∈ w, (CharSet.anyOf cs).contains c := fun c hc =>
  CharSet.contains_anyOf.mpr (h c hc)

theorem Digits.denotes (h : Digits w) : someDigits.Denotes w := by
  obtain ⟨hc, hw⟩ := h
  exact denotes_rep_one_chars (CharSet.contains_anyOf.mpr hc) hw.contains

theorem Integer.denotes (h : Integer w) : integer.Denotes w := by
  cases h with
  | zero => exact .left (denotes_oneOf (by simp))
  | positive hc hne hw =>
    refine .right (denotes_oneOf_cons ((List.mem_erase_of_ne hne).mpr hc) ?_)
    exact denotes_rep_chars hw.contains

theorem Fraction.denotes (h : Fraction w) : fraction.Denotes w := by
  cases h with
  | none => exact .none
  | point hw => exact denotes_option (by simp) (denotes_oneOf_cons (by simp) hw.denotes)

theorem Exponent.denotes (h : Exponent w) : exponent.Denotes w := by
  cases h with
  | none => exact .none
  | plain he hw =>
    exact denotes_option (by simp) (denotes_oneOf_cons he (.seq .none hw.denotes))
  | signed he hsign hw =>
    have hsign := denotes_option (by simp) (denotes_oneOf hsign)
    exact denotes_option (by simp) (denotes_oneOf_cons he (.seq hsign hw.denotes))

theorem Number.denotes (h : Number w) : number.Denotes w := by
  cases h with
  | plain hi hf he => exact .seq (v := []) .none (.seq hi.denotes (.seq hf.denotes he.denotes))
  | minus hi hf he =>
    have hsign := denotes_option (by simp) (denotes_oneOf (List.mem_singleton_self '-'))
    exact .seq hsign (.seq hi.denotes (.seq hf.denotes he.denotes))

theorem denotes_unescaped {c : Char} (hlow : ' ' ≤ c) (hquote : c ≠ '"') (hslash : c ≠ '\\') :
    unescaped.Denotes [c] := by
  have hlow' : ¬ c ≤ '\x1f' := fun h => absurd (Char.le_trans hlow h) (by decide)
  have hany : (CharSet.anyOf ['"', '\\']).contains c = false := by
    simpa [Bool.eq_false_iff, CharSet.contains_anyOf] using ⟨hquote, hslash⟩
  refine .chars ?_
  simp [CharSet.contains, hlow', hany]

theorem Inside.denotes (h : Inside w) : (rep (alt unescaped escaped) 0 none).Denotes w := by
  induction h with
  | done => exact .none
  | char hlow hquote hslash _ ih =>
    exact .more (v := [_]) (by simp) (by simp) (.left (denotes_unescaped hlow hquote hslash)) ih
  | escape hc _ ih =>
    exact .more (v := [_, _]) (by simp) (by simp)
      (.right (denotes_oneOf_cons (by simp) (.left (denotes_oneOf hc)))) ih
  | unicode ha hb hc hd _ ih =>
    exact .more (v := [_, _, _, _, _, _]) (by simp) (by simp)
      (.right (denotes_oneOf_cons (by simp) (.right (denotes_oneOf_cons (by simp)
        (denotes_oneOf_cons ha (denotes_oneOf_cons hb (denotes_oneOf_cons hc
          (denotes_oneOf hd)))))))) ih

theorem Quoted.denotes (h : Quoted w) : quoted.Denotes w := by
  obtain ⟨hw⟩ := h
  exact denotes_oneOf_cons (by simp) (.seq hw.denotes (denotes_oneOf (by simp)))

theorem Keyword.denotes (h : Keyword w) : keyword.Denotes w := by
  obtain ⟨hw⟩ := h
  simp only [List.mem_cons, List.not_mem_nil, or_false] at hw
  rcases hw with rfl | rfl | rfl
  · exact .left (denotes_word _)
  · exact .right (.left (denotes_word _))
  · exact .right (.right (denotes_word _))

end Denotes

def Starts (w : List Char) : Prop := ∃ c v, w = c :: v ∧ isBlank c = false

section Starts

variable {v w : List Char}

theorem Starts.append (h : Starts v) (w : List Char) : Starts (v ++ w) := by
  obtain ⟨c, v, rfl, hc⟩ := h
  exact ⟨c, v ++ w, rfl, hc⟩

theorem starts_of_mem {cs : List Char} {c : Char} (hcs : cs.all (!isBlank ·)) (hc : c ∈ cs)
    (w : List Char) : Starts (c :: w) :=
  ⟨c, w, rfl, by simpa using List.all_eq_true.mp hcs c hc⟩

theorem Integer.starts (h : Integer w) : Starts w := by
  cases h with
  | zero => exact ⟨_, _, rfl, by decide⟩
  | positive hc => exact starts_of_mem (by decide) hc _

theorem Number.starts (h : Number w) : Starts w := by
  cases h with
  | plain hi => exact hi.starts.append _
  | minus => exact ⟨_, _, rfl, by decide⟩

theorem Quoted.starts (h : Quoted w) : Starts w := by
  obtain ⟨-⟩ := h
  exact ⟨_, _, rfl, by decide⟩

theorem Keyword.starts (h : Keyword w) : Starts w := by
  obtain ⟨hw⟩ := h
  simp only [List.mem_cons, List.not_mem_nil, or_false] at hw
  rcases hw with rfl | rfl | rfl
  all_goals exact ⟨_, _, rfl, by decide⟩

end Starts

structure Kind : Type where
  category : String
  words : Regex
  follow : CharSet

def strings : Kind := ⟨"string", quoted, .anyOf (blanks ++ marks)⟩

def numbers : Kind := ⟨"number", number, .anyOf (blanks ++ marks)⟩

def keywords : Kind := ⟨"keyword", keyword, .anyOf (blanks ++ marks)⟩

def punctuation : Kind := ⟨"punctuation", oneOf marks, .all⟩

def whitespace : Kind := ⟨"blank", .rep (oneOf blanks) 1 none, .compl .blank⟩

def kinds : List Kind := [strings, numbers, keywords, punctuation, whitespace]

def Suits (l : Language) : Prop :=
  ∀ k ∈ kinds, l.Delimits k.words k.follow k.category ∧ l.isWrong k.category = false

def Cuts (l : Language) (ps : List Stretch) : Prop :=
  ∀ start v, MadeOf blanks v →
    Segmentation l ["blank"] start (v ++ source ps) (.ok (lexemes (start + size v) ps))

def Follows (ps : List Stretch) : Prop := ∀ c ∈ (source ps).head?, c ∈ blanks ++ marks

variable {l : Language} {ps qs : List Stretch} {w : List Char} {c : Char}

theorem size_append (v w : List Char) : size (v ++ w) = size v + size w := by
  rw [size, String.ofList_append, String.utf8ByteSize_append, size, size]

@[simp] theorem size_nil : size [] = 0 := rfl

@[simp] theorem source_cons (p : Stretch) (ps : List Stretch) :
    source (p :: ps) = p.word ++ source ps := rfl

theorem cuts_of_segmentation (hl : Suits l) (hhead : ∀ c ∈ (source ps).head?, isBlank c = false)
    (h : ∀ start, Segmentation l ["blank"] start (source ps) (.ok (lexemes start ps))) :
    Cuts l ps := by
  intro start v hv
  cases v with
  | nil => exact h start
  | cons c v =>
    obtain ⟨hdelimits, hright⟩ := hl whitespace (by simp [kinds])
    obtain ⟨hc, hv⟩ := List.forall_mem_cons.mp hv.contains
    have hfollow : ∀ c ∈ (source ps).head?, whitespace.follow.contains c := by
      intro c hc
      simp [whitespace, CharSet.contains, hhead c hc]
    exact .of_delimits hdelimits hright (Regex.denotes_rep_one_chars hc hv) hfollow
      (h (start + size (c :: v)))

theorem cuts_nil (hl : Suits l) : Cuts l [] :=
  cuts_of_segmentation hl (by simp [source]) fun _ => .done

theorem Cuts.blank (h : Cuts l ps) (hw : MadeOf blanks w) : Cuts l (⟨"blank", w⟩ :: ps) := by
  intro start v hv
  have hblank : MadeOf blanks (v ++ w) := List.forall_mem_append.mpr ⟨hv, hw⟩
  have hseg := h start (v ++ w) hblank
  rw [List.append_assoc, size_append, ← Nat.add_assoc] at hseg
  exact hseg

theorem Cuts.lexeme {k : Kind} (h : Cuts l ps) (hl : Suits l) (hk : k ∈ kinds)
    (hne : k.category ≠ "blank") (hw : k.words.Denotes w) (hstarts : Starts w)
    (hfollow : ∀ c ∈ (source ps).head?, k.follow.contains c) : Cuts l (⟨k.category, w⟩ :: ps) := by
  obtain ⟨c, v, rfl, hc⟩ := hstarts
  refine cuts_of_segmentation hl (by simpa using hc) fun start => ?_
  obtain ⟨hdelimits, hright⟩ := hl k hk
  have hrest := h (start + size (c :: v)) [] (by simp [MadeOf])
  simpa [lexemes, hne] using Segmentation.of_delimits hdelimits hright hw hfollow hrest

theorem Cuts.value {k : Kind} (h : Cuts l ps) (hl : Suits l)
    (hk : k ∈ [strings, numbers, keywords]) (hw : k.words.Denotes w) (hstarts : Starts w)
    (hfollows : Follows ps) : Cuts l (⟨k.category, w⟩ :: ps) := by
  have hfollow : ∀ c ∈ (source ps).head?, (CharSet.anyOf (blanks ++ marks)).contains c :=
    fun c hc => CharSet.contains_anyOf.mpr (hfollows c hc)
  simp only [List.mem_cons, List.not_mem_nil, or_false] at hk
  rcases hk with rfl | rfl | rfl
  all_goals exact h.lexeme hl (by simp [kinds]) (by decide) hw hstarts hfollow

theorem Follows.blank (h : Follows ps) (hw : MadeOf blanks w) : Follows (⟨"blank", w⟩ :: ps) := by
  cases w with
  | nil => exact h
  | cons c w =>
    intro d hd
    obtain rfl : c = d := by simpa using hd
    exact List.mem_append_left _ (hw c (by simp))

theorem Mark.follows (h : Mark c ps) (hc : c ∈ marks) : Follows (ps ++ qs) := by
  obtain ⟨hv, hw⟩ := h
  refine Follows.blank (fun d hd => ?_) hv
  obtain rfl : c = d := by simpa using hd
  exact List.mem_append_right _ hc

theorem Mark.cuts (h : Mark c ps) (hl : Suits l) (hc : c ∈ marks) (hqs : Cuts l qs) :
    Cuts l (ps ++ qs) := by
  obtain ⟨hv, hw⟩ := h
  have hcut := (hqs.blank hw).lexeme (k := punctuation) hl (by simp [kinds]) (by decide)
    (denotes_oneOf hc) (starts_of_mem (by decide) hc []) (by simp [punctuation])
  exact hcut.blank hv

theorem Derives.cuts {s : Symbol} (h : Derives s ps) (hl : Suits l) (hqs : Cuts l qs)
    (hfollows : Follows qs) : Cuts l (ps ++ qs) := by
  -- What follows decides where a lexeme ends, so the rest of the text is kept general.
  induction h generalizing qs with
  | text hv _ hw ih =>
    have hrest := ih (hqs.blank hw) (hfollows.blank hw)
    simpa using hrest.blank hv
  | keyword hw => exact hqs.value (k := keywords) hl (by simp) hw.denotes hw.starts hfollows
  | number hw => exact hqs.value (k := numbers) hl (by simp) hw.denotes hw.starts hfollows
  | string hw => exact hqs.value (k := strings) hl (by simp) hw.denotes hw.starts hfollows
  | emptyArray hleft hright | emptyObject hleft hright =>
    rw [List.append_assoc]
    exact hleft.cuts hl (by decide) (hright.cuts hl (by decide) hqs)
  | array hleft _ hright ih | object hleft _ hright ih =>
    rw [List.append_assoc, List.append_assoc]
    have hcut := ih (hright.cuts hl (by decide) hqs) (hright.follows (by decide))
    exact hleft.cuts hl (by decide) hcut
  | member hw hcolon _ ih =>
    rw [List.cons_append, List.append_assoc]
    have hcut := hcolon.cuts hl (by decide) (ih hqs hfollows)
    exact hcut.value (k := strings) hl (by simp) hw.denotes hw.starts (hcolon.follows (by decide))
  | last _ ih => exact ih hqs hfollows
  | more _ hcomma _ ihps ihqs =>
    rw [List.append_assoc, List.append_assoc]
    exact ihps (hcomma.cuts hl (by decide) (ihqs hqs hfollows)) (hcomma.follows (by decide))

theorem Derives.segmentation {s : Symbol} (h : Derives s ps) (hl : Suits l) :
    Segmentation l ["blank"] 0 (source ps) (.ok (lexemes 0 ps)) := by
  have hcuts := h.cuts hl (cuts_nil hl) (by simp [Follows, source])
  rw [List.append_nil] at hcuts
  exact hcuts 0 [] (by simp [MadeOf])

end Lexicon.JsonText

namespace Lexicon.Bundled

open JsonText

theorem exists_json : ∃ l, Language.build "json" json = .ok l ∧ Suits l ∧ l.pipeline = none ∧
    l.hasCategory "blank" := by
  have hbuild : ∃ l, Language.build "json" json = .ok l ∧ l.hasCategory "blank" ∧
      ∀ k ∈ kinds, l.delimits k.words k.follow k.category
        "\x01\t\x0b\n !\"+,-./01AE\\abeflnrstu٠\u2003".toList 100 ∧ l.isWrong k.category = false :=
    Language.exists_of_build (by decide +kernel)
  obtain ⟨l, hl, hblank, hkinds⟩ := hbuild
  refine ⟨l, hl, fun k hk => ?_, (Language.built_of_build hl).pipeline_eq, hblank⟩
  exact ⟨Language.delimits_of_sweep (hkinds k hk).1, (hkinds k hk).2⟩

/-- Every text of the grammar is lexed into its lexemes by a lexer that discards the blanks. -/
theorem json_lexWith_eq_lexemes :
    ∃ l, Language.build "json" json = .ok l ∧
      ∀ (x : Lexer) (names : Option (List String)) (ps : List Stretch), x.language = l →
        (∀ n, n ∈ names.getD x.discarded ↔ n = "blank") → Derives .text ps →
        x.lexWith (.ofList (source ps)) names = .ok (lexemes 0 ps) := by
  obtain ⟨l, hl, hsuits, hp, hblank⟩ := exists_json
  refine ⟨l, hl, ?_⟩
  rintro x names ps rfl hd hps
  have hn : ∀ ns ∈ names, ∀ n ∈ ns, x.language.hasCategory n := by
    rintro ns rfl n hn
    rwa [(hd n).mp hn]
  have hwithout : Token.without (names.getD x.discarded) = Token.without ["blank"] := by
    funext tokens
    simp only [Token.without, hd, List.mem_singleton]
  rw [Lexer.lexWith_eq_scan hp hn, Language.scan_eq_map_without, hwithout,
    ← Language.scan_eq_map_without, Language.scan_eq_iff, String.toList_ofList]
  exact hps.segmentation hsuits

theorem json_object_lexemes :
    ∃ l ps, Language.build "json" json = .ok l ∧ Derives .text ps ∧
      .ofList (source ps) = "\t\x7b\"é\\\"\\u00e9\" :[-0.5E+10,\r\n[ ]\n,true]\x7d" ∧
      Lexer.lexWith ⟨l, ["blank"]⟩ (.ofList (source ps)) none =
        .ok [⟨"punctuation", "\x7b", 1⟩, ⟨"string", "\"é\\\"\\u00e9\"", 2⟩,
          ⟨"punctuation", ":", 15⟩, ⟨"punctuation", "[", 16⟩, ⟨"number", "-0.5E+10", 17⟩,
          ⟨"punctuation", ",", 25⟩, ⟨"punctuation", "[", 28⟩, ⟨"punctuation", "]", 30⟩,
          ⟨"punctuation", ",", 32⟩, ⟨"keyword", "true", 33⟩, ⟨"punctuation", "]", 37⟩,
          ⟨"punctuation", "\x7d", 38⟩] := by
  obtain ⟨l, hl, hlex⟩ := json_lexWith_eq_lexemes
  have hmark : ∀ c, Mark c [⟨"blank", []⟩, ⟨"punctuation", [c]⟩, ⟨"blank", []⟩] := fun c =>
    .mk (by decide) (by decide)
  have hname : Quoted "\"é\\\"\\u00e9\"".toList :=
    .mk (.char (by decide) (by decide) (by decide) (.escape (by decide)
      (.unicode (by decide) (by decide) (by decide) (by decide) .done)))
  have hfraction : Fraction ".5".toList := .point (.mk (by decide) (by decide))
  have hexponent : Exponent "E+10".toList :=
    .signed (by decide) (by decide) (.mk (by decide) (by decide))
  have hnumber := Number.minus .zero hfraction hexponent
  have hcolon : Mark ':' [⟨"blank", [' ']⟩, ⟨"punctuation", [':']⟩, ⟨"blank", []⟩] :=
    .mk (by decide) (by decide)
  have hcomma : Mark ',' [⟨"blank", []⟩, ⟨"punctuation", [',']⟩, ⟨"blank", ['\r', '\n']⟩] :=
    .mk (by decide) (by decide)
  have hleft : Mark '[' [⟨"blank", []⟩, ⟨"punctuation", ['[']⟩, ⟨"blank", [' ']⟩] :=
    .mk (by decide) (by decide)
  have hright : Mark ']' [⟨"blank", []⟩, ⟨"punctuation", [']']⟩, ⟨"blank", ['\n']⟩] :=
    .mk (by decide) (by decide)
  have hkeyword : Keyword "true".toList := .mk (by decide)
  have harray := Derives.array (hmark '[') (.more (.number hnumber) hcomma
    (.more (.emptyArray hleft hright) (hmark ',') (.last (.keyword hkeyword)))) (hmark ']')
  have htab : MadeOf blanks ['\t'] := by decide
  have hnone : MadeOf blanks [] := by decide
  have hps := Derives.text htab
    (.object (hmark '\x7b') (.last (.member hname hcolon harray)) (hmark '\x7d')) hnone
  refine ⟨l, _, hl, hps, by decide, ?_⟩
  rw [hlex ⟨l, ["blank"]⟩ none _ rfl (by simp) hps]
  decide

end Lexicon.Bundled
