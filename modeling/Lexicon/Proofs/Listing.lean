import Lexicon.CommandLine
import Lexicon.Proofs.Quoted

namespace Lexicon.Listing

open Text Html

def lines (listing : String) : List (List Char) := (listing.toList.splitOn '\n').dropLast

def readLine (cs : List Char) : Option Token := do
  let (start, cs) ← cutAt '\t' cs
  let (category, cs) ← cutAt '\t' cs
  match ← Quoted.read cs with
  | (text, []) => some ⟨.ofList category, .ofList text, Numeral.ofDigits start⟩
  | _ => none

def record (t : Token) : List Char :=
  Nat.toDigits 10 t.start ++ '\t' :: (t.category.toList ++ '\t' :: Quoted.encode t.text.toList)

def Listable (t : Token) : Prop := '\t' ∉ t.category.toList ∧ '\n' ∉ t.category.toList

variable {t : Token} {tokens : List Token}

theorem not_mem_digits {c : Char} (hc : c.isDigit = false) (n : Nat) : c ∉ Nat.toDigits 10 n := by
  intro h
  have hdigit := Nat.isDigit_of_mem_toDigits (by decide) (by decide) h
  simp [hc] at hdigit

theorem toList_line (t : Token) : (line t).toList = record t ++ ['\n'] := by
  have hline : line t =
      toString t.start ++ "\t" ++ t.category ++ "\t" ++ quoted t.text ++ "\n" := rfl
  simp [hline, record, quoted]

theorem lineFeed_not_mem_record (h : Listable t) : '\n' ∉ record t := by
  have hstart := not_mem_digits (c := '\n') (by decide) t.start
  have htext := Quoted.lineFeed_not_mem_encode t.text.toList
  simp [record, hstart, h.2, htext]

theorem readLine_record (h : Listable t) : readLine (record t) = some t := by
  have hstart := not_mem_digits (c := '\t') (by decide) t.start
  have hdigits : Numeral.ofDigits (Nat.toDigits 10 t.start) = t.start :=
    Nat.ofDigitChars_ten_toDigits
  have htext : Quoted.read (Quoted.encode t.text.toList) = some (t.text.toList, []) := by
    simpa using Quoted.read_encode_append t.text.toList []
  simp [record, readLine, cutAt_append hstart, cutAt_append h.1, htext, hdigits]

theorem splitOn_render (h : ∀ t ∈ tokens, Listable t) :
    (render tokens).toList.splitOn '\n' = tokens.map record ++ [[]] := by
  induction tokens with
  | nil => rfl
  | cons t tokens ih =>
    rw [List.forall_mem_cons] at h
    have hrest : (render (t :: tokens)).toList = record t ++ '\n' :: (render tokens).toList := by
      simp [render, toList_line]
    have hrecord : ∀ c ∈ record t, (c == '\n') = false := by
      intro c hc
      simpa using ne_of_mem_of_not_mem hc (lineFeed_not_mem_record h.1)
    rw [hrest, List.splitOn, List.splitOnP_append_cons_of_forall_mem hrecord _ (by decide),
      ← List.splitOn, ih h.2]
    rfl

theorem map_readLine_lines (h : ∀ t ∈ tokens, Listable t) :
    (lines (render tokens)).map readLine = tokens.map some := by
  rw [lines, splitOn_render h, List.dropLast_concat, List.map_map, List.map_inj_left]
  exact fun t ht => readLine_record (h t ht)

def read (listing : String) : Option (List Token) :=
  if (listing.toList.splitOn '\n').getLast? = some [] then (lines listing).mapM readLine else none

theorem read_render (h : ∀ t ∈ tokens, Listable t) : read (render tokens) = some tokens := by
  rw [read, lines, splitOn_render h, List.getLast?_concat, List.dropLast_concat, if_pos rfl]
  exact mapM_map_eq_some fun t ht => readLine_record (h t ht)

/-- A listing has one line for each token, whatever its text, and each line gives back its token, so
that two lists of tokens have the same listing only if they are the same. -/
theorem lines_render (c : Settings) (annotate : Bool) (a b : List Token)
    (ha : ∀ t ∈ a, Listable t) (hb : ∀ t ∈ b, Listable t) :
    (lines (CommandLine.Format.tokens.render c annotate a)).map readLine = a.map some ∧
    (CommandLine.Format.tokens.render c annotate a =
      CommandLine.Format.tokens.render c annotate b → a = b) := by
  refine ⟨map_readLine_lines ha, fun h => ?_⟩
  have hlists : a.map some = b.map some :=
    calc a.map some = (lines (render a)).map readLine := (map_readLine_lines ha).symm
      _ = (lines (render b)).map readLine := by rw [show render a = render b from h]
      _ = b.map some := map_readLine_lines hb
  exact (List.map_inj_right fun _ _ => Option.some.inj).mp hlists

def controls : List Token :=
  [⟨"string", "\"\t\r\n\x00", 0⟩, ⟨"string", "\\n\t", 5⟩, ⟨"blank", "\u200b\u0301 ", 10⟩]

theorem controls_lines :
    (∀ t ∈ controls, Listable t) ∧
    CommandLine.Format.tokens.render ⟨⟨"", 0⟩, ⟨[], false⟩, []⟩ false controls =
      "0\tstring\t\"\\\"\\t\\r\\n\\0\"\n" ++ "5\tstring\t\"\\\\n\\t\"\n" ++
        "10\tblank\t\"\\u\x7b200b\x7d\\u\x7b301\x7d \"\n" ∧
    (lines (CommandLine.Format.tokens.render ⟨⟨"", 0⟩, ⟨[], false⟩, []⟩ false controls)).map
      readLine = controls.map some := by
  have hlistable : ∀ t ∈ controls, Listable t := by unfold Listable; decide
  exact ⟨hlistable, by decide +kernel,
    (lines_render ⟨⟨"", 0⟩, ⟨[], false⟩, []⟩ false controls controls hlistable hlistable).1⟩

end Lexicon.Listing
