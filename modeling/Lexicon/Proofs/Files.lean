import Mathlib.Data.String.Basic
import Lexicon.Files

namespace Lexicon

namespace Files

open String

theorem splitOnAux_of_not_mem (done rest : List Char) (h : '/' ∉ rest) :
    splitOnAux (ofList (done ++ rest)) "/" 0 ⟨utf8Len done⟩ 0 [] = [ofList (done ++ rest)] := by
  induction rest generalizing done with
  | nil =>
    have hextract : Pos.Raw.extract (ofList done) 0 ⟨utf8Len done⟩ = ofList done := by
      simpa using extract_of_valid [] done []
    rw [splitOnAux]
    simpa using hextract
  | cons c rest ih =>
    rw [List.mem_cons, not_or] at h
    have hend : ¬ (⟨utf8Len done⟩ : Pos.Raw).atEnd (ofList (done ++ c :: rest)) := by
      rw [atEnd_of_valid]
      simp
    have hget : (⟨utf8Len done⟩ : Pos.Raw).get (ofList (done ++ c :: rest)) = c :=
      get_of_valid done (c :: rest)
    have hne : (c == (0 : Pos.Raw).get "/") = false := by
      rw [beq_eq_false_iff_ne]
      exact Ne.symm h.1
    have hnext : ((⟨utf8Len done⟩ : Pos.Raw).unoffsetBy 0).next (ofList (done ++ c :: rest)) =
        ⟨utf8Len (done ++ [c])⟩ := by
      simpa using next_of_valid done c rest
    have hrest := ih (done ++ [c]) h.2
    rw [List.append_assoc, List.singleton_append] at hrest
    rw [splitOnAux, if_neg hend, hget, hne, if_neg (by simp), hnext, hrest]

theorem splitOn_of_not_mem {name : String} (h : '/' ∉ name.toList) : name.splitOn "/" = [name] := by
  have haux := splitOnAux_of_not_mem [] name.toList h
  rw [List.nil_append, ofList_toList] at haux
  exact haux

theorem normal_of_not_mem {name : String} (h : '/' ∉ name.toList) (hne : name ≠ "")
    (hdot : name ≠ ".") : normal name = name := by
  rw [normal, splitOn_of_not_mem h, List.filter_cons_of_pos (by simp [hne, hdot]), List.filter_nil,
    join, String.intercalate_singleton]

end Files

end Lexicon
