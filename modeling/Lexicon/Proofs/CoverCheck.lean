import Lexicon.Proofs.Coverage

namespace Lexicon

/-! ## Slices -/

namespace Text

inductive NoSlice : Type
  | outOfRange : NoSlice
  | reversed : NoSlice
  | insideCharacter : NoSlice
  deriving DecidableEq

def slice (s : String) (start stop : Nat) : Except NoSlice ByteArray :=
  if s.utf8ByteSize < start ∨ s.utf8ByteSize < stop then .error .outOfRange
  else if stop < start then .error .reversed
  else if String.Pos.Raw.isValid s ⟨start⟩ && String.Pos.Raw.isValid s ⟨stop⟩ then
    .ok (s.toByteArray.extract start stop)
  else .error .insideCharacter

theorem exists_eq_append_of_le {a b c d : String} (h : a ++ b = c ++ d)
    (hle : a.utf8ByteSize ≤ c.utf8ByteSize) : ∃ x, c = a ++ x ∧ b = x ++ d := by
  have hlist : a.toList ++ b.toList = c.toList ++ d.toList := by
    simpa using congrArg String.toList h
  rcases List.append_eq_append_iff.mp hlist with ⟨x, hc, hb⟩ | ⟨x, ha, hd⟩
  · refine ⟨.ofList x, ?_, ?_⟩
    · rw [← String.toList_inj, String.toList_append, String.toList_ofList, hc]
    · rw [← String.toList_inj, String.toList_append, String.toList_ofList, hb]
  · have hac : a = c ++ .ofList x := by
      rw [← String.toList_inj, String.toList_append, String.toList_ofList, ha]
    have hempty : String.ofList x = "" := by
      rw [hac, String.utf8ByteSize_append] at hle
      exact String.utf8ByteSize_eq_zero_iff.mp (by omega)
    have hac' : a = c := by rw [hac, hempty, String.append_empty]
    refine ⟨"", by rw [hac', String.append_empty], ?_⟩
    rw [hac'] at h
    rw [String.empty_append]
    exact String.append_right_inj c |>.mp h

theorem eq_of_append_eq {a b c d : String} (h : a ++ b = c ++ d)
    (hsize : a.utf8ByteSize = c.utf8ByteSize) : b = d := by
  obtain ⟨x, rfl, rfl⟩ := exists_eq_append_of_le h (Nat.le_of_eq hsize)
  obtain rfl : x = "" := by
    rw [String.utf8ByteSize_append] at hsize
    exact String.utf8ByteSize_eq_zero_iff.mp (by omega)
  exact String.empty_append

theorem extract_append (before text after : String) :
    (before ++ text ++ after).toByteArray.extract before.utf8ByteSize
      (before.utf8ByteSize + text.utf8ByteSize) = text.toByteArray := by
  rw [String.append_assoc, String.toByteArray_append, String.toByteArray_append]
  have hcut := ByteArray.extract_append_size_add (a := before.toByteArray)
    (b := text.toByteArray ++ after.toByteArray) (i := 0) (j := text.toByteArray.size)
  exact hcut.trans (ByteArray.extract_append_eq_left rfl)

theorem slice_eq_ok_iff {s : String} {start stop : Nat} {bytes : ByteArray} :
    slice s start stop = .ok bytes ↔
      ∃ before text after : String, s = before ++ text ++ after ∧ start = before.utf8ByteSize ∧
        stop = start + text.utf8ByteSize ∧ bytes = text.toByteArray := by
  constructor
  · intro h
    unfold slice at h
    split at h
    · cases h
    · split at h
      · cases h
      · rename_i hle
        split at h
        · rename_i hvalid
          rw [Bool.and_eq_true, String.Pos.Raw.isValid_eq_true_iff,
            String.Pos.Raw.isValid_eq_true_iff] at hvalid
          obtain ⟨before, rest, hbefore, hstart⟩ :=
            String.Pos.Raw.isValid_iff_exists_append.mp hvalid.1
          obtain ⟨upTo, after, hupTo, hstop⟩ :=
            String.Pos.Raw.isValid_iff_exists_append.mp hvalid.2
          obtain rfl : start = before.utf8ByteSize := congrArg String.Pos.Raw.byteIdx hstart
          obtain rfl : stop = upTo.utf8ByteSize := congrArg String.Pos.Raw.byteIdx hstop
          obtain ⟨text, rfl, -⟩ :=
            exists_eq_append_of_le (hbefore.symm.trans hupTo) (Nat.le_of_not_lt hle)
          cases h
          refine ⟨before, text, after, hupTo, rfl, String.utf8ByteSize_append, ?_⟩
          rw [hupTo, String.utf8ByteSize_append, extract_append]
        · cases h
  · rintro ⟨before, text, after, rfl, rfl, rfl, rfl⟩
    have hstart : String.Pos.Raw.isValid (before ++ text ++ after) ⟨before.utf8ByteSize⟩ :=
      String.Pos.Raw.isValid_eq_true_iff.mpr (String.Pos.Raw.isValid_iff_exists_append.mpr
        ⟨before, text ++ after, String.append_assoc .., rfl⟩)
    have hstop : String.Pos.Raw.isValid (before ++ text ++ after)
        ⟨before.utf8ByteSize + text.utf8ByteSize⟩ := by
      rw [← String.utf8ByteSize_append]
      exact String.Pos.Raw.isValid_eq_true_iff.mpr (String.Pos.Raw.isValid_iff_exists_append.mpr
        ⟨before ++ text, after, rfl, rfl⟩)
    have hsize : (before ++ text ++ after).utf8ByteSize =
        before.utf8ByteSize + text.utf8ByteSize + after.utf8ByteSize := by
      rw [String.utf8ByteSize_append, String.utf8ByteSize_append]
    rw [slice, if_neg (by omega), if_neg (by omega), hstart, hstop, extract_append]
    rfl

end Text

theorem mapError_eq_ok_iff {α ε ε' : Type} {r : Except ε α} {f : ε → ε'} {a : α} :
    r.mapError f = .ok a ↔ r = .ok a := by
  cases r <;> simp [Except.mapError]

namespace Token

/-! ## The check -/

inductive Mismatch : Type
  | displaced : Token → Nat → Mismatch
  | overflow : Token → Mismatch
  | noSlice : Text.NoSlice → Mismatch
  | differs : Token → Mismatch
  | unfinished : Nat → Mismatch
  deriving DecidableEq

/-- The offset behind the token, which either may run over or has to fit. -/
def stop? (wraps : Bool) (t : Token) : Except Mismatch Nat :=
  if wraps ∨ t.start + t.size < offsets then .ok t.stop else .error (.overflow t)

def checkOne (wraps : Bool) (source : String) (offset : Nat) (t : Token) : Except Mismatch Unit :=
  if t.start = offset then do
    let stop ← t.stop? wraps
    let bytes ← (Text.slice source t.start stop).mapError .noSlice
    if bytes.data = t.text.toByteArray.data then .ok () else .error (.differs t)
  else .error (.displaced t offset)

def checkFrom (wraps : Bool) (source : String) : Nat → List Token → Except Mismatch Unit
  | offset, [] => if offset = source.utf8ByteSize then .ok () else .error (.unfinished offset)
  | offset, t :: tokens => do
    checkOne wraps source offset t
    -- The same sum as in `stop?`, which has been formed by now.
    checkFrom wraps source ((offset + t.size) % offsets) tokens

def check (wraps : Bool) (source : String) (tokens : List Token) : Except Mismatch Unit :=
  checkFrom wraps source 0 tokens

def Placed (offset : Nat) (tokens : List Token) : Prop :=
  ∀ i t, tokens[i]? = some t → t.start = offset + (texts (tokens.take i)).utf8ByteSize

structure Exact (source : String) (tokens : List Token) : Prop where
  texts_eq : texts tokens = source
  start_eq : ∀ i t, tokens[i]? = some t → t.start = (texts (tokens.take i)).utf8ByteSize

variable {wraps : Bool} {source : String} {offset : Nat} {t : Token} {tokens : List Token}

theorem texts_cons (t : Token) (tokens : List Token) :
    texts (t :: tokens) = t.text ++ texts tokens := by
  rw [texts, List.map_cons, String.join_cons, texts]

@[simp] theorem placed_nil : Placed offset [] := by
  intro i t ht
  simp at ht

theorem placed_cons :
    Placed offset (t :: tokens) ↔ t.start = offset ∧ Placed (offset + t.size) tokens := by
  constructor
  · intro h
    refine ⟨h 0 t rfl, fun i u hu => ?_⟩
    have hnext := h (i + 1) u (by simpa using hu)
    rwa [List.take_succ_cons, texts_cons, String.utf8ByteSize_append, ← Nat.add_assoc] at hnext
  · rintro ⟨hstart, h⟩ i u hu
    cases i with
    | zero =>
      obtain rfl : t = u := by simpa using hu
      exact hstart
    | succ i =>
      rw [List.take_succ_cons, texts_cons, String.utf8ByteSize_append, ← Nat.add_assoc]
      exact h i u (by simpa using hu)

theorem exact_iff : Exact source tokens ↔ texts tokens = source ∧ Placed 0 tokens := by
  constructor
  · intro h
    exact ⟨h.texts_eq, fun i t ht => by rw [Nat.zero_add, h.start_eq i t ht]⟩
  · rintro ⟨htexts, hplaced⟩
    exact ⟨htexts, fun i t ht => by rw [hplaced i t ht, Nat.zero_add]⟩

theorem slice_of_checkOne (h : checkOne wraps source offset t = .ok ()) :
    t.start = offset ∧ Text.slice source t.start t.stop = .ok t.text.toByteArray := by
  unfold checkOne at h
  split at h
  · rename_i hstart
    simp only [bind_eq_ok_iff, mapError_eq_ok_iff] at h
    obtain ⟨stop, hstop, bytes, hslice, hbytes⟩ := h
    have hstop' : stop = t.stop := by
      unfold stop? at hstop
      split at hstop
      · exact (Except.ok.inj hstop).symm
      · cases hstop
    have hbytes' : bytes = t.text.toByteArray := by
      split at hbytes
      · rename_i heq
        exact ByteArray.ext heq
      · cases hbytes
    exact ⟨hstart, hstop' ▸ hbytes' ▸ hslice⟩
  · cases h

section

variable {before rest : String}

theorem checkOne_eq_ok_iff (hsource : (before ++ rest).utf8ByteSize < offsets) :
    checkOne wraps (before ++ rest) before.utf8ByteSize t = .ok () ↔
      t.start = before.utf8ByteSize ∧ ∃ after, rest = t.text ++ after := by
  constructor
  · intro h
    obtain ⟨hstart, hslice⟩ := slice_of_checkOne h
    obtain ⟨b, text, after, hsplit, hb, -, hbytes⟩ := Text.slice_eq_ok_iff.mp hslice
    obtain rfl : t.text = text := String.toByteArray_inj.mp hbytes
    rw [String.append_assoc] at hsplit
    exact ⟨hstart, after, Text.eq_of_append_eq hsplit (hstart.symm.trans hb)⟩
  · rintro ⟨hstart, after, rfl⟩
    rw [← String.append_assoc, String.utf8ByteSize_append, String.utf8ByteSize_append] at hsource
    have hfits : t.start + t.size < offsets := by
      rw [hstart, size]
      omega
    have hstop : t.stop? wraps = .ok (t.start + t.size) := by
      rw [stop?, if_pos (.inr hfits), stop, Nat.mod_eq_of_lt hfits]
    have hslice : Text.slice (before ++ (t.text ++ after)) t.start (t.start + t.size) =
        .ok t.text.toByteArray :=
      Text.slice_eq_ok_iff.mpr
        ⟨before, t.text, after, (String.append_assoc ..).symm, hstart, rfl, rfl⟩
    rw [checkOne, if_pos hstart]
    simp only [bind_eq_ok_iff, mapError_eq_ok_iff]
    exact ⟨_, hstop, _, hslice, if_pos rfl⟩

theorem checkFrom_eq_ok_iff (hsource : (before ++ rest).utf8ByteSize < offsets) :
    checkFrom wraps (before ++ rest) before.utf8ByteSize tokens = .ok () ↔
      texts tokens = rest ∧ Placed before.utf8ByteSize tokens := by
  induction tokens generalizing before rest with
  | nil =>
    rw [checkFrom, String.utf8ByteSize_append]
    by_cases hrest : rest = ""
    · simp [hrest, texts]
    · have hsize := mt String.utf8ByteSize_eq_zero_iff.mp hrest
      rw [if_neg (by omega)]
      simpa [texts] using Ne.symm hrest
  | cons t tokens ih =>
    -- Behind the text of `t` the check goes on with what follows it.
    have onward : ∀ after, rest = t.text ++ after →
        (checkFrom wraps (before ++ rest) ((before.utf8ByteSize + t.size) % offsets) tokens =
          .ok () ↔ texts tokens = after ∧ Placed (before.utf8ByteSize + t.size) tokens) := by
      rintro after rfl
      rw [← String.append_assoc] at hsource ⊢
      have hsize : (before ++ t.text).utf8ByteSize = before.utf8ByteSize + t.size :=
        String.utf8ByteSize_append
      have hle : before.utf8ByteSize + t.size < offsets := by
        rw [String.utf8ByteSize_append, hsize] at hsource
        omega
      rw [Nat.mod_eq_of_lt hle, ← hsize]
      exact ih hsource
    rw [checkFrom, bind_eq_ok_iff, placed_cons, texts_cons]
    simp only [checkOne_eq_ok_iff hsource]
    constructor
    · rintro ⟨-, ⟨hstart, after, hrest⟩, hcheck⟩
      obtain ⟨htexts, hplaced⟩ := (onward after hrest).mp hcheck
      exact ⟨by rw [htexts, hrest], hstart, hplaced⟩
    · rintro ⟨hrest, hstart, hplaced⟩
      exact ⟨(), ⟨hstart, _, hrest.symm⟩, (onward _ hrest.symm).mpr ⟨rfl, hplaced⟩⟩

end

theorem coverFrom_iff {rest : List Char} :
    coverFrom offset rest tokens ↔ texts tokens = .ofList rest ∧ Placed offset tokens := by
  induction tokens generalizing offset rest with
  | nil =>
    have htexts : texts [] = "" := rfl
    rw [coverFrom, List.isEmpty_iff, htexts, eq_comm (a := ""), String.ofList_eq_empty_iff]
    simp
  | cons t tokens ih =>
    rw [coverFrom, texts_cons, placed_cons, Bool.and_eq_true, Bool.and_eq_true, beq_iff_eq,
      List.isPrefixOf_iff_prefix, ih]
    constructor
    · rintro ⟨⟨hstart, after, rfl⟩, htexts, hplaced⟩
      rw [← String.length_toList, List.drop_left] at htexts
      exact ⟨by rw [htexts, String.ofList_append, String.ofList_toList], hstart, hplaced⟩
    · rintro ⟨htexts, hstart, hplaced⟩
      obtain rfl : t.text.toList ++ (texts tokens).toList = rest := by
        rw [← String.toList_append, htexts, String.toList_ofList]
      rw [← String.length_toList, List.drop_left, String.ofList_toList]
      exact ⟨⟨hstart, List.prefix_append ..⟩, rfl, hplaced⟩

theorem eq_of_checkOne_overflow {u : Token}
    (h : checkOne wraps source offset u = .error (.overflow t)) : t = u ∧ u.start = offset := by
  unfold checkOne at h
  split at h
  · rename_i hstart
    cases hstop : u.stop? wraps with
    | error m =>
      obtain rfl : m = .overflow t := by simpa [hstop, bind, Except.bind] using h
      unfold stop? at hstop
      split at hstop
      · cases hstop
      · cases hstop
        exact ⟨rfl, hstart⟩
    | ok stop =>
      cases hslice : Text.slice source u.start stop with
      | error e => simp [hstop, hslice, bind, Except.bind, Except.mapError] at h
      | ok bytes =>
        simp only [hstop, hslice, bind, Except.bind, Except.mapError] at h
        split at h <;> cases h
  · cases h

theorem start_le_of_overflow (hoffset : offset ≤ source.utf8ByteSize)
    (h : checkFrom wraps source offset tokens = .error (.overflow t)) :
    t.start ≤ source.utf8ByteSize := by
  induction tokens generalizing offset with
  | nil =>
    rw [checkFrom] at h
    split at h <;> cases h
  | cons u tokens ih =>
    rw [checkFrom] at h
    cases hone : checkOne wraps source offset u with
    | error m =>
      obtain rfl : m = .overflow t := by simpa [hone, bind, Except.bind] using h
      obtain ⟨rfl, hstart⟩ := eq_of_checkOne_overflow hone
      exact hstart ▸ hoffset
    | ok =>
      rw [hone] at h
      obtain ⟨hstart, hslice⟩ := slice_of_checkOne hone
      obtain ⟨before, text, after, rfl, hb, hstop, -⟩ := Text.slice_eq_ok_iff.mp hslice
      refine ih ?_ h
      rw [← hstart, ← stop, hstop, hb, String.utf8ByteSize_append, String.utf8ByteSize_append]
      omega

/-- The check passes exactly for the tokens whose texts make up the source and which start where
the texts before them end, and refuses all others, whichever way sums of offsets that run over are
treated: a start is checked before it is added to. -/
theorem check_passes_iff_exact (wraps : Bool) (source : String) (tokens : List Token)
    (hsource : source.utf8ByteSize < offsets) :
    (check wraps source tokens = .ok () ↔ Exact source tokens) ∧
    ((∃ m, check wraps source tokens = .error m) ↔ ¬ Exact source tokens) ∧
    (cover source tokens ↔ Exact source tokens) ∧
    ∀ t, check wraps source tokens = .error (.overflow t) → t.start ≤ source.utf8ByteSize := by
  have hcheck : check wraps source tokens = .ok () ↔ Exact source tokens := by
    have hfrom : checkFrom wraps ("" ++ source) "".utf8ByteSize tokens = .ok () ↔
        texts tokens = source ∧ Placed "".utf8ByteSize tokens :=
      checkFrom_eq_ok_iff (by rwa [String.empty_append])
    rw [String.empty_append] at hfrom
    exact hfrom.trans exact_iff.symm
  refine ⟨hcheck, ?_, ?_, fun t => start_le_of_overflow (Nat.zero_le _)⟩
  · rw [← hcheck]
    cases check wraps source tokens with
    | error m => simp
    | ok => simp
  · rw [cover, coverFrom_iff, String.ofList_toList, exact_iff]

theorem accented_row_checked :
    "é|".utf8ByteSize < offsets ∧
    Exact "é|" [⟨"normal", "é", 0⟩, ⟨"normal", "", 2⟩, ⟨"table", "|", 2⟩] ∧
    ¬ Exact "é|" [⟨"normal", "é", 0⟩, ⟨"table", "|", offsets - 1⟩] ∧
    ¬ Exact "é|" [⟨"normal", "e", 0⟩] := by
  have hsize : "é|".utf8ByteSize < offsets := by decide
  exact ⟨hsize, (check_passes_iff_exact true _ _ hsize).1.mp (by decide),
    (check_passes_iff_exact false _ _ hsize).2.1.mp
      ⟨.displaced ⟨"table", "|", offsets - 1⟩ 2, by decide⟩,
    (check_passes_iff_exact false _ _ hsize).2.1.mp ⟨.noSlice .insideCharacter, by decide⟩⟩

end Token

end Lexicon
