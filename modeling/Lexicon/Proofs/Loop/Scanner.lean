import Lexicon.Bundled
import Lexicon.Proofs.Loop.Turn
import Lexicon.Proofs.Segmentation

namespace Lexicon

namespace Scan

variable {σ κ : Type} {m : Recogniser σ κ} {u : Scan σ κ} {c : Char} {rest : List Char} {k : κ}

theorem move_eq_read (hr : u.rest = c :: rest) (hc : u.Continues m c rest) :
    u.move m = .read (u.grow m c rest) := by
  have hmoves := u.moves_move m
  generalize u.move m = move at hmoves
  cases hmoves with
  | read hr' => rw [hr] at hr'; cases hr'; rfl
  | cut hr' hc' => rw [hr] at hr'; cases hr'; exact absurd hc hc'
  | flush hr' => rw [hr] at hr'; cases hr'
  | stuck hr' => rw [hr] at hr'; cases hr'
  | done hr' => rw [hr] at hr'; cases hr'

theorem move_eq_cut (hk : u.held = some k)
    (h : ∀ c rest, u.rest = c :: rest → ¬ u.Continues m c rest) :
    u.move m = .cut k (u.restart m) := by
  have hmoves := u.moves_move m
  generalize u.move m = move at hmoves
  cases hmoves with
  | read hr hc => exact absurd hc (h _ _ hr)
  | cut _ _ hk' => rw [hk] at hk'; cases hk'; rfl
  | flush _ hk' => rw [hk] at hk'; cases hk'; rfl
  | stuck _ hk' => rw [hk] at hk'; cases hk'
  | done _ hk' => rw [hk] at hk'; cases hk'

theorem move_eq_done (hr : u.rest = []) (hh : u.held = none) (ht : u.text = "") :
    u.move m = .done := by
  have hw : u.word = [] := by
    rwa [text, String.ofList_eq_empty_iff, List.reverse_eq_nil_iff] at ht
  simp [move, hr, hh, hw]

theorem move_eq_stuck (hr : u.rest = []) (hh : u.held = none) (ht : u.text ≠ "") :
    u.move m = .stuck := by
  have hw : u.word ≠ [] := by
    rwa [text, Ne, String.ofList_eq_empty_iff, List.reverse_eq_nil_iff] at ht
  simp [move, hr, hh, hw]

end Scan

namespace Language

variable {l : Language} {discard : List String} {u v : Scan Frontier String} {name : String}

theorem scanFrom_of_read (h : u.move l.recogniser = .read v) :
    l.scanFrom discard u = l.scanFrom discard v := by
  rw [scanFrom]
  split <;> simp_all

theorem scanFrom_of_cut (h : u.move l.recogniser = .cut name v) :
    l.scanFrom discard u =
      if l.isWrong name then .error (.wrongCategory name u.text u.start)
      else if name ∈ discard then l.scanFrom discard v
      else (l.scanFrom discard v).map (⟨name, u.text, u.start⟩ :: ·) := by
  rw [scanFrom]
  split <;> simp_all

theorem scanFrom_of_stuck (h : u.move l.recogniser = .stuck) :
    l.scanFrom discard u = .error (.unlexable u.start u.text) := by
  rw [scanFrom]
  split <;> simp_all

theorem scanFrom_of_done (h : u.move l.recogniser = .done) : l.scanFrom discard u = .ok [] := by
  rw [scanFrom]
  split <;> simp_all

end Language

namespace Loop

variable {l : Language} {discard : List String} {text : String} {s t : Loop} {c : Char}
  {rest : List Char} {word : String} {u v : Scan Frontier String}

structure Mirrors (l : Language) (text : String) (s : Loop) (u : Scan Frontier String) : Prop where
  sound : s.Sound l text
  scanSound : u.Sound l.recogniser
  rest_eq : u.rest = text.toList.drop s.index
  start_eq : u.start = s.start
  text_eq : u.text = s.word

theorem mirrors_init (l : Language) (text : String) :
    Mirrors l text init (.init l.recogniser 0 text.toList) :=
  ⟨sound_init l text, Scan.sound_init _ _ _, rfl, rfl, rfl⟩

namespace Mirrors

theorem held_eq (h : Mirrors l text s u) :
    u.held = if s.word = "" then none else l.classify s.word := by
  have hword : u.word = [] ↔ s.word = "" := by
    rw [← h.text_eq, Scan.text, String.ofList_eq_empty_iff, List.reverse_eq_nil_iff]
  rw [h.scanSound.held_eq, l.recogniser_judge, ← Scan.text, h.text_eq]
  simp only [hword]

theorem old_ne_iff (h : Mirrors l text s u) : s.old ≠ [] ↔ u.held.isSome := by
  rw [h.sound.old_ne_iff, h.held_eq, ← Language.matchesAny_iff, Language.matchesAny_eq_isSome]
  split
  · rename_i hword
    simp [hword]
  · rename_i hword
    simp [hword]

theorem grow_text (h : Mirrors l text s u) :
    (u.grow l.recogniser c rest).text = s.word.push c := by
  rw [← h.text_eq, Scan.text, Scan.text, ← String.toList_inj]
  simp [Scan.grow]

theorem grow_held_eq (h : Mirrors l text s u) :
    (u.grow l.recogniser c rest).held = l.classify (s.word.push c) := by
  have hgrown : (u.grow l.recogniser c rest).text = s.word.push c := h.grow_text
  rw [h.scanSound.grow_held_eq, l.recogniser_judge, ← hgrown, Scan.text]
  simp [Scan.grow]

theorem extends_eq (h : Mirrors l text s u) :
    Scan.extends? l.recogniser (u.grow l.recogniser c rest).state rest =
      rest.head?.any fun d => l.matchesAny ((s.word.push c).push d) := by
  cases rest with
  | nil => rfl
  | cons d rest =>
    have hjudge : l.recogniser.judge (u.word.reverse ++ [c] ++ [d]) =
        l.recogniser.verdict
          (l.recogniser.step (u.grow l.recogniser c (d :: rest)).state d) := by
      rw [l.recogniser.judge_concat, List.foldl_append, ← h.scanSound.state_eq]
      rfl
    have hword : String.ofList (u.word.reverse ++ [c] ++ [d]) = (s.word.push c).push d := by
      rw [← h.text_eq, Scan.text, ← String.toList_inj]
      simp
    rw [l.recogniser_judge, hword] at hjudge
    rw [Scan.extends?, ← hjudge, ← Language.matchesAny_eq_isSome]
    rfl

theorem head?_rest (h : Mirrors l text s u) (hr : u.rest = c :: rest) :
    text.toList[s.index]? = some c ∧ text.toList[s.index + 1]? = rest.head? := by
  rw [← List.head?_drop, ← List.head?_drop, ← List.drop_drop, ← h.rest_eq, hr]
  exact ⟨rfl, rfl⟩

theorem continues_iff (h : Mirrors l text s u) (hr : u.rest = c :: rest) :
    u.Continues l.recogniser c rest ↔
      ∀ word, s.turn l c text.toList[s.index + 1]? ≠ .cut word := by
  have hheld : u.held = none ↔ s.old = [] := by
    rw [← not_iff_not, ← Ne, ← Ne, h.old_ne_iff, Option.isSome_iff_ne_none]
  have hgrown : (u.grow l.recogniser c rest).held.isSome ↔
      l.candidates (s.word.push c) s.start ≠ [] := by
    rw [h.grow_held_eq, ← Language.matchesAny_eq_isSome, Language.matchesAny_iff]
  rw [Scan.Continues, hheld, hgrown, h.extends_eq, ← (h.head?_rest hr).2]
  have hturns := turns_turn l s c text.toList[s.index + 1]?
  generalize s.turn l c text.toList[s.index + 1]? = turn at hturns
  cases hturns with
  | read hkeep =>
    refine ⟨fun _ word hcut => Turn.noConfusion hcut, fun _ => ?_⟩
    rcases hkeep with hmatched | hold
    · exact .inr (.inl hmatched)
    · exact .inl hold
  | postpone hmatched hold hd hmatches =>
    refine ⟨fun _ word hcut => Turn.noConfusion hcut, fun _ => .inr (.inr ?_)⟩
    exact (Option.any_eq_true _ _).mpr ⟨_, hd, hmatches⟩
  | cut hmatched hold hno =>
    refine ⟨fun hcont => ?_, fun hcut => absurd rfl (hcut s.word)⟩
    rcases hcont with hnone | hsome | hext
    · exact absurd hnone hold
    · exact absurd hmatched hsome
    · obtain ⟨d, hd, hmatches⟩ := (Option.any_eq_true _ _).mp hext
      rw [hno d hd] at hmatches
      cases hmatches

theorem exists_continues (h : Mirrors l text s u) (hc : text.toList[s.index]? = some c)
    (hturn : ∀ word, s.turn l c text.toList[s.index + 1]? ≠ .cut word) :
    ∃ rest, u.rest = c :: rest ∧ u.Continues l.recogniser c rest := by
  rw [← List.head?_drop, ← h.rest_eq] at hc
  have hr := (List.cons_head?_tail hc).symm
  exact ⟨_, hr, (h.continues_iff hr).mpr hturn⟩

theorem not_continues (h : Mirrors l text s u) (hc : text.toList[s.index]? = some c)
    (hturn : s.turn l c text.toList[s.index + 1]? = .cut word) (d : Char) (rest : List Char)
    (hr : u.rest = d :: rest) : ¬ u.Continues l.recogniser d rest := by
  obtain rfl : c = d := Option.some.inj (hc.symm.trans (h.head?_rest hr).1)
  exact fun hcont => (h.continues_iff hr).mp hcont word hturn

theorem grow (h : Mirrors l text s u) (hr : u.rest = c :: rest) (ht : t.Sound l text)
    (hcont : u.Continues l.recogniser c rest) (hindex : t.index = s.index + 1)
    (hstart : t.start = s.start) (hword : t.word = s.word.push c) :
    Mirrors l text t (u.grow l.recogniser c rest) where
  sound := ht
  scanSound := h.scanSound.grow hr hcont
  rest_eq := by
    rw [hindex, ← List.drop_drop, ← h.rest_eq, hr]
    rfl
  start_eq := by
    rw [hstart, ← h.start_eq]
    rfl
  text_eq := by rw [hword, h.grow_text]

theorem restart (h : Mirrors l text s u) (ht : t.Sound l text) (hindex : t.index = s.index)
    (hstart : t.start = s.start + s.word.utf8ByteSize) (hword : t.word = "") :
    Mirrors l text t (u.restart l.recogniser) where
  sound := ht
  scanSound := Scan.sound_init _ _ _
  rest_eq := by
    rw [hindex, ← h.rest_eq]
    rfl
  start_eq := by
    rw [hstart, ← h.start_eq, ← h.text_eq]
    rfl
  text_eq := hword.symm

end Mirrors

def outcome (tokens : List Token) (r : Except LexError (List Token)) : Except Halt (List Token) :=
  (r.map (tokens ++ ·)).mapError .failed

theorem Mirrors.outcome_of_cut (h : Mirrors l text s u) (hold : s.old ≠ [])
    (hend : ∀ c rest, u.rest = c :: rest → ¬ u.Continues l.recogniser c rest) :
    outcome s.tokens (l.scanFrom discard u) =
      (l.emit discard s.old s.word s.start s.tokens).bind fun tokens =>
        outcome tokens (l.scanFrom discard (u.restart l.recogniser)) := by
  have hne := (h.sound.old_ne_iff.mp hold).2
  obtain ⟨name, hclass, hemit⟩ := Language.emit_candidates discard s.tokens hne
  have hheld : u.held = some name := by
    rw [h.held_eq, if_neg (h.sound.old_ne_iff.mp hold).1, hclass]
  rw [h.sound.old_eq_candidates hold, hemit, Language.scanFrom_of_cut (Scan.move_eq_cut hheld hend),
    h.text_eq, h.start_eq]
  split
  · rfl
  · split
    · rfl
    · cases l.scanFrom discard (u.restart l.recogniser) with
      | error e => rfl
      | ok tokens => simp [outcome, Except.map, Except.mapError, Except.bind]

theorem Mirrors.finish_eq (h : Mirrors l text s u) (hend : text.length ≤ s.index) :
    s.finish l discard = outcome s.tokens (l.scanFrom discard u) := by
  have hr : u.rest = [] := by
    rw [h.rest_eq, List.drop_eq_nil_iff, String.length_toList]
    exact hend
  unfold finish
  split
  · rename_i hold
    have hheld : u.held = none := by
      rw [← Option.not_isSome_iff_eq_none, ← h.old_ne_iff]
      simpa using hold
    split
    · rename_i hword
      rw [Language.scanFrom_of_done (Scan.move_eq_done hr hheld (by rw [h.text_eq, hword]))]
      simp [outcome, Except.map, Except.mapError]
    · rename_i hword
      rw [Language.scanFrom_of_stuck (Scan.move_eq_stuck hr hheld (by rwa [h.text_eq])), h.text_eq,
        h.start_eq]
      rfl
  · rename_i hold
    have hcut : ∀ c rest, u.rest = c :: rest → ¬ u.Continues l.recogniser c rest := by
      simp [hr]
    have hdone : (u.restart l.recogniser).move l.recogniser = .done :=
      Scan.move_eq_done hr rfl rfl
    rw [h.outcome_of_cut (by simpa using hold) hcut, Language.scanFrom_of_done hdone]
    cases l.emit discard s.old s.word s.start s.tokens with
    | error e => rfl
    | ok tokens => simp [outcome, Except.map, Except.mapError, Except.bind]

theorem Mirrors.run_eq (h : Mirrors l text s u) :
    s.run l discard text.toList = outcome s.tokens (l.scanFrom discard u) := by
  fun_induction run l discard text.toList s generalizing u with
  | case1 s hlt t hiter _ ih =>
    have ht := h.sound.of_iterate hiter
    cases iterates_of_iterate hiter with
    | read hc hturn =>
      obtain ⟨rest, hr, hcont⟩ := h.exists_continues hc (by simp [hturn])
      cases turns_of_turn hturn with
      | read =>
        rw [Language.scanFrom_of_read (Scan.move_eq_read hr hcont)]
        exact ih (h.grow hr ht hcont rfl rfl rfl)
    | postpone hc hturn =>
      obtain ⟨rest, hr, hcont⟩ := h.exists_continues hc (by simp [hturn])
      cases turns_of_turn hturn with
      | postpone =>
        rw [Language.scanFrom_of_read (Scan.move_eq_read hr hcont)]
        exact ih (h.grow hr ht hcont rfl rfl rfl)
    | cut hc hturn hemit =>
      obtain ⟨rfl, hold⟩ := (Cuts.inside hc hturn).eq_word
      rw [h.outcome_of_cut hold (h.not_continues hc hturn), hemit]
      exact ih (h.restart ht rfl rfl rfl)
  | case2 s hlt e hiter =>
    obtain ⟨c, word, hc, hturn, hemit⟩ := exists_cut_of_iterate_eq_error hlt hiter
    obtain ⟨rfl, hold⟩ := (Cuts.inside hc hturn).eq_word
    rw [h.outcome_of_cut hold (h.not_continues hc hturn), hemit]
    rfl
  | case3 s hge =>
    rw [String.length_toList] at hge
    exact h.finish_eq (Nat.le_of_not_lt hge)

theorem run_init_eq (l : Language) (discard : List String) (text : String) :
    init.run l discard text.toList = (l.scan discard text).mapError .failed := by
  rw [(mirrors_init l text).run_eq, outcome, Language.scan]
  cases l.scanFrom discard (.init l.recogniser 0 text.toList) with
  | error e => rfl
  | ok tokens => rfl

theorem run_init_ne_outOfBounds (l : Language) (discard : List String) (text : String) :
    init.run l discard text.toList ≠ .error .outOfBounds := by
  rw [run_init_eq]
  cases l.scan discard text with
  | error e => simp [Except.mapError]
  | ok tokens => simp [Except.mapError]

/-- Every turn lowers the measure, so that the loop ends. Wherever it cuts a word off there are
candidates to choose from, and the word stands between its start and the cut. A turn that waits for
one more character is followed by one with candidates. So nothing is looked up that is not there,
and the loop gives the tokens of the language. -/
theorem loop_ends_in_bounds (l : Language) (discard : List String) (text : String) :
    (∀ s t : Loop, s.iterate l discard text.toList = .ok t →
      t.measure text.length < s.measure text.length) ∧
    (∀ n s, Reached l discard text n s → n ≤ 2 * text.length) ∧
    (∀ n s word, Reached l discard text n s → Cuts l text.toList s word → Apt l text s word) ∧
    (∀ (s : Loop) c word, text.toList[s.index]? = some c →
      s.turn l c text.toList[s.index + 1]? = .postpone word →
      ∃ t d, s.iterate l discard text.toList = .ok t ∧ text.toList[t.index]? = some d ∧
        t.turn l d text.toList[t.index + 1]? =
          .read (t.word.push d) (l.candidates (t.word.push d) t.start) ∧
        l.candidates (t.word.push d) t.start ≠ []) ∧
    init.run l discard text.toList ≠ .error .outOfBounds ∧
    init.run l discard text.toList = (l.scan discard text).mapError .failed := by
  refine ⟨fun s t h => ?_, fun n s h => ?_, fun n s word h => h.sound.apt,
    fun s c word => exists_candidates_of_postpone, run_init_ne_outOfBounds l discard text,
    run_init_eq l discard text⟩
  · rw [← String.length_toList]
    exact measure_lt_of_iterate h
  · exact Nat.le_of_add_right_le h.add_measure_le

theorem ash_point_postponed :
    ∃ l, Language.build "ash" Bundled.ash = .ok l ∧
      Reached l [] "1.5" 1 ⟨1, 0, "1", [⟨3, 0, 0⟩], []⟩ ∧
      turn l ⟨1, 0, "1", [⟨3, 0, 0⟩], []⟩ '.' (some '5') = .postpone "1." ∧
      iterate l [] "1.5".toList ⟨1, 0, "1", [⟨3, 0, 0⟩], []⟩ = .ok ⟨2, 0, "1.", [], []⟩ ∧
      l.candidates "1.5" 0 ≠ [] := by
  have hbuild : ∃ l, Language.build "ash" Bundled.ash = .ok l ∧
      init.iterate l [] "1.5".toList = .ok ⟨1, 0, "1", [⟨3, 0, 0⟩], []⟩ ∧
      turn l ⟨1, 0, "1", [⟨3, 0, 0⟩], []⟩ '.' (some '5') = .postpone "1." ∧
      iterate l [] "1.5".toList ⟨1, 0, "1", [⟨3, 0, 0⟩], []⟩ = .ok ⟨2, 0, "1.", [], []⟩ :=
    Language.exists_of_build (by decide +kernel)
  obtain ⟨l, hl, hinit, hturn, hiter⟩ := hbuild
  obtain ⟨-, -, -, hpostpone, -⟩ := loop_ends_in_bounds l [] "1.5"
  obtain ⟨t, d, ht, hd, -, hne⟩ := hpostpone _ '.' "1." rfl hturn
  obtain rfl := Except.ok.inj (hiter.symm.trans ht)
  obtain rfl : '5' = d := Option.some.inj hd
  exact ⟨l, hl, .iterate .init (by decide) hinit, hturn, hiter, hne⟩

end Loop

end Lexicon
