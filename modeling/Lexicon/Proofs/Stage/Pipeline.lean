import Lexicon.Lexer
import Lexicon.Proofs.Stage.Merge
import Lexicon.Proofs.Stage.Splice
import Lexicon.Proofs.Stage.Table

namespace Lexicon

variable {tokens result : List Token} {P : List Token → Prop} {category : String}

namespace Stage

inductive Standard : Stage → Prop
  | splice (s : Splice) : Standard (.splice s)
  | merge (category : String) : Standard (.merge category)
  | table (n : Table) : Standard (.table n)
  | refuse (name message : String) : Standard (.refuse name message)

def Keeps (s : Stage) (P : List Token → Prop) : Prop :=
  ∀ tokens result, P tokens → s.apply tokens = .ok result → P result

/-- From some tokens, none of which is of the category, the stage makes one that is. -/
def Writes (s : Stage) (category : String) : Prop :=
  ∃ tokens result, s.apply tokens = .ok result ∧ (∀ t ∈ tokens, t.category ≠ category) ∧
    ∃ t ∈ result, t.category = category

variable {s : Stage}

theorem keeps_of_not_writes (h : ¬ s.Writes category) :
    s.Keeps fun l => ∀ t ∈ l, t.category ≠ category :=
  fun tokens result ht hr t hmem hc => h ⟨tokens, result, hr, ht, t, hmem, hc⟩

theorem eq_literal_of_writes {p : Splice} (h : (splice p).Writes category) :
    category = p.literal := by
  obtain ⟨tokens, result, hr, hnone, t, ht, rfl⟩ := h
  cases hr
  have hturns : p.Turns (·.category ≠ t.category)
      fun u => u.category = p.literal ∨ u.category ≠ t.category :=
    ⟨fun u hu _ => .inr hu, fun u v hu _ _ _ => hu, fun u v _ _ hv _ => .inr hv,
      fun u _ _ => .inl rfl⟩
  exact (Splice.forall_mem_apply hturns hnone t ht).resolve_right fun hne => hne rfl

theorem not_writes_merge {name : String} : ¬ (merge name).Writes category := by
  rintro ⟨tokens, result, hr, hnone, t, ht, hc⟩
  cases hr
  exact Merge.forall_mem_apply (fun u v hu _ _ _ => hu) hnone t ht hc

theorem mem_written_of_writes {n : Table} (h : (table n).Writes category) :
    category ∈ n.written := by
  obtain ⟨tokens, result, hr, hnone, t, ht, rfl⟩ := h
  obtain ⟨u, hu, hut⟩ := Table.exists_retagged_of_mem (Table.forall₂_apply hr) ht
  exact hut.category.resolve_left fun heq => hnone u hu heq.symm

theorem Standard.writes (hs : s.Standard) (h : s.Writes category) :
    (∃ p, s = .splice p ∧ category = p.literal) ∨ ∃ n, s = .table n ∧ category ∈ n.written := by
  cases hs with
  | splice p => exact .inl ⟨p, rfl, eq_literal_of_writes h⟩
  | merge name => exact absurd h not_writes_merge
  | table n => exact .inr ⟨n, rfl, mem_written_of_writes h⟩
  | refuse name message =>
    obtain ⟨_, _, hr, -⟩ := h
    cases hr

end Stage

theorem Pipeline.of_run {p : Pipeline} (hp : ∀ s ∈ p, s.Keeps P) (h : P tokens)
    (hr : Pipeline.run p tokens = .ok result) : P result := by
  induction p generalizing tokens with
  | nil =>
    cases hr
    exact h
  | cons s p ih =>
    rw [List.forall_mem_cons] at hp
    rw [run] at hr
    cases hs : s.apply tokens with
    | error e => simp [hs, Except.bind] at hr
    | ok next =>
      rw [hs] at hr
      exact ih hp.2 (hp.1 tokens next h hs) hr

namespace Language

variable {l : Language}

theorem reshape_eq_run (l : Language) (tokens : List Token) :
    l.reshape tokens = (Pipeline.run (l.pipeline.getD []) tokens).mapError .refused := by
  rw [reshape]
  split
  · rename_i p hp
    rw [hp, Option.getD_some]
  · rename_i hp
    rw [hp]
    rfl

theorem run_of_reshape (h : l.reshape tokens = .ok result) :
    Pipeline.run (l.pipeline.getD []) tokens = .ok result := by
  rw [reshape_eq_run] at h
  cases hrun : Pipeline.run (l.pipeline.getD []) tokens with
  | error r => simp [hrun, Except.mapError] at h
  | ok result' => simpa [hrun, Except.mapError] using h

theorem exists_refused_of_reshape {e : LexError} (h : l.reshape tokens = .error e) :
    ∃ r, e = .refused r := by
  rw [reshape_eq_run] at h
  cases hrun : Pipeline.run (l.pipeline.getD []) tokens with
  | error r =>
    simp only [hrun, Except.mapError, Except.error.injEq] at h
    exact ⟨r, h.symm⟩
  | ok result => simp [hrun, Except.mapError] at h

theorem of_reshape (hl : ∀ s ∈ l.pipeline.getD [], s.Keeps P) (h : P tokens)
    (hr : l.reshape tokens = .ok result) : P result :=
  Pipeline.of_run hl h (run_of_reshape hr)

def Writes (l : Language) (category : String) : Prop :=
  ∃ s ∈ l.pipeline.getD [], s.Writes category

theorem not_mem_of_not_writes (hw : ¬ l.Writes category) (h : ∀ t ∈ tokens, t.category ≠ category)
    (hr : l.reshape tokens = .ok result) : ∀ t ∈ result, t.category ≠ category :=
  of_reshape (P := fun l => ∀ t ∈ l, t.category ≠ category)
    (fun s hs => Stage.keeps_of_not_writes fun hsw => hw ⟨s, hs, hsw⟩) h hr

end Language

end Lexicon
