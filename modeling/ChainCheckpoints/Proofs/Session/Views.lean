import ChainCheckpoints.Proofs.Session.Run
import ChainCheckpoints.Proofs.Store.Index

/-!
# Snapshots That Tell One Story

A snapshot answers five questions from three look-ups, and they must not contradict each other: that
the main chain runs through a block and that the block has a height are the same thing, a block that
is read has the height that the height index gives it, and the header at that height is its header.

All that needs is that blocks are kept under their own digests and that the index by digest is
backed by the one by height. Neither asks anything of the writer, so a snapshot is coherent whatever
has been connected where. Blocks that have been lost are no exception, for the header at a height and
the header of a digest are then missing in the same way.

A session takes snapshots in between and asks them later. What is written meanwhile does not reach
them.

## Main definitions

* `Snapshot.Coherent`: answers that fit together.
* `Session.Coherent`: the invariant.

## Theorems

* `Store.coherent`: the snapshots of a store whose index by digest is backed.
* `Session.Coherent.step`, `Session.Coherent.after`: commands keep the invariant.
* `Session.views_coherent`: after any history, the snapshots that it has kept and a fresh one.
-/

namespace ChainCheckpoints

/-- The answers about a digest fit together. -/
structure Snapshot.Coherent (view : Snapshot) : Prop where
  /-- The blocks of the main chain are those that have a height. -/
  isMain_iff : ∀ x, view.isMain x = .ok true ↔ ∃ h, view.heightOf x = .ok h
  /-- A block without a height is off the main chain if it can be read, and unknown if not. -/
  heightless : ∀ x e, view.heightOf x = .error e →
    view.isMain x = .ok false ∧
      ((∃ b, view.block x = .ok b) → e = .offMainChain x) ∧
      ((∀ b, view.block x ≠ .ok b) → e = .notFound (.block x))
  block_eq : ∀ x b, view.block x = .ok b →
    b.digest = x ∧ view.header x = .ok b.header ∧ ∀ h, view.heightOf x = .ok h → b.height = h
  /-- At the height of a block there is its header, or both are missing. -/
  headerAt_eq : ∀ x h, view.heightOf x = .ok h →
    view.headerAt h = view.header x ∧
      ((∃ header, view.header x = .ok header) ∨ view.header x = .error (.notFound (.block x)))

namespace Store

variable {s : Store}

theorem coherent (hkeyed : s.Keyed) (hbacked : s.Backed) : s.snapshot.Coherent where
  isMain_iff x := by
    have hheight (h : UInt64) : s.snapshot.heightOf x = .ok h ↔ s.heights[x]? = some h :=
      heightOf_eq_ok_iff
    simp only [hheight]
    exact Store.isMain_iff
  heightless x e he := by
    have hnone : s.heights[x]? = none := by
      rcases hx : s.heights[x]? with _ | h
      · rfl
      · cases he.symm.trans (heightOf_eq_ok_iff.2 hx)
    have heq := he.symm.trans (heightOf_of_none hnone)
    rw [Except.error.injEq] at heq
    refine ⟨isMain_of_none hnone, fun hread => ?_, fun hunread => ?_⟩
    · rw [heq, if_pos (exists_block_iff.1 hread)]
    · have hlost : ¬ s.blocks.contains x = true := fun hheld =>
        (exists_block_iff.2 hheld).elim hunread
      rw [heq, if_neg hlost]
  block_eq x b hb := by
    refine ⟨hkeyed.digest_of_block hb, ?_, fun h hh => ?_⟩
    · rcases block_eq_ok_iff.1 hb with ⟨d, hd, rfl⟩
      exact header_eq_ok_iff.2 ⟨d, hd, rfl⟩
    · exact height_of_block hb (heightOf_eq_ok_iff.1 hh)
  headerAt_eq x h hh := by
    refine ⟨headerAt_eq (hbacked x h (heightOf_eq_ok_iff.1 hh)), ?_⟩
    rcases hx : s.blocks[x]? with _ | d
    · exact .inr (header_of_none hx)
    · exact .inl ⟨d.header, header_eq_ok_iff.2 ⟨d, hx, rfl⟩⟩

theorem coherent_of_source {view : Snapshot} (hkeyed : s.Keyed) (hbacked : s.Backed)
    (hview : s.source = .ok view) : view.Coherent := by
  unfold source at hview
  by_cases hreadable : s.readable = true
  · rw [if_pos hreadable, Except.ok.injEq] at hview
    rw [← hview]
    exact coherent hkeyed hbacked
  · rw [if_neg hreadable] at hview
    cases hview

end Store

namespace Session

variable {s : Session}

/-- The store gives coherent snapshots, and those that are kept are coherent. -/
structure Coherent (s : Session) : Prop where
  keyed : s.store.Keyed
  backed : s.store.Backed
  kept : ∀ entry ∈ s.kept, entry.2.Coherent

theorem coherent_ofTable (table : Table) (confirmations : UInt64) :
    (ofTable table confirmations).Coherent where
  keyed := Store.keyed_empty
  backed := Store.backed_empty
  kept _ hentry := absurd hentry List.not_mem_nil

theorem Coherent.step (h : s.Coherent) (command : Command) : (s.step command).session.Coherent where
  keyed := by
    rw [step_store]
    exact h.keyed.writes command.writes
  backed := by
    rw [step_store]
    exact h.backed.writes command.writes
  kept entry hentry := by
    rcases (s.step_spec command).kept entry hentry with hbefore | hsource
    · exact h.kept entry hbefore
    · exact Store.coherent_of_source h.keyed h.backed hsource

theorem Coherent.after (h : s.Coherent) (commands : List Command) : (s.after commands).Coherent := by
  induction commands generalizing s with
  | nil => exact h
  | cons command commands ih => exact ih (h.step command)

/-- Whatever a session has been told, the snapshots that it has kept on the way are coherent, and so
    is one that is taken now. -/
theorem views_coherent (table : Table) (confirmations : UInt64) (commands : List Command) :
    let s := (ofTable table confirmations).after commands
    (∀ name view, (name, view) ∈ s.kept → view.Coherent) ∧
      ∀ view, s.store.source = .ok view → view.Coherent := by
  intro s
  have h : s.Coherent := (coherent_ofTable table confirmations).after commands
  exact ⟨fun name view hkept => h.kept (name, view) hkept,
    fun view hview => Store.coherent_of_source h.keyed h.backed hview⟩

end Session

end ChainCheckpoints
