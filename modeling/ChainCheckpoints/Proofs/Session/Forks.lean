import ChainCheckpoints.Proofs.Session.Run
import ChainCheckpoints.Proofs.Store.Answers
import ChainCheckpoints.Proofs.Tracker.History

/-!
# Forks Once Rejected

A guard that has rejected a fork has an anchor above it, and it does not let go of its anchor. The
store may be cut off below the anchor afterwards, lose its blocks or become unreadable, and the best
tip may be moved anywhere. Then a question for the fork may end in a fault; but where it has an
answer, the answer is no, for that fork and for every one below it.

The anchor may have moved up in the meantime, so the checkpoint that speaks against the fork need
not be the same.

## Main definitions

* `Guard.Holds`: a guard whose anchor is at a height or above.

## Theorems

* `Guard.Holds.follow`: a question for the anchor keeps it there.
* `Guard.holds_of_rejected`: a guard that rejects a fork holds the height that it names.
* `Guard.Holds.admitFork`: a guard rejects the forks below the height that it holds, or it fails.
* `Session.fork_stays_rejected`: after a rejection, as long as the guard is not set up again.
-/

namespace ChainCheckpoints

open Tracker (Formed)

namespace Guard

variable {g : Guard} {source : Except ReadError Snapshot} {best fork height : UInt64}

/-- Calls have left the guard with an anchor at the height or above. -/
structure Holds (g : Guard) (height : UInt64) : Prop where
  formed : Formed Checkpoint.Places g.table g.tracker
  anchored : ∃ anchor, g.tracker.block? = some anchor ∧ height ≤ anchor.height

theorem follow_answer (g : Guard) (source : Except ReadError Snapshot) (best : UInt64) :
    (g.follow source best).answer = (g.tracker.follow g.table source best).answer := rfl

theorem formed_follow (h : Formed Checkpoint.Places g.table g.tracker)
    (source : Except ReadError Snapshot) (best : UInt64) :
    Formed Checkpoint.Places (g.follow source best).state.table
      (g.follow source best).state.tracker :=
  h.placed source best

theorem Holds.follow (h : g.Holds height) (source : Except ReadError Snapshot) (best : UInt64) :
    (g.follow source best).state.Holds height where
  formed := formed_follow h.formed source best
  anchored := by
    rcases h.anchored with ⟨anchor, hanchor, hle⟩
    -- A question may move the anchor up but not down, and it does not lose it.
    have hformed := h.formed.placed source best
    have hmono := h.formed.height_mono hformed (h.formed.rank_le source best)
    rw [Tracker.height?, hanchor, Option.map_some, Tracker.height?] at hmono
    rcases hblock : (g.tracker.follow g.table source best).state.block? with _ | b
    · rw [hblock, Option.map_none] at hmono
      exact absurd hmono Option.not_some_le_none
    · rw [hblock, Option.map_some] at hmono
      exact ⟨b, hblock, UInt64.le_trans hle (Option.some_le_some.1 hmono)⟩

/-- A guard that rejects a fork is left with an anchor at the height that it names, above the
    fork. -/
theorem holds_of_rejected (h : Formed Checkpoint.Places g.table g.tracker)
    (hrejected : (g.admitFork source best fork).answer = .error (.forkBelowCheckpoint fork height)) :
    (g.follow source best).state.Holds height ∧ fork < height := by
  rcases hanswer : (g.follow source best).answer with fault | a
  · -- A call that fails has found the store inconsistent.
    rcases Tracker.exists_cause_of_follow hanswer with ⟨cause, rfl⟩
    simp only [admitFork, hanswer, reduceCtorEq, Except.error.injEq] at hrejected
  · rw [admitFork_answer hanswer] at hrejected
    rcases hanchor : a.filter (fork < ·.height) with _ | anchor
    · rw [hanchor] at hrejected
      cases hrejected
    · simp only [hanchor, Except.error.injEq, Fault.forkBelowCheckpoint.injEq, true_and] at hrejected
      rcases Option.filter_eq_some_iff.1 hanchor with ⟨rfl, hlt⟩
      rw [decide_eq_true_eq, hrejected] at hlt
      have hblock : some anchor = (g.follow source best).state.tracker.block? := h.answer_eq hanswer
      exact ⟨⟨formed_follow h source best, anchor, hblock.symm, UInt64.le_of_eq hrejected.symm⟩, hlt⟩

/-- A guard rejects the forks below the height that it holds, or its question for the anchor has
    failed. -/
theorem Holds.admitFork (h : g.Holds height) (hfork : fork < height)
    (source : Except ReadError Snapshot) (best : UInt64) :
    (∃ higher, height ≤ higher ∧
      (g.admitFork source best fork).answer = .error (.forkBelowCheckpoint fork higher)) ∨
    ∃ cause, (g.admitFork source best fork).answer = .error (.inconsistentStore cause) := by
  rcases hanswer : (g.follow source best).answer with fault | a
  · rcases Tracker.exists_cause_of_follow hanswer with ⟨cause, rfl⟩
    exact .inr ⟨cause, by simp only [Guard.admitFork, hanswer]⟩
  · left
    -- The answer is the anchor that the question leaves, and that is no lower than before.
    have hblock : a = (g.follow source best).state.tracker.block? := h.formed.answer_eq hanswer
    rcases (h.follow source best).anchored with ⟨anchor, hanchor, hle⟩
    have hlt : fork < anchor.height := UInt64.lt_of_lt_of_le hfork hle
    refine ⟨anchor.height, hle, ?_⟩
    rw [admitFork_answer hanswer, hblock, hanchor]
    simp only [Option.filter_some, hlt, decide_true, ↓reduceIte]

end Guard

namespace Session

variable {start : Session} {before later : List Command} {fork height lower : UInt64}

/-- A fork that a guard has rejected is rejected for as long as the guard is not set up again, and
    so are the forks below it, by the same checkpoint or a higher one; or the store is found
    inconsistent. -/
theorem fork_stays_rejected (hnew : start.guard.tracker = .cold) (hbefore : .restart ∉ before)
    (hrejected : ((start.after before).step (.admitFork fork)).reply =
      .error (.fault (.forkBelowCheckpoint fork height)))
    (hlater : .restart ∉ later) (hlower : lower ≤ fork) :
    let s := ((start.after before).step (.admitFork fork)).session.after later
    (∃ higher, height ≤ higher ∧
      (s.step (.admitFork lower)).reply = .error (.fault (.forkBelowCheckpoint lower higher))) ∨
    ∃ cause, (s.step (.admitFork lower)).reply = .error (.fault (.inconsistentStore cause)) := by
  intro s
  let u := start.after before
  have hformed : Formed Checkpoint.Places u.guard.table u.guard.tracker :=
    guard_after (P := fun g => Formed Checkpoint.Places g.table g.tracker)
      (fun _ source best h => Guard.formed_follow h source best) (hnew ▸ .cold) hbefore
  -- The reply of a session is the answer of its guard, dressed up as a failure.
  have hanswer : (u.guard.admitFork u.source u.best.height fork).answer =
      .error (.forkBelowCheckpoint fork height) := by
    rw [reply_admitFork] at hrejected
    rcases hadmitted : (u.guard.admitFork u.source u.best.height fork).answer with fault | _
    · rw [hadmitted] at hrejected
      cases hrejected
      rfl
    · rw [hadmitted] at hrejected
      cases hrejected
  rcases Guard.holds_of_rejected hformed hanswer with ⟨hholds, hlt⟩
  -- The question itself leaves the guard so, and whatever comes later keeps it so.
  have hfirst : (u.step (.admitFork fork)).session.guard.Holds height := by
    rw [step_admitFork]
    exact hholds
  have hs : s.guard.Holds height :=
    guard_after (P := fun g => g.Holds height)
      (fun _ source best h => Guard.Holds.follow h source best) hfirst hlater
  rw [reply_admitFork]
  rcases hs.admitFork (UInt64.lt_of_le_of_lt hlower hlt) s.source s.best.height with
    ⟨higher, hle, hhigher⟩ | ⟨cause, hcause⟩
  · rw [hhigher]
    exact .inl ⟨higher, hle, rfl⟩
  · rw [hcause]
    exact .inr ⟨cause, rfl⟩

/-- A main chain through one pinned block admits no fork below it, and that is not forgotten when
    the block is cut off and the best tip goes back to the first block. -/
theorem fork_stays_rejected_after_cut :
    let b : Block := { height := 1 }
    let table : Table :=
      { entries := [⟨1, b.digest⟩], ascending := List.pairwise_singleton _ _ }
    let start := (ofTable table 1).connect true b
    let s := ((start.after []).step (.admitFork 0)).session.after
      [.write (.cutAbove 0), .setBest {}]
    (start.step (.admitFork 0)).reply = .error (.fault (.forkBelowCheckpoint 0 1)) ∧
      ((∃ higher, 1 ≤ higher ∧
        (s.step (.admitFork 0)).reply = .error (.fault (.forkBelowCheckpoint 0 higher))) ∨
      ∃ cause, (s.step (.admitFork 0)).reply = .error (.fault (.inconsistentStore cause))) := by
  intro b table start s
  have hconfirm : Tracker.confirm start.store.snapshot ⟨1, b.digest⟩ = .ok b := by
    have hheight : start.store.heights[b.digest]? = some b.height := by
      rw [show start.store = Store.empty.connect b from rfl, Store.heights_connect, if_pos rfl]
    have hblock : start.store.blocks[b.digest]? = some b := by
      rw [show start.store = Store.empty.connect b from rfl, Store.blocks_connect, if_pos rfl]
    refine Tracker.confirm_eq_ok_iff.2 ⟨Store.isMain_iff.2 ⟨_, hheight⟩, ?_, rfl⟩
    exact Store.block_eq_ok_iff.2 ⟨b, hblock, by rw [hheight, Option.getD_some]⟩
  have hsource : start.source = .ok start.store.snapshot :=
    Store.source_under_eq_ok_iff.2 ⟨rfl, rfl⟩
  have hanswer : (start.guard.follow start.source start.best.height).answer = .ok (some b) := by
    rw [hsource, Guard.follow_answer]
    exact Tracker.answer_of_confirm rfl rfl rfl hconfirm
  have hrejected : (start.step (.admitFork 0)).reply =
      .error (.fault (.forkBelowCheckpoint 0 1)) := by
    rw [reply_admitFork, Guard.admitFork_answer hanswer]
    rfl
  have hlater : .restart ∉ [Command.write (.cutAbove 0), .setBest {}] := by
    simp only [List.mem_cons, List.not_mem_nil, reduceCtorEq, or_self, not_false_eq_true]
  exact ⟨hrejected, fork_stays_rejected rfl List.not_mem_nil hrejected hlater (UInt64.le_refl _)⟩

end Session

end ChainCheckpoints
