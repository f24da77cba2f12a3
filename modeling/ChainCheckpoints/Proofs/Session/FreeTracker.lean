import ChainCheckpoints.Proofs.Session.Run
import ChainCheckpoints.Proofs.Tracker.Shape

/-!
# The Free Tracker of a Session

A session drives its free tracker through every history there is: blocks are connected, stored
aside, cut off and lost, the store becomes unreadable and readable again, chosen questions fail, and
best heights come in any order. Only the table is kept.

Through all of it the tracker has one of its three shapes. The invariant needs two things more than
that: which table the tracker is given, and that the store keeps blocks under their own digests. The
latter is why the block in the anchor is the pinned one and not only a block at its height.

## Main definitions

* `Session.Answers`: a call of the free tracker that has an answer.
* `Session.Tracking`: the invariant.

## Theorems

* `Session.Tracking.step`: a command keeps the invariant.
* `Session.isCold_step_iff`: the tracker is cold until a call has an answer.
* `Session.free_tracker_shape`: after any history, the shape of the free tracker.
-/

namespace ChainCheckpoints

namespace Session

open Tracker (Formed Shape HasShape)

variable {table : Table} {s : Session} {command : Command}

/-- A call of the free tracker that has an answer. -/
def Answers : Command → Step → Prop
  | .followFree _, step => ∃ reply, step.reply = .ok reply
  | _, _ => False

/-- What is known of a session that keeps the table of its free tracker. -/
structure Tracking (table : Table) (s : Session) : Prop where
  table_eq : s.table = table
  keyed : s.store.Keyed
  formed : Formed Checkpoint.Pins table s.tracker

theorem tracking_ofTable (table : Table) (confirmations : UInt64) :
    Tracking table (ofTable table confirmations) where
  table_eq := rfl
  keyed := Store.keyed_empty
  formed := .cold

theorem Tracking.pins {view : Snapshot} {c : Checkpoint} {b : Block} (h : Tracking table s)
    (hview : s.source = .ok view) (hb : Tracker.confirm view c = .ok b) : c.Pins b := by
  rcases Tracker.confirm_eq_ok_iff.1 hb with ⟨_, hblock, hheight⟩
  -- The block has been looked up by the pinned digest.
  exact ⟨hheight, h.keyed.digest_of_view hview hblock⟩

theorem Tracking.step (h : Tracking table s) (hkeep : ∀ config, command ≠ .setTable config) :
    Tracking table (s.step command).session where
  table_eq := by rw [step_table hkeep, h.table_eq]
  keyed := by
    rw [step_store]
    exact h.keyed.writes command.writes
  formed := by
    -- Only a call of the free tracker changes it.
    by_cases hfree : ∃ best, command = .followFree best
    · rcases hfree with ⟨best, rfl⟩
      have hformed : Formed Checkpoint.Pins table (s.tracker.follow table s.source best).state :=
        h.formed.follow fun view c b hview _ hb => h.pins hview hb
      rw [← h.table_eq] at hformed ⊢
      exact hformed
    · rw [step_tracker fun best hbest => hfree ⟨best, hbest⟩]
      exact h.formed

theorem Tracking.after {commands : List Command} (h : Tracking table s)
    (hkeep : ∀ config, .setTable config ∉ commands) : Tracking table (s.after commands) := by
  induction commands generalizing s with
  | nil => exact h
  | cons command commands ih =>
    have hstep : Tracking table (s.step command).session :=
      h.step fun config hconfig => hkeep config (hconfig ▸ List.mem_cons_self ..)
    exact ih hstep fun config hmem => hkeep config (List.mem_cons_of_mem command hmem)

theorem isCold_step_iff (hne : s.table.isEmpty = false) :
    (s.step command).session.tracker.isCold = true ↔
      s.tracker.isCold = true ∧ ¬ Answers command (s.step command) := by
  by_cases hfree : ∃ best, command = .followFree best
  · rcases hfree with ⟨best, rfl⟩
    have hreply : (s.step (.followFree best)).reply =
        ((s.tracker.follow s.table s.source best).answer.map .anchor).mapError .fault := rfl
    have hanswers : Answers (.followFree best) (s.step (.followFree best)) ↔
        ∃ a, (s.tracker.follow s.table s.source best).answer = .ok a := by
      simp only [Answers, hreply]
      rcases (s.tracker.follow s.table s.source best).answer with fault | a
      · exact ⟨fun ⟨_, h⟩ => (by cases h), fun ⟨_, h⟩ => (by cases h)⟩
      · exact ⟨fun _ => ⟨a, rfl⟩, fun _ => ⟨_, rfl⟩⟩
    rw [hanswers, not_exists]
    exact Tracker.isCold_follow_iff hne
  · have hnot : ¬ Answers command (s.step command) := by
      intro hanswers
      cases command with
      | followFree best => exact hfree ⟨best, rfl⟩
      | _ => exact hanswers
    rw [step_tracker fun best hbest => hfree ⟨best, hbest⟩]
    exact ⟨fun hcold => ⟨hcold, hnot⟩, fun h => h.1⟩

theorem isCold_after_iff {commands : List Command} (h : Tracking table s)
    (hne : table.isEmpty = false) (hkeep : ∀ config, .setTable config ∉ commands) :
    (s.after commands).tracker.isCold = true ↔
      s.tracker.isCold = true ∧ ∀ p ∈ commands.zip (s.run commands), ¬ Answers p.1 p.2 := by
  induction commands generalizing s with
  | nil => simp only [after_nil, List.zip_nil_left, List.not_mem_nil, false_implies,
      implies_true, and_true]
  | cons command commands ih =>
    have hstep : Tracking table (s.step command).session :=
      h.step fun config hconfig => hkeep config (hconfig ▸ List.mem_cons_self ..)
    rw [after_cons, ih hstep fun config hmem => hkeep config (List.mem_cons_of_mem command hmem),
      isCold_step_iff (h.table_eq ▸ hne)]
    simp only [run, List.zip_cons_cons, List.mem_cons, forall_eq_or_imp, and_assoc]

/-- After any history that keeps the table, the free tracker has exactly one of the three shapes,
    and if there is a checkpoint to look for, it is cold as long as no call has had an answer. -/
theorem free_tracker_shape (table : Table) (confirmations : UInt64) (commands : List Command)
    (hkeep : ∀ config, .setTable config ∉ commands) :
    let start := ofTable table confirmations
    let t := (start.after commands).tracker
    (∃ shape, t.HasShape table shape ∧ ∀ other, t.HasShape table other → other = shape) ∧
      (table.isEmpty = false →
        (t.HasShape table .cold ↔
          ∀ p ∈ commands.zip (start.run commands), ¬ Answers p.1 p.2)) := by
  intro start t
  have hstart : Tracking table start := tracking_ofTable table confirmations
  rcases (hstart.after hkeep).formed.hasShape with ⟨shape, hshape⟩
  refine ⟨⟨shape, hshape, fun other hother => hshape.unique hother⟩, fun hne => ?_⟩
  rw [Tracker.hasShape_cold_iff, isCold_after_iff hstart hne hkeep]
  exact ⟨fun h => h.2, fun h => ⟨rfl, h⟩⟩

/-- The tracker waits until the first checkpoint is connected. Then it locks it in, fails at the second
    one, which is not in the main chain, and stays at the first through a call that cannot read. -/
theorem free_tracker_shape_anchored :
    let b : Block := { height := 1 }
    let table : Table := {
      entries := [⟨1, b.digest⟩, ⟨2, .zero⟩]
      ascending := List.pairwise_pair.2 (by decide) }
    let commands : List Command := [
      .followFree 0, .extend [b] true, .followFree 2, .write (.setReadable false), .followFree 2]
    let t := ((ofTable table 1).after commands).tracker
    (∀ config, .setTable config ∉ commands) ∧ t.HasShape table (.anchored 0) ∧
      ∀ other, t.HasShape table other → other = .anchored 0 := by
  intro b table commands t
  have hkeep : ∀ config, .setTable config ∉ commands := by
    intro config
    simp only [commands, List.mem_cons, List.not_mem_nil, reduceCtorEq, or_self, not_false_eq_true]
  have ht : t = .anchored table 0 b := by decide +kernel
  have hanchored : t.HasShape table (.anchored 0) := by
    rw [ht]
    exact ⟨⟨⟨1, b.digest⟩, b, rfl, rfl, rfl, rfl⟩, rfl⟩
  rcases (free_tracker_shape table 1 commands hkeep).1 with ⟨shape, _, hunique⟩
  refine ⟨hkeep, hanchored, fun other hother => ?_⟩
  rw [hunique other hother, hunique (.anchored 0) hanchored]

end Session

end ChainCheckpoints
