import ChainCheckpoints.Proofs.Tracker.Step

/-!
# Calls That Have an Answer

The ends of a call without the faults. An answer means that the tracker is warm and that its anchor
is the answer, whichever way the call took.

What it means for the checkpoint awaited next depends on the way. A warm call compares heights and
goes on until nothing is due. A cold call asks the main chain only: the checkpoint that it leaves to
be awaited is one that the main chain does not run through, due or not.

## Main definitions

* `Tracker.Answered`: how a call ends that has an answer.

## Theorems

* `Tracker.answered_of_follow`: a call that has an answer ends in one of these ways.
* `Tracker.Answered.block?_eq`: the answer is the anchor.
* `Tracker.Answered.isCold_eq_false`: an answer leaves a warm tracker.
* `Tracker.Answered.idle_of_warm`: a warm call that has an answer leaves nothing due.
* `Tracker.Answered.denied_of_cold`: what a cold call leaves to be awaited is off the main chain.
-/

namespace ChainCheckpoints

namespace Tracker

variable {table : Table} {view : Snapshot} {source : Except ReadError Snapshot} {best : UInt64}
  {t : Tracker} {c : Checkpoint} {a : Option Block} {index count : Nat}
  {o : Outcome Tracker (Option Block)}

theorem awaited?_of_next (hnext : t.next = some index) : t.awaited? table = table.get? index := by
  rw [awaited?, hnext, Option.bind_some]

/-- A table without entries has nothing to await, wherever a tracker stands. -/
theorem awaited?_of_isEmpty (hempty : table.isEmpty = true) : t.awaited? table = none := by
  rcases hnext : t.next with _ | index
  · rw [awaited?, hnext, Option.bind_none]
  · rw [awaited?_of_next hnext]
    exact Table.get?_eq_none_iff.2 (by rw [Table.isEmpty_iff_size.1 hempty]; exact Nat.zero_le _)

theorem follow_of_isEmpty (hempty : table.isEmpty = true) :
    t.follow table source best = { answer := .ok none, state := t } := by
  unfold follow
  rw [if_pos hempty]

/-- An ascent ends right below the checkpoint that is awaited then. -/
theorem Ascended.awaited?_eq (h : Ascended table view best index t count o)
    (hnext : t.next = some index) : o.state.awaited? table = table.get? (index + count) := by
  rcases h.state with ⟨hzero, hstate⟩ | ⟨last, c, b, hcount, _, _, hstate⟩
  · rw [hstate, awaited?_of_next hnext, hzero, Nat.add_zero]
  · rw [hstate, awaited?_anchored, hcount, Nat.add_assoc]

theorem Ascended.isCold_eq_false (h : Ascended table view best index t count o)
    (hwarm : t.isCold = false) : o.state.isCold = false := by
  rcases h.state with ⟨_, hstate⟩ | ⟨_, _, _, _, _, _, hstate⟩
  · rw [hstate]
    exact hwarm
  · rw [hstate, isCold_anchored]

/-- How a call ends that has an answer. -/
inductive Answered (t : Tracker) (table : Table) (source : Except ReadError Snapshot)
    (best : UInt64) (a : Option Block) (o : Outcome Tracker (Option Block)) : Prop
  /-- There is no checkpoint to look for. -/
  | vacant (hempty : table.isEmpty = true) (ha : a = none) (hstate : o.state = t)
  /-- The main chain runs through no checkpoint. -/
  | below {view : Snapshot} (hne : table.isEmpty = false) (hcold : t = cold)
      (hsource : source = .ok view)
      (hdenied : ∀ i d, table.get? i = some d → view.isMain d.digest = .ok false)
      (ha : a = none) (hstate : o.state = waiting)
  | found {view : Snapshot} {index : Nat} {c : Checkpoint} {b : Block}
      (hne : table.isEmpty = false) (hcold : t = cold) (hsource : source = .ok view)
      (hc : table.get? index = some c) (hb : confirm view c = .ok b)
      (hdenied : ∀ i d, index < i → table.get? i = some d → view.isMain d.digest = .ok false)
      (ha : a = some b) (hstate : o.state = anchored table index b)
  /-- Nothing is due. -/
  | rested (hwarm : t.isCold = false) (hnone : ∀ c, t.awaited? table = some c → best < c.height)
      (ha : a = t.block?) (hstate : o.state = t)
  | ascended {view : Snapshot} {index count : Nat} (hwarm : t.isCold = false)
      (hnext : t.next = some index) (hsource : source = .ok view)
      (hascent : Ascended table view best index t count o)
      (hnone : ∀ c, table.get? (index + count) = some c → best < c.height)
      (ha : a = o.state.block?)

theorem answered_of_follow (h : (t.follow table source best).answer = .ok a) :
    Answered t table source best a (t.follow table source best) := by
  cases follow_spec t table source best with
  | vacant hempty hanswer hstate _ =>
    rw [hanswer, Except.ok.injEq] at h
    exact .vacant hempty h.symm hstate
  | unopened _ hanswer _ _ => cases hanswer.symm.trans h
  | scanned hne hcold hsource hscan =>
    cases hscan with
    | below hdenied hanswer hstate _ =>
      rw [hanswer, Except.ok.injEq] at h
      exact .below hne hcold hsource (fun i d hd => hdenied i d (Table.lt_size hd) hd) h.symm hstate
    | found _ hc hb hdenied hanswer hstate _ =>
      rw [hanswer, Except.ok.injEq] at h
      exact .found hne hcold hsource hc hb
        (fun i d hlow hd => hdenied i d hlow (Table.lt_size hd) hd) h.symm hstate
    | refused _ _ _ _ hanswer _ _ => cases hanswer.symm.trans h
  | rested hwarm hnone hanswer hstate _ =>
    rw [hanswer, Except.ok.injEq] at h
    exact .rested hwarm hnone h.symm hstate
  | ascended hwarm hnext hsource hascent =>
    rcases hascent.stop with ⟨hanswer, hnone⟩ | ⟨_, _, _, _, _, hanswer⟩
    · rw [hanswer, Except.ok.injEq] at h
      exact .ascended hwarm hnext hsource hascent hnone h.symm
    · cases hanswer.symm.trans h

namespace Answered

theorem block?_eq (h : Answered t table source best a o) (hne : table.isEmpty = false) :
    a = o.state.block? := by
  cases h with
  | vacant hempty _ _ => cases hne.symm.trans hempty
  | below _ _ _ _ ha hstate => rw [ha, hstate, block?_waiting]
  | found _ _ _ _ _ _ ha hstate => rw [ha, hstate, block?_anchored]
  | rested _ _ ha hstate => rw [ha, hstate]
  | ascended _ _ _ _ _ ha => exact ha

theorem isCold_eq_false (h : Answered t table source best a o) (hne : table.isEmpty = false) :
    o.state.isCold = false := by
  cases h with
  | vacant hempty _ _ => cases hne.symm.trans hempty
  | below _ _ _ _ _ hstate => rw [hstate, isCold_waiting]
  | found _ _ _ _ _ _ _ hstate => rw [hstate, isCold_anchored]
  | rested hwarm _ _ hstate => rw [hstate, hwarm]
  | ascended hwarm _ _ hascent _ _ => exact hascent.isCold_eq_false hwarm

theorem idle_of_warm (h : Answered t table source best a o) (hwarm : t.isCold = false) :
    ∀ c, o.state.awaited? table = some c → best < c.height := by
  intro c hc
  cases h with
  | vacant hempty _ _ =>
    rw [awaited?_of_isEmpty hempty] at hc
    cases hc
  -- A scan begins with a cold tracker.
  | below _ hcold _ _ _ _ =>
    rw [hcold, isCold_cold] at hwarm
    cases hwarm
  | found _ hcold _ _ _ _ _ _ =>
    rw [hcold, isCold_cold] at hwarm
    cases hwarm
  | rested _ hnone _ hstate =>
    rw [hstate] at hc
    exact hnone c hc
  | ascended _ hnext _ hascent hnone _ =>
    rw [hascent.awaited?_eq hnext] at hc
    exact hnone c hc

theorem denied_of_cold (h : Answered t table source best a o) (hcold : t.isCold = true)
    (hc : o.state.awaited? table = some c) :
    ∃ view, source = .ok view ∧ view.isMain c.digest = .ok false := by
  cases h with
  | vacant hempty _ _ =>
    rw [awaited?_of_isEmpty hempty] at hc
    cases hc
  | below _ _ hsource hdenied _ hstate =>
    rw [hstate, awaited?_waiting] at hc
    exact ⟨_, hsource, hdenied 0 c hc⟩
  | found _ _ hsource _ _ hdenied _ hstate =>
    rw [hstate, awaited?_anchored] at hc
    exact ⟨_, hsource, hdenied _ c (Nat.lt_succ_self _) hc⟩
  | rested hwarm _ _ _ => cases hcold.symm.trans hwarm
  | ascended hwarm _ _ _ _ _ => cases hcold.symm.trans hwarm

end Answered

end Tracker

end ChainCheckpoints
