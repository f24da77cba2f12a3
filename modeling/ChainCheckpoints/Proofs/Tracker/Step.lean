import ChainCheckpoints.Guard.Tracker
import ChainCheckpoints.Proofs.Positions

/-!
# What One Call Can Do

Everything a tracker may do in one call, said once. A call scans, rests or ascends, and whatever a
history of calls is to be shown to keep is shown for these three; no later proof opens the tracker
again.

The snapshot is arbitrary throughout. A store that forgets blocks, contradicts its last snapshot or
fails in the middle of a call is a snapshot like any other, so what holds here holds against it.

The cases say what the log shows as well. `lockIns` reads the checkpoints locked in off the events
of a call; a history is then told from its log alone.

## Main definitions

* `lockIns`: the checkpoints that events report as locked in.
* `Tracker.Scanned`: how a cold scan ends.
* `Tracker.Ascended`: how far a warm call gets, and what stops it.
* `Tracker.Followed`: how a call ends.

## Theorems

* `Tracker.confirm_eq_ok_iff`: when a checkpoint can be locked in.
* `Tracker.scan_spec`, `Tracker.advance_spec`, `Tracker.follow_spec`: every scan, advance and call
  ends in one of the ways described.
* `Tracker.answer_of_confirm`: a cold call that finds the highest checkpoint.
* `Tracker.exists_cause_of_follow`: the fault of a call is an inconsistency of the store.
-/

namespace ChainCheckpoints

/-- The checkpoint that an event reports as locked in. -/
def Event.lockedIn? : Event → Option Checkpoint
  | .lockedIn c => some c
  | _ => none

/-- The checkpoints that events report as locked in, in order. -/
def lockIns (events : List Event) : List Checkpoint :=
  events.filterMap Event.lockedIn?

@[simp] theorem lockIns_lockedIn (c : Checkpoint) (events : List Event) :
    lockIns (.lockedIn c :: events) = c :: lockIns events := rfl

@[simp] theorem lockIns_notReached (c : Checkpoint) (events : List Event) :
    lockIns (.notReached c :: events) = lockIns events := rfl

@[simp] theorem lockIns_alarms (c : Checkpoint) (cause : Inconsistency) :
    lockIns (Tracker.alarms c cause) = [] := by
  cases cause <;> rfl

namespace Tracker

variable {table : Table} {view : Snapshot} {source : Except ReadError Snapshot} {best : UInt64}
  {t : Tracker} {c : Checkpoint} {b : Block} {cause : Inconsistency} {index count : Nat}
  {o : Outcome Tracker (Option Block)}

theorem isCold_iff : t.isCold = true ↔ t = cold := by
  rcases t with ⟨anchor, next⟩
  simp only [isCold, cold, decide_eq_true_eq, Option.isNone_iff_eq_none, mk.injEq]

@[simp] theorem isCold_cold : cold.isCold = true := rfl

@[simp] theorem isCold_waiting : waiting.isCold = false := rfl

@[simp] theorem isCold_anchored (table : Table) (index : Nat) (b : Block) :
    (anchored table index b).isCold = false := rfl

@[simp] theorem block?_cold : cold.block? = none := rfl

@[simp] theorem block?_waiting : waiting.block? = none := rfl

@[simp] theorem block?_anchored (table : Table) (index : Nat) (b : Block) :
    (anchored table index b).block? = some b := rfl

@[simp] theorem awaited?_waiting (table : Table) : waiting.awaited? table = table.get? 0 := rfl

/-- What an anchored tracker awaits stands right after its anchor. -/
@[simp] theorem awaited?_anchored (table : Table) (index : Nat) (b : Block) :
    (anchored table index b).awaited? table = table.get? (index + 1) := by
  unfold awaited? anchored
  by_cases hnext : index + 1 < table.size
  · simp only [if_pos hnext, Option.bind_some]
  · simp only [if_neg hnext, Option.bind_none]
    exact (Table.get?_eq_none_iff.2 (Nat.le_of_not_lt hnext)).symm

/-- A checkpoint can be locked in if the main chain runs through it, its block can be read, and the
    block stands at its height. -/
theorem confirm_eq_ok_iff :
    confirm view c = .ok b ↔
      view.isMain c.digest = .ok true ∧ view.block c.digest = .ok b ∧ b.height = c.height := by
  unfold confirm
  rcases hmain : view.isMain c.digest with e | _ | _
  · simp only [reduceCtorEq, false_and]
  · simp only [reduceCtorEq, Except.ok.injEq, Bool.false_eq_true, false_and]
  · rcases hblock : view.block c.digest with e | d
    · simp only [reduceCtorEq, false_and, and_false]
    · by_cases hheight : d.height = c.height
      · simp only [if_pos hheight, Except.ok.injEq, true_and]
        exact ⟨fun h => ⟨h, h ▸ hheight⟩, fun h => h.1⟩
      · simp only [if_neg hheight, reduceCtorEq, Except.ok.injEq, true_and, false_iff, not_and]
        exact fun h => h ▸ hheight

/-- A checkpoint off the main chain cannot be locked in, and that is what is said of it. -/
theorem confirm_of_off (hmain : view.isMain c.digest = .ok false) :
    confirm view c = .error (.offMainChain c) := by
  simp only [confirm, hmain]

theorem confirm_of_unread {e : ReadError} (hmain : view.isMain c.digest = .error e) :
    confirm view c = .error (.unread e) := by
  simp only [confirm, hmain]

theorem lockIn_of_confirm (hc : table.get? index = some c) (hb : confirm view c = .ok b) :
    lockIn table view index = (.ok (anchored table index b), [.lockedIn c]) := by
  simp only [lockIn, hc, hb]

theorem lockIn_of_refusal (hc : table.get? index = some c) (hcause : confirm view c = .error cause) :
    lockIn table view index = (.error (.inconsistentStore cause), alarms c cause) := by
  simp only [lockIn, hc, hcause]

/-- How a scan of the first `count` checkpoints ends. The checkpoint that decides is the highest one
    that the snapshot does not deny. -/
inductive Scanned (table : Table) (view : Snapshot) (t : Tracker) (count : Nat)
    (o : Outcome Tracker (Option Block)) : Prop
  /-- All are denied. -/
  | below (hdenied : ∀ i c, i < count → table.get? i = some c → view.isMain c.digest = .ok false)
      (hanswer : o.answer = .ok none) (hstate : o.state = waiting) (hlog : lockIns o.events = [])
  | found {index : Nat} {c : Checkpoint} {b : Block} (hindex : index < count)
      (hc : table.get? index = some c) (hb : confirm view c = .ok b)
      (hdenied : ∀ i d, index < i → i < count → table.get? i = some d →
        view.isMain d.digest = .ok false)
      (hanswer : o.answer = .ok (some b)) (hstate : o.state = anchored table index b)
      (hlog : lockIns o.events = [c])
  | refused {index : Nat} {c : Checkpoint} {cause : Inconsistency} (hindex : index < count)
      (hc : table.get? index = some c) (hcause : confirm view c = .error cause)
      (hmain : view.isMain c.digest ≠ .ok false)
      (hanswer : o.answer = .error (.inconsistentStore cause)) (hstate : o.state = t)
      (hlog : lockIns o.events = [])

/-- A denied checkpoint on top leaves the end of a scan as it is. -/
theorem Scanned.after (h : Scanned table view t count o) (hc : table.get? count = some c)
    (hmain : view.isMain c.digest = .ok false) :
    Scanned table view t (count + 1) (o.after [.notReached c]) := by
  have hdenied : ∀ i d, i = count → table.get? i = some d → view.isMain d.digest = .ok false := by
    intro i d hi hd
    rw [hi, hc, Option.some.injEq] at hd
    rw [← hd]
    exact hmain
  have hlog : lockIns (o.after [.notReached c]).events = lockIns o.events :=
    lockIns_notReached c o.events
  cases h with
  | below hbelow hanswer hstate hnone =>
    refine .below (fun i d hi hd => ?_) hanswer hstate (hlog.trans hnone)
    rcases Nat.lt_or_eq_of_le (Nat.le_of_lt_succ hi) with hi | hi
    · exact hbelow i d hi hd
    · exact hdenied i d hi hd
  | found hindex hat hb habove hanswer hstate hone =>
    refine .found (Nat.lt_succ_of_lt hindex) hat hb (fun i d hlow hi hd => ?_) hanswer hstate
      (hlog.trans hone)
    rcases Nat.lt_or_eq_of_le (Nat.le_of_lt_succ hi) with hi | hi
    · exact habove i d hlow hi hd
    · exact hdenied i d hi hd
  | refused hindex hat hcause hnot hanswer hstate hnone =>
    exact .refused (Nat.lt_succ_of_lt hindex) hat hcause hnot hanswer hstate (hlog.trans hnone)

theorem scan_spec (hcount : count ≤ table.size) :
    Scanned table view t count (scan table view t count) := by
  induction count with
  | zero => exact .below (fun i c hi => absurd hi (Nat.not_lt_zero i)) rfl rfl rfl
  | succ index ih =>
    rcases Table.exists_get? hcount with ⟨c, hc⟩
    rcases hmain : view.isMain c.digest with e | _ | _
    -- The question fails.
    · have hscan : scan table view t (index + 1) = t.failed (.unread e) [] := by
        simp only [scan, hc, hmain]
      rw [hscan]
      exact .refused (Nat.lt_succ_self index) hc (confirm_of_unread hmain)
        (by simp only [hmain, ne_eq, reduceCtorEq, not_false_eq_true]) rfl rfl rfl
    -- The checkpoint on top is denied, and the scan goes on below it.
    · have hscan : scan table view t (index + 1)
          = (scan table view t index).after [.notReached c] := by
        simp only [scan, hc, hmain]
      rw [hscan]
      exact (ih (Nat.le_of_succ_le hcount)).after hc hmain
    -- The checkpoint on top decides, whether it can be locked in or not.
    · have hnone : ∀ i d, index < i → i < index + 1 → table.get? i = some d →
          view.isMain d.digest = .ok false := fun i _ hlow hhigh => by omega
      rcases hconfirm : confirm view c with cause | b
      · have hscan : scan table view t (index + 1)
            = t.failed (.inconsistentStore cause) (alarms c cause) := by
          simp only [scan, hc, hmain, lockIn_of_refusal hc hconfirm]
        rw [hscan]
        exact .refused (Nat.lt_succ_self index) hc hconfirm
          (by simp only [hmain, ne_eq, Except.ok.injEq, Bool.true_eq_false, not_false_eq_true])
          rfl rfl (lockIns_alarms c cause)
      · have hscan : scan table view t (index + 1)
            = (anchored table index b).settled.after [.lockedIn c] := by
          simp only [scan, hc, hmain, lockIn_of_confirm hc hconfirm]
        rw [hscan]
        exact .found (Nat.lt_succ_self index) hc hconfirm hnone rfl rfl rfl

/-- How far a warm call gets that starts at position `index`: through `count` checkpoints, each of
    them due and confirmed, up to one that is not due or cannot be locked in. -/
structure Ascended (table : Table) (view : Snapshot) (best : UInt64) (index : Nat) (t : Tracker)
    (count : Nat) (o : Outcome Tracker (Option Block)) : Prop where
  passed : ∀ i, index ≤ i → i < index + count →
    ∃ c b, table.get? i = some c ∧ c.height ≤ best ∧ confirm view c = .ok b
  log : (lockIns o.events).map some = (List.range' index count).map table.get?
  state : (count = 0 ∧ o.state = t) ∨
    ∃ last c b, count = last + 1 ∧ table.get? (index + last) = some c ∧ confirm view c = .ok b ∧
      o.state = anchored table (index + last) b
  stop : (o.answer = .ok o.state.block? ∧
      ∀ c, table.get? (index + count) = some c → best < c.height) ∨
    ∃ c cause, table.get? (index + count) = some c ∧ c.height ≤ best ∧
      confirm view c = .error cause ∧ o.answer = .error (.inconsistentStore cause)

/-- A call that gets nowhere because nothing is due. -/
theorem Ascended.settled (hnone : ∀ c, table.get? index = some c → best < c.height) :
    Ascended table view best index t 0 t.settled where
  passed i hlow hhigh := by omega
  log := rfl
  state := .inl ⟨rfl, rfl⟩
  stop := .inl ⟨rfl, hnone⟩

/-- A call that gets nowhere because the first checkpoint cannot be locked in. -/
theorem Ascended.failed (hc : table.get? index = some c) (hdue : c.height ≤ best)
    (hcause : confirm view c = .error cause) :
    Ascended table view best index t 0 (t.failed (.inconsistentStore cause) (alarms c cause)) where
  passed i hlow hhigh := by omega
  log := congrArg (List.map some) (lockIns_alarms c cause)
  state := .inl ⟨rfl, rfl⟩
  stop := .inr ⟨c, cause, hc, hdue, hcause, rfl⟩

/-- A call that locks in the first checkpoint and goes on from there. -/
theorem Ascended.after (h : Ascended table view best (index + 1) (anchored table index b) count o)
    (hc : table.get? index = some c) (hdue : c.height ≤ best) (hb : confirm view c = .ok b) :
    Ascended table view best index t (count + 1) (o.after [.lockedIn c]) where
  passed i hlow hhigh := by
    by_cases hi : i = index
    · rw [hi]
      exact ⟨c, b, hc, hdue, hb⟩
    · exact h.passed i (by omega) (by omega)
  log := by
    have hlog : lockIns (o.after [.lockedIn c]).events = c :: lockIns o.events :=
      lockIns_lockedIn c o.events
    rw [hlog, List.map_cons, h.log, List.range'_succ, List.map_cons, hc]
  state := by
    right
    rcases h.state with ⟨hzero, hstate⟩ | ⟨last, d, e, hcount, hd, he, hstate⟩
    · exact ⟨0, c, b, by rw [hzero], hc, hb, hstate⟩
    · have hlast : index + 1 + last = index + (last + 1) := by omega
      rw [hlast] at hd hstate
      exact ⟨last + 1, d, e, by rw [hcount], hd, he, hstate⟩
  stop := by
    have hend : index + 1 + count = index + (count + 1) := by omega
    have hstop := h.stop
    rw [hend] at hstop
    exact hstop

theorem advance_spec (table : Table) (view : Snapshot) (best : UInt64) (index : Nat) (t : Tracker) :
    ∃ count, Ascended table view best index t count
      (advance table view best (table.entries.drop index) index t) := by
  -- The induction is on the pending checkpoints, for every tracker to start from: each one that is
  -- locked in is the tracker from which the rest of the call goes on.
  generalize hpending : table.entries.drop index = pending
  induction pending generalizing index t with
  | nil =>
    have hend : table.get? index = none :=
      Table.get?_eq_none_iff.2 (List.drop_eq_nil_iff.1 hpending)
    exact ⟨0, .settled fun c hc => by rw [hend] at hc; exact absurd hc (Option.some_ne_none c).symm⟩
  | cons c pending ih =>
    have hc : table.get? index = some c := by
      have h : (table.entries.drop index)[0]? = table.get? (index + 0) := List.getElem?_drop
      rw [hpending] at h
      exact h.symm
    have hrest : table.entries.drop (index + 1) = pending := by
      have h := Table.drop_eq_cons hc
      rw [hpending, List.cons.injEq] at h
      exact h.2.symm
    by_cases hdue : c.height ≤ best
    · rcases hconfirm : confirm view c with cause | b
      -- Due and refused: what was locked in on the way here stays.
      · have hadvance : advance table view best (c :: pending) index t
            = t.failed (.inconsistentStore cause) (alarms c cause) := by
          simp only [advance, if_pos hdue, lockIn_of_refusal hc hconfirm]
        rw [hadvance]
        exact ⟨0, .failed hc hdue hconfirm⟩
      · have hadvance : advance table view best (c :: pending) index t
            = (advance table view best pending (index + 1) (anchored table index b)).after
              [.lockedIn c] := by
          simp only [advance, if_pos hdue, lockIn_of_confirm hc hconfirm]
        rcases ih (index + 1) (anchored table index b) hrest with ⟨count, hcount⟩
        rw [hadvance]
        exact ⟨count + 1, hcount.after hc hdue hconfirm⟩
    · have hadvance : advance table view best (c :: pending) index t = t.settled := by
        simp only [advance, if_neg hdue]
      rw [hadvance]
      refine ⟨0, .settled fun d hd => ?_⟩
      rw [hc, Option.some.injEq] at hd
      rw [← hd]
      exact UInt64.not_le.1 hdue

/-- How a call ends. -/
inductive Followed (t : Tracker) (table : Table) (source : Except ReadError Snapshot)
    (best : UInt64) (o : Outcome Tracker (Option Block)) : Prop
  /-- There is no checkpoint to look for. -/
  | vacant (hempty : table.isEmpty = true) (hanswer : o.answer = .ok none) (hstate : o.state = t)
      (hlog : lockIns o.events = [])
  /-- There is something to look for, but the store cannot be opened. -/
  | unopened {e : ReadError} (hsource : source = .error e)
      (hanswer : o.answer = .error (.unread e)) (hstate : o.state = t)
      (hlog : lockIns o.events = [])
  | scanned {view : Snapshot} (hne : table.isEmpty = false) (hcold : t = cold)
      (hsource : source = .ok view) (hscan : Scanned table view t table.size o)
  /-- Nothing is due. -/
  | rested (hwarm : t.isCold = false) (hnone : ∀ c, t.awaited? table = some c → best < c.height)
      (hanswer : o.answer = .ok t.block?) (hstate : o.state = t) (hlog : lockIns o.events = [])
  | ascended {view : Snapshot} {index count : Nat} (hwarm : t.isCold = false)
      (hnext : t.next = some index) (hsource : source = .ok view)
      (hascent : Ascended table view best index t count o)

theorem follow_spec (t : Tracker) (table : Table) (source : Except ReadError Snapshot)
    (best : UInt64) : Followed t table source best (t.follow table source best) := by
  unfold follow
  by_cases hempty : table.isEmpty = true
  · rw [if_pos hempty]
    exact .vacant hempty rfl rfl rfl
  rw [if_neg hempty]
  by_cases hcold : t.isCold = true
  · rw [if_pos hcold]
    rcases source with e | view
    · exact .unopened rfl rfl rfl rfl
    · exact .scanned (Bool.not_eq_true _ ▸ hempty) (isCold_iff.1 hcold) rfl
        (scan_spec (Nat.le_refl _))
  rw [if_neg hcold]
  rw [Bool.not_eq_true] at hcold
  by_cases hdue : (t.awaited? table).any (·.height ≤ best) = true
  · rw [if_pos hdue]
    rcases source with e | view
    · exact .unopened rfl rfl rfl rfl
    · rcases hnext : t.next with _ | index
      · simp only [awaited?, hnext, Option.bind_none, Option.any_none, Bool.false_eq_true] at hdue
      · rcases advance_spec table view best index t with ⟨count, hcount⟩
        simp only [pending, hnext]
        exact .ascended hcold hnext rfl hcount
  · rw [if_neg hdue]
    refine .rested hcold (fun c hc => ?_) rfl rfl rfl
    rw [hc, Option.any_some, decide_eq_true_eq] at hdue
    exact UInt64.not_le.1 hdue

/-- A cold call is anchored at the highest checkpoint if that can be locked in. -/
theorem answer_of_confirm (hne : table.isEmpty = false) (hsize : table.size = index + 1)
    (hc : table.get? index = some c) (hb : confirm view c = .ok b) :
    (cold.follow table (.ok view) best).answer = .ok (some b) := by
  have hmain : view.isMain c.digest = .ok true := (confirm_eq_ok_iff.1 hb).1
  simp only [follow, hne, Bool.false_eq_true, isCold_cold, hsize, scan, hc, hmain,
    lockIn_of_confirm hc hb, ↓reduceIte]
  rfl

/-- A call never fails for a position that the table does not have. -/
theorem exists_cause_of_follow {fault : Fault}
    (h : (t.follow table source best).answer = .error fault) :
    ∃ cause, fault = .inconsistentStore cause := by
  cases follow_spec t table source best with
  | vacant _ hanswer _ _ => cases hanswer.symm.trans h
  | rested _ _ hanswer _ _ => cases hanswer.symm.trans h
  | @unopened e _ hanswer _ _ =>
    rw [hanswer, Except.error.injEq] at h
    exact ⟨.unread e, h.symm⟩
  | scanned _ _ _ hscan =>
    cases hscan with
    | below _ hanswer _ _ => cases hanswer.symm.trans h
    | found _ _ _ _ hanswer _ _ => cases hanswer.symm.trans h
    | @refused _ _ cause _ _ _ _ hanswer _ _ =>
      rw [hanswer, Except.error.injEq] at h
      exact ⟨cause, h.symm⟩
  | ascended _ _ _ hascent =>
    rcases hascent.stop with ⟨hanswer, _⟩ | ⟨_, cause, _, _, _, hanswer⟩
    · cases hanswer.symm.trans h
    · rw [hanswer, Except.error.injEq] at h
      exact ⟨cause, h.symm⟩

end Tracker

end ChainCheckpoints
