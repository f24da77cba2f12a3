import ChainCheckpoints.Proofs.Tracker.History
import ChainCheckpoints.Proofs.Tracker.Order

/-!
# How Far a Warm Call Gets

A warm call climbs the table from the checkpoint that it awaits. It halts at the first position with
nothing to lock in: past the last checkpoint, at one that is not due, or at one that is due and
refused. Everything below that position is locked in, and nothing else is. The answer is read off the
position: a refusal is a fault, and the other two are answers.

The halting position does not depend on where the climb began, as long as it began below. So a climb
that begins on the way of another comes to the same end, and to the same anchor if it locks anything
in at all.

## Main definitions

* `Tracker.Refused`: why a checkpoint cannot be locked in, question by question.
* `Tracker.Idle`, `Tracker.Blocked`, `Tracker.Halts`: the positions where a climb ends.
* `Tracker.Climbed`: a climb from one position to another, with all that comes of it.
* `Tracker.Reachable`: the trackers that some history of calls leaves.

## Theorems

* `Tracker.confirm_eq_error_iff`: a checkpoint that cannot be confirmed is refused.
* `Tracker.Ascended.climbed`, `Tracker.climbed_of_next`: a warm call is a climb.
* `Tracker.Climbed.end_of_first`: a climb ends at the first position to halt at.
* `Tracker.Climbed.end_eq`, `Tracker.Climbed.outcome_eq`: a climb that begins on the way of another
  comes to the same end.
* `Tracker.Reachable.placed`: the anchor of a reachable tracker stands at its checkpoint's height.
-/

namespace ChainCheckpoints

namespace Tracker

variable {table : Table} {view : Snapshot} {source : Except ReadError Snapshot} {best : UInt64}
  {t u : Tracker} {c : Checkpoint} {b : Block} {cause : Inconsistency} {i j k l n : Nat}
  {o o' : Outcome Tracker (Option Block)}

/-- Why a checkpoint cannot be locked in. -/
inductive Refused (view : Snapshot) (c : Checkpoint) : Inconsistency → Prop
  /-- The main chain cannot be asked. -/
  | unread {e : ReadError} (hmain : view.isMain c.digest = .error e) : Refused view c (.unread e)
  /-- The main chain does not run through it. -/
  | offMainChain (hmain : view.isMain c.digest = .ok false) : Refused view c (.offMainChain c)
  /-- Its block cannot be read. -/
  | missing {e : ReadError} (hmain : view.isMain c.digest = .ok true)
      (hblock : view.block c.digest = .error e) :
      Refused view c (.missing (.checkpointBlock c.digest) e)
  /-- Its block stands at another height. -/
  | misplaced {b : Block} (hmain : view.isMain c.digest = .ok true)
      (hblock : view.block c.digest = .ok b) (hheight : b.height ≠ c.height) :
      Refused view c (.misplaced c b.height)

/-- A checkpoint that cannot be confirmed is refused. -/
theorem confirm_eq_error_iff : confirm view c = .error cause ↔ Refused view c cause := by
  constructor
  · intro h
    rcases hmain : view.isMain c.digest with e | _ | _
    · simp only [confirm, hmain, Except.error.injEq] at h
      exact h ▸ .unread hmain
    · simp only [confirm, hmain, Except.error.injEq] at h
      exact h ▸ .offMainChain hmain
    · rcases hblock : view.block c.digest with e | b
      · simp only [confirm, hmain, hblock, Except.error.injEq] at h
        exact h ▸ .missing hmain hblock
      · by_cases hheight : b.height = c.height
        · simp only [confirm, hmain, hblock, if_pos hheight, reduceCtorEq] at h
        · simp only [confirm, hmain, hblock, if_neg hheight, Except.error.injEq] at h
          exact h ▸ .misplaced hmain hblock hheight
  · intro h
    cases h with
    | unread hmain => exact confirm_of_unread hmain
    | offMainChain hmain => exact confirm_of_off hmain
    | missing hmain hblock => simp only [confirm, hmain, hblock]
    | misplaced hmain hblock hheight => simp only [confirm, hmain, hblock, if_neg hheight]

/-- The position is past the last checkpoint, or its checkpoint is not due. -/
def Idle (table : Table) (best : UInt64) (k : Nat) : Prop :=
  ∀ c, table.get? k = some c → best < c.height

/-- The checkpoint at the position is due and cannot be locked in. -/
def Blocked (table : Table) (view : Snapshot) (best : UInt64) (k : Nat) (cause : Inconsistency) :
    Prop :=
  ∃ c, table.get? k = some c ∧ c.height ≤ best ∧ Refused view c cause

/-- There is nothing to lock in at the position. -/
def Halts (table : Table) (view : Snapshot) (best : UInt64) (k : Nat) : Prop :=
  Idle table best k ∨ ∃ cause, Blocked table view best k cause

theorem idle_or_due (table : Table) (best : UInt64) (k : Nat) :
    Idle table best k ∨ ∃ c, table.get? k = some c ∧ c.height ≤ best := by
  rcases hc : table.get? k with _ | c
  · exact .inl fun d hd => by cases hc.symm.trans hd
  · rcases UInt64.lt_or_le best c.height with hearly | hdue
    · refine .inl fun d hd => ?_
      rw [hc, Option.some.injEq] at hd
      exact hd ▸ hearly
    · exact .inr ⟨c, rfl, hdue⟩

/-- What is due stands below every position where nothing is. -/
theorem Idle.lt_of_due (hidle : Idle table best k) (hc : table.get? j = some c)
    (hdue : c.height ≤ best) : j < k := by
  refine Nat.lt_of_not_le fun hkj => ?_
  rcases Table.exists_get? (Nat.lt_of_le_of_lt hkj (Table.lt_size hc)) with ⟨d, hd⟩
  exact UInt64.not_lt.2 (UInt64.le_trans (Table.height_le_height hkj hd hc) hdue) (hidle d hd)

theorem Blocked.not_idle (h : Blocked table view best k cause) : ¬ Idle table best k := by
  intro hidle
  rcases h with ⟨c, hc, hdue, _⟩
  exact UInt64.not_lt.2 hdue (hidle c hc)

/-- There is one cause at most. -/
theorem Blocked.unique {other : Inconsistency} (h : Blocked table view best k cause)
    (hother : Blocked table view best k other) : other = cause := by
  rcases h with ⟨c, hc, _, hrefused⟩
  rcases hother with ⟨d, hd, _, hrefused'⟩
  rw [hc, Option.some.injEq] at hd
  subst hd
  have heq := (confirm_eq_error_iff.2 hrefused').symm.trans (confirm_eq_error_iff.2 hrefused)
  exact Except.error.inj heq

/-- Below a checkpoint that is due everything is due. -/
theorem Blocked.exists_due (h : Blocked table view best k cause) (hik : i ≤ k) :
    ∃ c, table.get? i = some c ∧ c.height ≤ best := by
  rcases h with ⟨d, hd, hdue, _⟩
  rcases Table.exists_get? (Nat.lt_of_le_of_lt hik (Table.lt_size hd)) with ⟨c, hc⟩
  exact ⟨c, hc, UInt64.le_trans (Table.height_le_height hik hc hd) hdue⟩

/-- A climb goes past what is due and can be locked in. -/
theorem not_halts (hc : table.get? j = some c) (hdue : c.height ≤ best)
    (hb : confirm view c = .ok b) : ¬ Halts table view best j := by
  rintro (hidle | ⟨cause, d, hd, _, hrefused⟩)
  · exact UInt64.not_lt.2 hdue (hidle c hc)
  · rw [hc, Option.some.injEq] at hd
    subst hd
    cases hb.symm.trans (confirm_eq_error_iff.2 hrefused)

/-- A call climbs from position `i` to position `k`, which is the first to halt at. -/
structure Climbed (table : Table) (view : Snapshot) (best : UInt64) (i : Nat) (t : Tracker) (k : Nat)
    (o : Outcome Tracker (Option Block)) : Prop where
  le : i ≤ k
  passes : ∀ j, i ≤ j → j < k → ¬ Halts table view best j
  halts : Halts table view best k
  /-- What is locked in stands at the positions from `i` up to `k`, in order. -/
  log : (lockIns o.events).map some = (List.range' i (k - i)).map table.get?
  stays : k = i → o.state = t
  moves : i < k → ∃ c b, table.get? (k - 1) = some c ∧ view.block c.digest = .ok b ∧
    b.height = c.height ∧ o.state = anchored table (k - 1) b
  answer_iff : o.answer = .ok o.state.block? ↔ Idle table best k
  fault_iff : ∀ cause,
    o.answer = .error (.inconsistentStore cause) ↔ Blocked table view best k cause

/-- An ascent is a climb. -/
theorem Ascended.climbed (h : Ascended table view best i t n o) :
    Climbed table view best i t (i + n) o where
  le := Nat.le_add_right i n
  passes j hlow hhigh := by
    rcases h.passed j hlow hhigh with ⟨c, b, hc, hdue, hb⟩
    exact not_halts hc hdue hb
  halts := by
    rcases h.stop with ⟨_, hidle⟩ | ⟨c, cause, hc, hdue, hcause, _⟩
    · exact .inl hidle
    · exact .inr ⟨cause, c, hc, hdue, confirm_eq_error_iff.1 hcause⟩
  log := by rw [Nat.add_sub_cancel_left, h.log]
  stays hstart := by
    rcases h.state with ⟨_, hstate⟩ | ⟨last, _, _, hcount, _⟩
    · exact hstate
    · omega
  moves hmoved := by
    rcases h.state with ⟨hzero, _⟩ | ⟨last, c, b, hcount, hc, hb, hstate⟩
    · omega
    · have hlast : i + n - 1 = i + last := by omega
      rcases confirm_eq_ok_iff.1 hb with ⟨_, hblock, hheight⟩
      rw [hlast]
      exact ⟨c, b, hc, hblock, hheight, hstate⟩
  answer_iff := by
    rcases h.stop with ⟨hanswer, hidle⟩ | ⟨c, cause, hc, hdue, hcause, hanswer⟩
    · exact ⟨fun _ => hidle, fun _ => hanswer⟩
    · have hblocked : Blocked table view best (i + n) cause :=
        ⟨c, hc, hdue, confirm_eq_error_iff.1 hcause⟩
      rw [hanswer]
      exact ⟨nofun, fun hidle => absurd hidle hblocked.not_idle⟩
  fault_iff cause := by
    rcases h.stop with ⟨hanswer, hidle⟩ | ⟨c, found, hc, hdue, hcause, hanswer⟩
    · rw [hanswer]
      exact ⟨nofun, fun hblocked => absurd hidle hblocked.not_idle⟩
    · have hblocked : Blocked table view best (i + n) found :=
        ⟨c, hc, hdue, confirm_eq_error_iff.1 hcause⟩
      rw [hanswer, Except.error.injEq, Fault.inconsistentStore.injEq]
      exact ⟨fun heq => heq ▸ hblocked, fun hother => (hblocked.unique hother).symm⟩

namespace Climbed

/-- A climb ends at the first position to halt at. -/
theorem end_of_first (h : Climbed table view best i t k o) (hil : i ≤ l)
    (hpasses : ∀ j, i ≤ j → j < l → ¬ Halts table view best j) (hl : Halts table view best l) :
    k = l := by
  rcases Nat.lt_trichotomy k l with hlt | heq | hgt
  · exact absurd h.halts (hpasses k h.le hlt)
  · exact heq
  · exact absurd hl (h.passes l hil hgt)

/-- A climb that begins on the way of another halts where the other does. -/
theorem end_eq (h : Climbed table view best i t k o) (h' : Climbed table view best j u l o')
    (hij : i ≤ j) (hjk : j ≤ k) : l = k :=
  h'.end_of_first hjk (fun n hjn => h.passes n (Nat.le_trans hij hjn)) h.halts

/-- The last checkpoint that a climb passes is its anchor, with the block that the store gives. -/
theorem state_eq (h : Climbed table view best i t k o) (hik : i < k)
    (hc : table.get? (k - 1) = some c) (hb : view.block c.digest = .ok b) :
    o.state = anchored table (k - 1) b := by
  rcases h.moves hik with ⟨d, e, hd, he, _, hstate⟩
  rw [hc, Option.some.injEq] at hd
  subst hd
  rw [hb, Except.ok.injEq] at he
  rw [hstate, he]

/-- A climb with an answer ends where nothing is due. -/
theorem idle_of_answer {a : Option Block} (h : Climbed table view best i t k o)
    (hanswer : o.answer = .ok a) : Idle table best k := by
  rcases h.halts with hidle | ⟨cause, hblocked⟩
  · exact hidle
  · cases ((h.fault_iff cause).2 hblocked).symm.trans hanswer

/-- A climb with a fault ends at a checkpoint that is due and refused. -/
theorem exists_blocked {fault : Fault} (h : Climbed table view best i t k o)
    (hfault : o.answer = .error fault) :
    ∃ cause, fault = .inconsistentStore cause ∧ Blocked table view best k cause := by
  rcases h.halts with hidle | ⟨cause, hblocked⟩
  · cases (h.answer_iff.2 hidle).symm.trans hfault
  · have hcause := hfault.symm.trans ((h.fault_iff cause).2 hblocked)
    exact ⟨cause, Except.error.inj hcause, hblocked⟩

/-- Two climbs with the same end, both of which locked something in, have the same outcome. -/
theorem outcome_eq (h : Climbed table view best i t k o) (h' : Climbed table view best j u k o')
    (hik : i < k) (hjk : j < k) : o'.answer = o.answer ∧ o'.state = o.state := by
  have hstate : o'.state = o.state := by
    rcases h.moves hik with ⟨c, b, hc, hb, _, hanchored⟩
    rw [hanchored]
    exact h'.state_eq hjk hc hb
  refine ⟨?_, hstate⟩
  rcases h.halts with hidle | ⟨cause, hblocked⟩
  · rw [h.answer_iff.2 hidle, h'.answer_iff.2 hidle, hstate]
  · rw [(h.fault_iff cause).2 hblocked, (h'.fault_iff cause).2 hblocked]

end Climbed

theorem isCold_of_next (hnext : t.next = some i) : t.isCold = false := by
  simp only [isCold, hnext, Option.isNone_some, Bool.false_eq_true, and_false, decide_false]

/-- A call with a checkpoint to await is a climb from it. -/
theorem climbed_of_next (hne : table.isEmpty = false) (hnext : t.next = some i) (view : Snapshot)
    (best : UInt64) : ∃ k, Climbed table view best i t k (t.follow table (.ok view) best) := by
  have hwarm := isCold_of_next hnext
  cases follow_spec t table (.ok view) best with
  | vacant hempty _ _ _ => cases hne.symm.trans hempty
  | unopened hsource _ _ _ => cases hsource
  | scanned _ hcold _ _ => cases hwarm.symm.trans (isCold_iff.2 hcold)
  | rested _ hnone _ _ _ =>
    rw [follow_of_idle hne hwarm hnone]
    rw [awaited?_of_next hnext] at hnone
    exact ⟨_, (Ascended.settled hnone).climbed⟩
  | ascended _ hindex hsource hascent =>
    rw [hnext, Option.some.injEq] at hindex
    rw [Except.ok.injEq] at hsource
    subst hindex hsource
    exact ⟨_, hascent.climbed⟩

/-- A due checkpoint has the store opened, and that is the first thing that can fail. -/
theorem follow_of_unopened {e : ReadError} (hne : table.isEmpty = false) (hwarm : t.isCold = false)
    (hc : t.awaited? table = some c) (hdue : c.height ≤ best) :
    t.follow table (.error e) best = t.failed (.unread e) [] := by
  simp only [follow, hne, hwarm, hc, Option.any_some, hdue, decide_true, Bool.false_eq_true,
    ↓reduceIte]

/-- A tracker that awaits nothing more has nothing to do. -/
theorem follow_of_finished (hne : table.isEmpty = false) (hwarm : t.isCold = false)
    (hnext : t.next = none) : t.follow table source best = t.settled := by
  refine follow_of_idle hne hwarm fun c hc => ?_
  rw [awaited?, hnext, Option.bind_none] at hc
  cases hc

/-- The trackers that some history of calls leaves, whatever stores the calls meet. -/
inductive Reachable (table : Table) : Tracker → Prop
  | cold : Reachable table cold
  | call {t : Tracker} (h : Reachable table t) (call : Call) :
      Reachable table (t.follow table call.source call.best).state

namespace Reachable

theorem placed (h : Reachable table t) : Formed Checkpoint.Places table t := by
  induction h with
  | cold => exact .cold
  | call _ call ih => exact ih.placed call.source call.best

/-- A table without checkpoints keeps its tracker cold. -/
theorem isEmpty_eq_false (h : Reachable table t) (hwarm : t.isCold = false) :
    table.isEmpty = false := by
  refine Bool.eq_false_iff.2 fun hempty => ?_
  rw [h.placed.eq_cold hempty, isCold_cold] at hwarm
  cases hwarm

end Reachable

end Tracker

end ChainCheckpoints
