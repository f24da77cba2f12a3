import ChainCheckpoints.Proofs.Tracker.Ascent

/-!
# What a Failed Call Leaves

Whether a call that fails leaves the tracker as it found it. It does if it fails at the first thing
that it tries: opening the store, scanning it from cold, or locking in the checkpoint awaited.

A call may also lock in some checkpoints and fail at a later one. Then it keeps them. The anchor has
moved up although the call has no answer, and the block that the tracker shows as its anchor is
another one than before.

## Main definitions

* `Tracker.FailsAtOnce`: the ways to fail before anything is locked in.
* `Tracker.Failed`: how a call fails.

## Theorems

* `Tracker.failed_of_follow`: a call that fails does so at once or on the way up.
* `Tracker.Climbed.block?_ne`: a climb that gets anywhere changes the anchor's block.
* `Tracker.Reachable.unchanged_iff`: a failed call leaves the tracker as it was exactly if it failed
  at once.
* `Tracker.Reachable.changed_by_failed_call`: a failed call that did not.
-/

namespace ChainCheckpoints

namespace Tracker

variable {table : Table} {view : Snapshot} {source : Except ReadError Snapshot} {best : UInt64}
  {t : Tracker} {cause : Inconsistency} {fault : Fault} {i k : Nat}
  {o : Outcome Tracker (Option Block)}

/-- The first thing that a call tries fails. -/
inductive FailsAtOnce (t : Tracker) (table : Table) (source : Except ReadError Snapshot) : Prop
  /-- A scan locks in at most one checkpoint, and fails before it does. -/
  | cold (hcold : t.isCold = true)
  | unopened {e : ReadError} (hsource : source = .error e)
  | refused {view : Snapshot} {c : Checkpoint} {cause : Inconsistency} (hsource : source = .ok view)
      (hc : t.awaited? table = some c) (hrefused : Refused view c cause)

/-- A climb that does not get past its first checkpoint was refused it. -/
theorem Climbed.failsAtOnce_iff (h : Climbed table view best i t k o) (hnext : t.next = some i)
    (hblocked : Blocked table view best k cause) : FailsAtOnce t table (.ok view) ↔ k = i := by
  constructor
  · intro hfails
    cases hfails with
    | cold hcold => cases hcold.symm.trans (isCold_of_next hnext)
    | unopened hsource => cases hsource
    | @refused _ c cause hsource hc hrefused =>
      rw [Except.ok.injEq] at hsource
      subst hsource
      rw [awaited?_of_next hnext] at hc
      rcases hblocked.exists_due h.le with ⟨d, hd, hdue⟩
      rw [hc, Option.some.injEq] at hd
      subst hd
      refine Nat.le_antisymm (Nat.le_of_not_lt fun hik => ?_) h.le
      exact h.passes i (Nat.le_refl i) hik (.inr ⟨cause, c, hc, hdue, hrefused⟩)
  · rintro rfl
    rcases hblocked with ⟨c, hc, _, hrefused⟩
    exact .refused rfl (by rw [awaited?_of_next hnext, hc]) hrefused

/-- How a call fails: at once, or after a climb past at least one checkpoint. -/
inductive Failed (t : Tracker) (table : Table) (source : Except ReadError Snapshot) (best : UInt64)
    (fault : Fault) (o : Outcome Tracker (Option Block)) : Prop
  | atOnce (hfails : FailsAtOnce t table source) (hstate : o.state = t)
  | onTheWay {view : Snapshot} {i k : Nat} {cause : Inconsistency}
      (hnot : ¬ FailsAtOnce t table source) (hsource : source = .ok view) (hnext : t.next = some i)
      (hik : i < k) (hcause : fault = .inconsistentStore cause)
      (hblocked : Blocked table view best k cause) (hclimbed : Climbed table view best i t k o)

theorem failed_of_follow (hfault : (t.follow table source best).answer = .error fault) :
    Failed t table source best fault (t.follow table source best) := by
  cases follow_spec t table source best with
  | vacant _ hanswer _ _ => cases hanswer.symm.trans hfault
  | rested _ _ hanswer _ _ => cases hanswer.symm.trans hfault
  | unopened hsource _ hstate _ => exact .atOnce (.unopened hsource) hstate
  | scanned _ hcold _ hscan =>
    cases hscan with
    | below _ hanswer _ _ => cases hanswer.symm.trans hfault
    | found _ _ _ _ hanswer _ _ => cases hanswer.symm.trans hfault
    | refused _ _ _ _ _ hstate _ => exact .atOnce (.cold (isCold_iff.2 hcold)) hstate
  | @ascended view i n _ hnext hsource hascent =>
    have hclimbed := hascent.climbed
    rcases hclimbed.exists_blocked hfault with ⟨cause, hcause, hblocked⟩
    have hfails := hclimbed.failsAtOnce_iff hnext hblocked
    rw [← hsource] at hfails
    rcases Nat.lt_or_eq_of_le hclimbed.le with hik | heq
    · exact .onTheWay (fun hat => Nat.ne_of_gt hik (hfails.1 hat)) hsource hnext hik hcause hblocked
        hclimbed
    · exact .atOnce (hfails.2 heq.symm) (hclimbed.stays heq.symm)

/-- The anchor at the end of a climb stands higher than any before it. -/
theorem Climbed.block?_ne (h : Climbed table view best i t k o)
    (hformed : Formed Checkpoint.Places table t) (hnext : t.next = some i) (hik : i < k) :
    o.state.block? ≠ t.block? := by
  rcases h.moves hik with ⟨c, b, hc, _, hheight, hstate⟩
  rw [hstate, block?_anchored]
  have hrank := hformed.next_eq hnext
  cases hformed with
  | cold => exact Option.some_ne_none b
  | waiting _ => exact Option.some_ne_none b
  | @anchored index d e hd hplaces =>
    rw [block?_anchored, ne_eq, Option.some.injEq]
    rintro rfl
    rw [rank_anchored] at hrank
    have hlt : d.height < c.height := Table.height_lt_height (by omega) hd hc
    rw [← hheight, show b.height = d.height from hplaces] at hlt
    exact UInt64.lt_irrefl _ hlt

namespace Reachable

/-- A failed call leaves the tracker as it was, and the same block for its anchor, exactly if the
    first thing that it tried failed. Otherwise it has climbed past at least one checkpoint, and the
    last one that it passed is the anchor. -/
theorem unchanged_iff (h : Reachable table t)
    (hfault : (t.follow table source best).answer = .error fault) :
    let o := t.follow table source best
    (o.state = t ↔ FailsAtOnce t table source) ∧
      (o.state.block? = t.block? ↔ FailsAtOnce t table source) ∧
      (¬ FailsAtOnce t table source → ∃ view i k cause, source = .ok view ∧ t.next = some i ∧
        i < k ∧ fault = .inconsistentStore cause ∧ Blocked table view best k cause ∧
        Climbed table view best i t k o) := by
  intro o
  cases failed_of_follow hfault with
  | atOnce hfails hstate =>
    exact ⟨iff_of_true hstate hfails, iff_of_true (congrArg block? hstate) hfails,
      fun hnot => absurd hfails hnot⟩
  | onTheWay hnot hsource hnext hik hcause hblocked hclimbed =>
    have hblock : o.state.block? ≠ t.block? := hclimbed.block?_ne h.placed hnext hik
    exact ⟨iff_of_false (fun hstate => hblock (congrArg block? hstate)) hnot,
      iff_of_false hblock hnot,
      fun _ => ⟨_, _, _, _, hsource, hnext, hik, hcause, hblocked, hclimbed⟩⟩

/-- The one checkpoint is due and off the main chain, so the tracker goes on waiting for it. -/
theorem unchanged_by_missing_checkpoint :
    let table : Table := { entries := [⟨1, .zero⟩], ascending := List.pairwise_singleton _ _ }
    let o := waiting.follow table Store.empty.source 1
    o.answer = .error (.inconsistentStore (.offMainChain ⟨1, .zero⟩)) ∧
      o.state = waiting ∧ o.state.block? = none := by
  intro table o
  have hreachable : Reachable table waiting :=
    Reachable.cold.call { source := Store.empty.source, best := 0 }
  have hfault : o.answer = .error (.inconsistentStore (.offMainChain ⟨1, .zero⟩)) := rfl
  have hfails : FailsAtOnce waiting table Store.empty.source :=
    .refused rfl rfl (.offMainChain (Store.isMain_of_none (Store.heights_empty _)))
  rcases unchanged_iff hreachable hfault with ⟨hstate, hblock, _⟩
  exact ⟨hfault, hstate.2 hfails, hblock.2 hfails⟩

/-- Two checkpoints pin one block, which stands at the lower of their heights. A call for the higher
    one locks the lower one in, and has nothing to show for it but a fault. -/
theorem changed_by_failed_call :
    ¬ ∀ (table : Table) (t : Tracker) (source : Except ReadError Snapshot) (best : UInt64)
      (fault : Fault), Reachable table t → (t.follow table source best).answer = .error fault →
      (t.follow table source best).state = t ∧
        (t.follow table source best).state.block? = t.block? := by
  intro hall
  let b : Block := { height := 1 }
  let table : Table :=
    { entries := [⟨1, b.digest⟩, ⟨2, b.digest⟩]
      ascending := List.pairwise_pair.2 (by decide) }
  let view := (Store.empty.connect b).snapshot
  have hmain : view.isMain b.digest = .ok true := Store.isMain_connect .empty b
  have hblock : view.block b.digest = .ok b := Store.block_connect .empty b
  have hreachable : Reachable table waiting :=
    Reachable.cold.call { source := Store.empty.source, best := 0 }
  obtain ⟨k, hclimbed⟩ :
      ∃ k, Climbed table view 2 0 waiting k (waiting.follow table (.ok view) 2) :=
    climbed_of_next rfl rfl view 2
  have hlow : confirm view ⟨1, b.digest⟩ = .ok b := confirm_eq_ok_iff.2 ⟨hmain, hblock, rfl⟩
  have hhigh : Blocked table view 2 1 (.misplaced ⟨2, b.digest⟩ b.height) :=
    ⟨⟨2, b.digest⟩, rfl, by decide, .misplaced hmain hblock (by decide)⟩
  obtain rfl : k = 1 := by
    refine hclimbed.end_of_first (Nat.zero_le 1) (fun j _ hj => ?_) (.inr ⟨_, hhigh⟩)
    rw [Nat.lt_one_iff.1 hj]
    exact not_halts (c := ⟨1, b.digest⟩) rfl (by decide) hlow
  have hfault := (hclimbed.fault_iff _).2 hhigh
  exact hclimbed.block?_ne hreachable.placed rfl Nat.zero_lt_one
    (hall table waiting (.ok view) 2 _ hreachable hfault).2

end Reachable

end Tracker

end ChainCheckpoints
