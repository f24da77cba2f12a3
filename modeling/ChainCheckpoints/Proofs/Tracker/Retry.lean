import ChainCheckpoints.Proofs.Tracker.Failure

/-!
# Calls After a Failed One

A failed call may leave the tracker part of the way up. That is harmless. A later call that gets past
the checkpoint that was refused comes to the same end from there as it would have from where the
failed call began, since both climb through the same positions and halt at the first that makes them.

The two calls may meet different stores and need not agree on the blocks that they lock in on the
way. The anchor at the end is the later one's in either case, because the later call locks in at least
the checkpoint that the failed one was refused.

## Theorems

* `Tracker.Climbed.retried`: a climb is taken up where another one was stopped.
* `Tracker.follow_retried`: a call after a failed one.
* `Tracker.Reachable.climbed_and_retried`: what a warm call does, and that a failed call loses
  nothing.
-/

namespace ChainCheckpoints

namespace Tracker

variable {table : Table} {view view' : Snapshot} {source source' : Except ReadError Snapshot}
  {best best' : UInt64} {t : Tracker} {cause : Inconsistency} {a : Option Block} {fault : Fault}
  {i k : Nat} {o : Outcome Tracker (Option Block)}

/-- A climb that a refused checkpoint stopped is taken up by a later call that has an answer, and ends
    as that call would have ended from the bottom. -/
theorem Climbed.retried (h : Climbed table view best i t k o) (hik : i < k)
    (hblocked : Blocked table view best k cause) (hnext : t.next = some i) (hle : best ≤ best')
    (hanswer : (t.follow table (.ok view') best').answer = .ok a) :
    (o.state.follow table (.ok view') best').answer = .ok a ∧
      (o.state.follow table (.ok view') best').state = (t.follow table (.ok view') best').state := by
  rcases hblocked with ⟨c, hc, hdue, _⟩
  have hne : table.isEmpty = false := Table.isEmpty_eq_false hc
  rcases climbed_of_next hne hnext view' best' with ⟨l, hwhole⟩
  have hkl : k < l := (hwhole.idle_of_answer hanswer).lt_of_due hc (UInt64.le_trans hdue hle)
  -- The tracker left behind awaits the refused checkpoint and climbs on from there. Its anchor may
  -- be another block than the later call would find, but that call gets past it.
  rcases h.moves hik with ⟨_, b, _, _, _, hstate⟩
  have hk : k - 1 + 1 = k := Nat.sub_add_cancel (Nat.lt_of_le_of_lt (Nat.zero_le i) hik)
  have hawaits : o.state.next = some k := by
    rw [hstate, next_anchored (hk ▸ hc), hk]
  rcases climbed_of_next hne hawaits view' best' with ⟨m, hrest⟩
  obtain rfl : m = l := hwhole.end_eq hrest h.le (Nat.le_of_lt hkl)
  rcases hwhole.outcome_eq hrest (Nat.lt_trans hik hkl) hkl with ⟨hsame, hend⟩
  exact ⟨hsame.trans hanswer, hend⟩

/-- A failed call loses nothing: a call for no lower best height that would have had an answer instead
    of it has the same one after it, and leaves the same tracker. -/
theorem follow_retried (hfault : (t.follow table source best).answer = .error fault)
    (hle : best ≤ best') (hanswer : (t.follow table source' best').answer = .ok a) :
    let retried := (t.follow table source best).state.follow table source' best'
    retried.answer = .ok a ∧ retried.state = (t.follow table source' best').state := by
  intro retried
  cases failed_of_follow hfault with
  | atOnce _ hstate =>
    have hsame : retried = t.follow table source' best' := by simp only [retried, hstate]
    rw [hsame]
    exact ⟨hanswer, rfl⟩
  | onTheWay _ _ hnext hik _ hblocked hclimbed =>
    rcases source' with e | view'
    -- What stopped the first call is due for the second one too, so that one opens the store.
    · rcases hblocked.exists_due hclimbed.le with ⟨c, hc, hdue⟩
      have hopen := follow_of_unopened (e := e) (Table.isEmpty_eq_false hc) (isCold_of_next hnext)
        ((awaited?_of_next hnext).trans hc) (UInt64.le_trans hdue hle)
      rw [hopen] at hanswer
      cases hanswer
    · exact hclimbed.retried hik hblocked hnext hle hanswer

namespace Reachable

/-- A warm call locks in the checkpoints from the one awaited up to the first that is past the end of
    the table, not due or refused, and no others. It has an answer, which is the anchor it leaves, in
    the first two cases, and fails with the refusal in the third. If the store cannot be opened it
    fails as soon as something is due, and locks nothing in.

    After a failed call, a call over any store and for no lower best height that would have had an
    answer before it has the same answer and leaves the same tracker. -/
theorem climbed_and_retried (h : Reachable table t) :
    (∀ i, t.next = some i →
      (∀ view best, ∃ k, Climbed table view best i t k (t.follow table (.ok view) best)) ∧
      ∀ e best,
        (Idle table best i → t.follow table (.error e) best = t.settled) ∧
        (¬ Idle table best i → t.follow table (.error e) best = t.failed (.unread e) [])) ∧
    (t.isCold = false → t.next = none → ∀ source best, t.follow table source best = t.settled) ∧
    ∀ source best source' best' fault a,
      (t.follow table source best).answer = .error fault → best ≤ best' →
      (t.follow table source' best').answer = .ok a →
      let retried := (t.follow table source best).state.follow table source' best'
      retried.answer = .ok a ∧ retried.state = (t.follow table source' best').state := by
  refine ⟨fun i hnext => ?_, fun hwarm hnext source best => ?_, fun _ _ _ _ _ _ => follow_retried⟩
  · have hwarm := isCold_of_next hnext
    have hne := h.isEmpty_eq_false hwarm
    refine ⟨climbed_of_next hne hnext, fun e best => ⟨fun hidle => ?_, fun hdue => ?_⟩⟩
    · exact follow_of_idle hne hwarm fun c hc => hidle c (by rw [← awaited?_of_next hnext, hc])
    · rcases idle_or_due table best i with hidle | ⟨c, hc, hdue⟩
      · exact absurd hidle hdue
      exact follow_of_unopened hne hwarm (by rw [awaited?_of_next hnext, hc]) hdue
  · exact follow_of_finished (h.isEmpty_eq_false hwarm) hwarm hnext

/-- The upper of two checkpoints arrives late. A call for its height locks the lower one in and fails,
    and once the block has arrived the same call goes on from there. -/
theorem retried_after_arrival :
    let low : Block := { height := 1 }
    let high : Block := { header := { nonce := 1 }, height := 2 }
    let table : Table :=
      { entries := [⟨1, low.digest⟩, ⟨2, high.digest⟩]
        ascending := List.pairwise_pair.2 (by decide) }
    let early := Store.empty.connect low
    let late := early.connect high
    let failed := waiting.follow table early.source 2
    failed.answer = .error (.inconsistentStore (.offMainChain ⟨2, high.digest⟩)) ∧
      failed.state = anchored table 0 low ∧
      (failed.state.follow table late.source 2).answer = .ok (some high) ∧
      (failed.state.follow table late.source 2).state = anchored table 1 high := by
  intro low high table early late failed
  have hdigest : low.digest ≠ high.digest := by decide +kernel
  have hlow : confirm early.snapshot ⟨1, low.digest⟩ = .ok low :=
    confirm_eq_ok_iff.2 ⟨Store.isMain_connect .empty low, Store.block_connect .empty low, rfl⟩
  have hearly : confirm early.snapshot ⟨2, high.digest⟩ = .error (.offMainChain ⟨2, high.digest⟩) := by
    refine confirm_of_off (Store.isMain_of_none ?_)
    exact Store.heights_connect_eq_none hdigest (Store.heights_empty _)
  have hstill : confirm late.snapshot ⟨1, low.digest⟩ = .ok low := by
    have hplaced : late.heights[low.digest]? = some 1 := by
      have hfree : early.mainAt[(2 : UInt64)]? = none := by
        rw [Store.mainAt_connect, if_neg (by decide), Store.mainAt_empty]
      rw [Store.heights_connect, if_neg hdigest.symm, hfree, if_neg (by simp),
        Store.heights_connect, if_pos rfl]
    have hstored : late.blocks[low.digest]? = some low := by
      rw [Store.blocks_connect, if_neg hdigest.symm, Store.blocks_connect, if_pos rfl]
    refine confirm_eq_ok_iff.2 ⟨Store.isMain_iff.2 ⟨1, hplaced⟩,
      Store.block_eq_ok_iff.2 ⟨low, hstored, ?_⟩, rfl⟩
    rw [hplaced]
    rfl
  have hhigh : confirm late.snapshot ⟨2, high.digest⟩ = .ok high :=
    confirm_eq_ok_iff.2 ⟨Store.isMain_connect early high, Store.block_connect early high, rfl⟩
  -- On the early store the climb ends at the upper checkpoint, on the late one past it.
  obtain ⟨k, hshort⟩ : ∃ k, Climbed table early.snapshot 2 0 waiting k failed :=
    climbed_of_next rfl rfl early.snapshot 2
  have hblocked : Blocked table early.snapshot 2 1 (.offMainChain ⟨2, high.digest⟩) :=
    ⟨⟨2, high.digest⟩, rfl, by decide, confirm_eq_error_iff.1 hearly⟩
  obtain rfl : k = 1 := by
    refine hshort.end_of_first (Nat.zero_le 1) (fun j _ hj => ?_) (.inr ⟨_, hblocked⟩)
    rw [Nat.lt_one_iff.1 hj]
    exact not_halts (c := ⟨1, low.digest⟩) rfl (by decide) hlow
  obtain ⟨k, hlong⟩ :
      ∃ k, Climbed table late.snapshot 2 0 waiting k (waiting.follow table late.source 2) :=
    climbed_of_next rfl rfl late.snapshot 2
  have hidle : Idle table 2 2 := fun c hc => by cases hc
  obtain rfl : k = 2 := by
    refine hlong.end_of_first (Nat.zero_le 2) (fun j _ hj => ?_) (.inl hidle)
    rcases Nat.lt_or_eq_of_le (Nat.le_of_lt_succ hj) with hj | rfl
    · rw [Nat.lt_one_iff.1 hj]
      exact not_halts (c := ⟨1, low.digest⟩) rfl (by decide) hstill
    · exact not_halts (c := ⟨2, high.digest⟩) rfl (by decide) hhigh
  have hend : (waiting.follow table late.source 2).state = anchored table 1 high :=
    hlong.state_eq (by decide) rfl (Store.block_connect early high)
  have hfault : failed.answer = .error (.inconsistentStore (.offMainChain ⟨2, high.digest⟩)) :=
    (hshort.fault_iff _).2 hblocked
  have hanswer : (waiting.follow table late.source 2).answer = .ok (some high) := by
    rw [← block?_anchored table 1 high, ← hend]
    exact hlong.answer_iff.2 hidle
  have hreachable : Reachable table waiting :=
    Reachable.cold.call { source := Store.empty.source, best := 0 }
  rcases (climbed_and_retried hreachable).2.2 early.source 2 late.source 2 _ _ hfault
    (UInt64.le_refl 2) hanswer with ⟨hretried, hsame⟩
  exact ⟨hfault, hshort.state_eq (by decide) rfl (Store.block_connect .empty low), hretried,
    hsame.trans hend⟩

end Reachable

end Tracker

end ChainCheckpoints
