import ChainCheckpoints.Store.Basic
import ChainCheckpoints.Proofs.Tracker.Answer

/-!
# Asking Twice

Whether a second call, right after a first one that had an answer and with nothing changed in
between, has the same answer.

A warm call has dealt with everything that is due, so a second one has nothing to do. A cold call is
different. It takes the highest checkpoint that the main chain runs through and never looks at the
best height, so it may leave a checkpoint behind that is due and that the main chain does not run
through. The second call is warm, finds that checkpoint due and takes it for a contradiction.

So the second answer is the first one unless the first call was cold and left something due, and
then it is a fault. This happens when the best height is ahead of the store, and when the main chain
is past a checkpoint on another branch.

## Theorems

* `Tracker.follow_of_idle`: a warm tracker with nothing due does nothing.
* `Tracker.follow_of_denied`: a due checkpoint off the main chain is a fault.
* `Tracker.follow_again_iff`: when a second call has the answer of the first.
* `Tracker.follow_again_fails`: a chain and a best height where it has not.
-/

namespace ChainCheckpoints

namespace Tracker

variable {table : Table} {view : Snapshot} {source : Except ReadError Snapshot} {best : UInt64}
  {t : Tracker} {c : Checkpoint}

theorem follow_of_idle (hne : table.isEmpty = false) (hwarm : t.isCold = false)
    (hnone : ∀ c, t.awaited? table = some c → best < c.height) :
    t.follow table source best = t.settled := by
  have hdue : (t.awaited? table).any (·.height ≤ best) = false := by
    rcases hawaited : t.awaited? table with _ | c
    · rfl
    · rw [Option.any_some, decide_eq_false_iff_not, UInt64.not_le]
      exact hnone c hawaited
  simp only [follow, hne, hwarm, hdue, Bool.false_eq_true, ↓reduceIte]

theorem follow_of_denied (hne : table.isEmpty = false) (hwarm : t.isCold = false)
    (hc : t.awaited? table = some c) (hdue : c.height ≤ best)
    (hmain : view.isMain c.digest = .ok false) :
    t.follow table (.ok view) best
      = t.failed (.inconsistentStore (.offMainChain c)) [.passedBy c] := by
  rcases hnext : t.next with _ | index
  · rw [awaited?, hnext, Option.bind_none] at hc
    cases hc
  have hindex : table.get? index = some c := by
    rw [← awaited?_of_next hnext]
    exact hc
  have hadvance : advance table view best (c :: table.entries.drop (index + 1)) index t
      = t.failed (.inconsistentStore (.offMainChain c)) [.passedBy c] := by
    simp only [advance, if_pos hdue, lockIn_of_refusal hindex (confirm_of_off hmain), alarms]
  simp only [follow, hne, hwarm, hc, Option.any_some, hdue, decide_true, pending, hnext,
    Table.drop_eq_cons hindex, hadvance, Bool.false_eq_true, ↓reduceIte]

/-- A second call has the answer of the first, and leaves the tracker as the first one left it,
    unless the first call was cold and left a checkpoint due. In that case the second call finds the
    main chain past a checkpoint that it does not run through. -/
theorem follow_again_iff (t : Tracker) (table : Table) (source : Except ReadError Snapshot)
    (best : UInt64) (a : Option Block) (h : (t.follow table source best).answer = .ok a) :
    let first := t.follow table source best
    let again := first.state.follow table source best
    let behind := (first.state.awaited? table).filter (·.height ≤ best)
    ((again.answer = .ok a ∧ again.state = first.state) ↔ t.isCold = false ∨ behind = none) ∧
      ∀ c, t.isCold = true → behind = some c →
        again.answer = .error (.inconsistentStore (.offMainChain c)) ∧
          again.state = first.state := by
  intro first again behind
  have hanswered : Answered t table source best a first := answered_of_follow h
  by_cases hempty : table.isEmpty = true
  · have hbehind : behind = none := by
      simp only [behind, awaited?_of_isEmpty hempty, Option.filter_none]
    have hagain : again = { answer := .ok none, state := first.state } := follow_of_isEmpty hempty
    have ha : a = none := by
      have hfirst : first = { answer := .ok none, state := t } := follow_of_isEmpty hempty
      have h : first.answer = .ok a := h
      rw [hfirst, Except.ok.injEq] at h
      exact h.symm
    rw [hagain, hbehind, ha]
    exact ⟨⟨fun _ => .inr rfl, fun _ => ⟨rfl, rfl⟩⟩, fun c _ hc => by cases hc⟩
  rw [Bool.not_eq_true] at hempty
  -- The first call leaves a warm tracker, so the second one goes by the best height.
  have hwarm : first.state.isCold = false := hanswered.isCold_eq_false hempty
  have hidle : (∀ c, first.state.awaited? table = some c → best < c.height) →
      again.answer = .ok a ∧ again.state = first.state := by
    intro hnone
    have hagain : again = first.state.settled := follow_of_idle hempty hwarm hnone
    rw [hagain, hanswered.block?_eq hempty]
    exact ⟨rfl, rfl⟩
  -- A call that leaves something due was cold, and what it leaves is off the main chain.
  have hlacking : ∀ c, t.isCold = true → behind = some c →
      again.answer = .error (.inconsistentStore (.offMainChain c)) ∧
        again.state = first.state := by
    intro c hcold hc
    rcases Option.filter_eq_some_iff.1 hc with ⟨hawaited, hdue⟩
    rcases hanswered.denied_of_cold hcold hawaited with ⟨view, hsource, hmain⟩
    have hagain : again
        = first.state.failed (.inconsistentStore (.offMainChain c)) [.passedBy c] := by
      simp only [again, hsource]
      exact follow_of_denied hempty hwarm hawaited (of_decide_eq_true hdue) hmain
    rw [hagain]
    exact ⟨rfl, rfl⟩
  refine ⟨⟨fun hsame => ?_, fun hcases => hidle fun c hc => ?_⟩, hlacking⟩
  · rcases hcold : t.isCold with _ | _
    · exact .inl rfl
    rcases hbehind : behind with _ | c
    · exact .inr rfl
    · cases hsame.1.symm.trans (hlacking c hcold hbehind).1
  · rcases hcases with hwarm | hnone
    · exact hanswered.idle_of_warm hwarm c hc
    · have hfilter := Option.filter_eq_none_iff.1 hnone c hc
      rw [decide_eq_true_eq, UInt64.not_le] at hfilter
      exact hfilter

/-- A store without blocks runs through no checkpoint. While the first one is ahead of the best
    height, both calls say so. -/
theorem follow_again_on_time :
    let table : Table := { entries := [⟨1, .zero⟩], ascending := List.pairwise_singleton _ _ }
    let first := cold.follow table Store.empty.source 0
    first.answer = .ok none ∧
      (first.state.follow table Store.empty.source 0).answer = .ok none ∧
      (first.state.follow table Store.empty.source 0).state = first.state := by
  intro table first
  have h : first.answer = .ok none := rfl
  have hnone : (first.state.awaited? table).filter (·.height ≤ 0) = none := by decide
  exact ⟨h, (follow_again_iff cold table Store.empty.source 0 none h).1.2 (.inr hnone)⟩

/-- Once the best height has come to the checkpoint and the store has not, the first call still says
    so, and the second one fails. -/
theorem follow_again_fails :
    ¬ ∀ (table : Table) (writes : List Store.Write) (best : UInt64) (a : Option Block),
      let source := (writes.foldl Store.write .empty).source
      let first := cold.follow table source best
      first.answer = .ok a → (first.state.follow table source best).answer = .ok a := by
  intro h
  let table : Table := { entries := [⟨1, .zero⟩], ascending := List.pairwise_singleton _ _ }
  have hagain := h table [] 1 none rfl
  exact absurd (congrArg Except.toOption hagain) (by decide)

end Tracker

end ChainCheckpoints
