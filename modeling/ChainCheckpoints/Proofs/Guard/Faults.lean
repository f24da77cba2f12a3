import ChainCheckpoints.Proofs.Guard
import ChainCheckpoints.Proofs.Store.Answers
import ChainCheckpoints.Proofs.Tracker.Step

/-!
# The Faults of a Guard

A node acts on the kind of a fault: an inconsistent store ends everything, a height mismatch is the
caller's doing, a rejected fork is an answer that happens to be no. So each question of a guard has
its own few kinds, and they are found out here with a store that may fail anywhere, with any error.

Most of this holds of every snapshot. The survey is the exception: it judges blocks that it has read
from the store itself, and then a height mismatch would be nobody's doing. There is none, because
the store gives a block the height that its index has for it. This is where it matters which store it
is. Its answers may be missing, but they are not made up.

A fault of the tracker is never about a position in the table, even where the tracker was left by
calls with another table.

## Main definitions

* `Snapshot.Degrades`: a snapshot that gives the answers of another one, or fails.
* `Snapshot.Placing`: a snapshot whose blocks claim the heights that it has for them.

## Theorems

* `Snapshot.degrades_under`: outages degrade a snapshot.
* `Store.Keyed.placing`, `Snapshot.Degrades.placing`: a store places its blocks, and failing answers
  do not change that.
* `Verdict.judge_of_miss`: a block that is not in the main chain is judged by that alone.
* `Verdict.judge_error`, `Verdict.judge_eq_mismatch_iff`: the faults of a verdict.
* `Guard.follow_error`, `Guard.admitFork_error`, `Guard.candidates_error`: the faults of the other
  questions.
* `Guard.fault_kinds`: the kinds of faults of each question.
-/

namespace ChainCheckpoints

/-- Every answer is the one of `whole`, or an error. -/
structure Snapshot.Degrades (view whole : Snapshot) : Prop where
  isMain : ∀ x flag, view.isMain x = .ok flag → whole.isMain x = .ok flag
  heightOf : ∀ x h, view.heightOf x = .ok h → whole.heightOf x = .ok h
  block : ∀ x b, view.block x = .ok b → whole.block x = .ok b
  header : ∀ x header, view.header x = .ok header → whole.header x = .ok header
  headerAt : ∀ h header, view.headerAt h = .ok header → whole.headerAt h = .ok header

/-- Outages do not change an answer otherwise than into an error. -/
theorem Snapshot.degrades_under (s : Snapshot) (o : Outages) : (s.under o).Degrades s where
  isMain _ _ h := (Outages.guard_eq_ok_iff.1 h).2
  heightOf _ _ h := (Outages.guard_eq_ok_iff.1 h).2
  block _ _ h := (Outages.guard_eq_ok_iff.1 h).2
  header _ _ h := (Outages.guard_eq_ok_iff.1 h).2
  headerAt _ _ h := (Outages.guard_eq_ok_iff.1 h).2

/-- A block that is read claims the height that the snapshot has for it. -/
def Snapshot.Placing (view : Snapshot) : Prop :=
  ∀ x b h, view.block x = .ok b → view.heightOf b.digest = .ok h → h = b.height

theorem Store.Keyed.placing {s : Store} (h : s.Keyed) : s.snapshot.Placing := by
  intro x b height hb hheight
  have hdigest : b.digest = x := h.digest_of_block hb
  have hat : s.heights[x]? = some height := by
    rw [← hdigest]
    exact heightOf_eq_ok_iff.1 hheight
  exact (height_of_block hb hat).symm

theorem Snapshot.Degrades.placing {view whole : Snapshot} (h : view.Degrades whole)
    (hwhole : whole.Placing) : view.Placing :=
  fun x b height hb hheight => hwhole x b height (h.block x b hb) (h.heightOf _ height hheight)

namespace Verdict

variable {classify : Bytes → Template} {confirmations best height : UInt64} {view : Snapshot}
  {b : Block} {e : ReadError} {fault : Fault}

/-- A block that is not in the main chain is judged by that alone. -/
theorem judge_of_miss (hmiss : view.heightOf b.digest = .error e) (he : e.isMiss = true) :
    judge classify confirmations view best b = .ok .offMainChain := by
  simp only [judge, hmiss, if_pos he]

theorem judge_of_mismatch (hheight : view.heightOf b.digest = .ok height) (hne : height ≠ b.height) :
    judge classify confirmations view best b = .error (.heightMismatch b.height height) := by
  simp only [judge, hheight, if_pos hne]

theorem timeBelow_error (h : timeBelow view b height = .error fault) :
    ∃ cause, fault = .inconsistentStore cause := by
  by_cases hzero : height = 0
  · simp only [timeBelow, if_pos hzero, reduceCtorEq] at h
  · rcases hheader : view.header b.header.parent with e | header
    · simp only [timeBelow, if_neg hzero, hheader, Except.error.injEq] at h
      exact ⟨_, h.symm⟩
    · simp only [timeBelow, if_neg hzero, hheader, reduceCtorEq] at h

theorem timeAbove_error (h : timeAbove view height = .error fault) :
    ∃ cause, fault = .inconsistentStore cause := by
  rcases hheader : view.headerAt (height + 1) with e | header
  · simp only [timeAbove, hheader, Except.error.injEq] at h
    exact ⟨_, h.symm⟩
  · simp only [timeAbove, hheader, reduceCtorEq] at h

/-- Of two steps the first one fails, or it gives what the second one fails on. -/
theorem error_of_bind {α β : Type} {first : Except Fault α} {second : α → Except Fault β}
    (h : first >>= second = .error fault) :
    first = .error fault ∨ ∃ a, first = .ok a ∧ second a = .error fault := by
  cases first with
  | error e => exact .inl (congrArg Except.error (Except.error.inj h))
  | ok a => exact .inr ⟨a, rfl, h⟩

/-- A neighbour can be missing, and nothing else can go wrong with a deep block. -/
theorem judgeDeep_error (h : judgeDeep classify view b height = .error fault) :
    ∃ cause, fault = .inconsistentStore cause := by
  rw [judgeDeep] at h
  rcases error_of_bind h with hbelow | ⟨below, _, h⟩
  · exact timeBelow_error hbelow
  rcases error_of_bind h with habove | ⟨above, _, h⟩
  · exact timeAbove_error habove
  -- Both timestamps are there, and each of the three verdicts is given as it is.
  split at h
  · split at h <;> cases h
  · cases h

/-- A verdict that is not given is not given because of the store, or because of the height that the
    block claims. -/
theorem judge_error (h : judge classify confirmations view best b = .error fault) :
    (∃ cause, fault = .inconsistentStore cause) ∨
      ∃ indexed, fault = .heightMismatch b.height indexed ∧ indexed ≠ b.height ∧
        view.heightOf b.digest = .ok indexed := by
  rcases hheight : view.heightOf b.digest with e | indexed
  · left
    by_cases hmiss : e.isMiss = true
    · rw [judge_of_miss hheight hmiss] at h
      cases h
    · simp only [judge, hheight, if_neg hmiss, Except.error.injEq] at h
      exact ⟨_, h.symm⟩
  by_cases hne : indexed ≠ b.height
  · rw [judge_of_mismatch hheight hne, Except.error.injEq] at h
    exact .inr ⟨indexed, h.symm, hne, rfl⟩
  left
  by_cases hdeep : liesDeep indexed best confirmations = true
  · simp only [judge, hheight, if_neg hne, if_pos hdeep] at h
    exact judgeDeep_error h
  · simp only [judge, hheight, if_neg hne, if_neg hdeep, reduceCtorEq] at h

theorem judge_eq_mismatch_iff {claimed indexed : UInt64} :
    judge classify confirmations view best b = .error (.heightMismatch claimed indexed) ↔
      claimed = b.height ∧ indexed ≠ b.height ∧ view.heightOf b.digest = .ok indexed := by
  constructor
  · intro h
    rcases judge_error h with ⟨cause, hcause⟩ | ⟨height, hfault, hne, hheight⟩
    · cases hcause
    · cases hfault
      exact ⟨rfl, hne, hheight⟩
  · rintro ⟨rfl, hne, hheight⟩
    exact judge_of_mismatch hheight hne

end Verdict

namespace Guard

variable {g : Guard} {source : Except ReadError Snapshot} {view : Snapshot} {best fork height : UInt64}
  {b : Block} {fault : Fault} {lowest count room max : Nat} {id : Digest}

theorem follow_error (h : (g.follow source best).answer = .error fault) :
    ∃ cause, fault = .inconsistentStore cause := by
  have hfollow : (g.tracker.follow g.table source best).answer = .error fault := h
  exact Tracker.exists_cause_of_follow hfollow

/-- A fork is refused by the checkpoint that the guard is anchored at, or the anchor cannot be told. -/
theorem admitFork_error (h : (g.admitFork source best fork).answer = .error fault) :
    (∃ cause, fault = .inconsistentStore cause) ∨
      ∃ anchor, (g.follow source best).answer = .ok (some anchor) ∧ fork < anchor.height ∧
        fault = .forkBelowCheckpoint fork anchor.height := by
  rcases hanswer : (g.follow source best).answer with e | a
  · rcases follow_error hanswer with ⟨cause, rfl⟩
    simp only [admitFork, hanswer, Except.error.injEq] at h
    exact .inl ⟨cause, h.symm⟩
  · rw [admitFork_answer hanswer] at h
    rcases hanchor : a.filter (fork < ·.height) with _ | anchor
    · rw [hanchor] at h
      cases h
    · simp only [hanchor, Except.error.injEq] at h
      rcases Option.filter_eq_some_iff.1 hanchor with ⟨rfl, hlt⟩
      exact .inr ⟨anchor, rfl, of_decide_eq_true hlt, h.symm⟩

theorem judgeIn_answer (g : Guard) (view : Snapshot) (best : UInt64) (b : Block) :
    (g.judgeIn view best b).1 = Verdict.judge Script.template g.confirmations view best b := by
  rcases hjudge : Verdict.judge Script.template g.confirmations view best b with e | verdict
  · simp only [judgeIn, hjudge]
  · simp only [judgeIn, hjudge]

/-- The verdict of a guard is that of the snapshot, if there is one. -/
theorem judge_answer (g : Guard) (view : Snapshot) (best : UInt64) (b : Block) :
    (g.judge (.ok view) best b).1 = Verdict.judge Script.template g.confirmations view best b :=
  judgeIn_answer g view best b

theorem blockAt_error (h : blockAt view height = .error fault) :
    ∃ cause, fault = .inconsistentStore cause := by
  rcases hheader : view.headerAt height with e | header
  · simp only [blockAt, hheader, Except.error.injEq] at h
    exact ⟨_, h.symm⟩
  rcases hblock : view.block header.digest with e | b
  · simp only [blockAt, hheader, hblock, Except.error.injEq] at h
    exact ⟨_, h.symm⟩
  · simp only [blockAt, hheader, hblock, reduceCtorEq] at h

theorem block_of_blockAt (h : blockAt view height = .ok (id, b)) : view.block id = .ok b := by
  rcases hheader : view.headerAt height with e | header
  · simp only [blockAt, hheader, reduceCtorEq] at h
  rcases hblock : view.block header.digest with e | d
  · simp only [blockAt, hheader, hblock, reduceCtorEq] at h
  · simp only [blockAt, hheader, hblock, Except.ok.injEq, Prod.mk.injEq] at h
    rw [← h.1, ← h.2, hblock]

/-- A block that has been read claims the height that it has, so no verdict on it is a height
    mismatch. -/
theorem judgeIn_error_of_read (hplacing : view.Placing) (hb : view.block id = .ok b)
    (h : (g.judgeIn view best b).1 = .error fault) : ∃ cause, fault = .inconsistentStore cause := by
  rw [judgeIn_answer] at h
  rcases Verdict.judge_error h with hcause | ⟨indexed, _, hne, hheight⟩
  · exact hcause
  · exact absurd (hplacing id b indexed hb hheight) hne

theorem survey_error (hplacing : view.Placing)
    (h : (g.survey view best lowest count room).1 = .error fault) :
    ∃ cause, fault = .inconsistentStore cause := by
  induction count generalizing room fault with
  | zero => simp only [survey, reduceCtorEq] at h
  | succ count ih =>
    rcases room with _ | room
    · simp only [survey, reduceCtorEq] at h
    rcases hat : blockAt view (UInt64.ofNat (lowest + count)) with e | ⟨id, b⟩
    · simp only [survey, hat, Except.error.injEq] at h
      exact h ▸ blockAt_error hat
    rcases hjudge : g.judgeIn view best b with ⟨e | verdict, events⟩
    · simp only [survey, hat, hjudge, Except.error.injEq] at h
      exact h ▸ judgeIn_error_of_read hplacing (block_of_blockAt hat) (congrArg Prod.fst hjudge)
    by_cases hgood : verdict.isCandidate = true
    -- What is found further down fails as a whole or not at all.
    · simp only [survey, hat, hjudge, if_pos hgood] at h
      rcases hfound : (g.survey view best lowest count room).1 with e | found
      · rw [hfound] at h
        cases h
        exact ih hfound
      · rw [hfound] at h
        cases h
    · simp only [survey, hat, hjudge, if_neg hgood] at h
      exact ih h

theorem candidates_error (hplacing : ∀ view, source = .ok view → view.Placing)
    (h : (g.candidates source best max).1 = .error fault) :
    ∃ cause, fault = .inconsistentStore cause := by
  by_cases hnothing : g.breadth best = 0 ∨ max = 0
  · simp only [candidates, if_pos hnothing, reduceCtorEq] at h
  rcases source with e | view
  · simp only [candidates, if_neg hnothing, Except.error.injEq] at h
    exact ⟨_, h.symm⟩
  · simp only [candidates, if_neg hnothing] at h
    exact survey_error (hplacing view rfl) h

/-- Over a store whose snapshots may fail to open and whose answers may fail to come, in whatever way
    and whatever the guard has been through, each question has its own kinds of faults. -/
theorem fault_kinds (g : Guard) (best : UInt64) (writes : List Store.Write)
    (hsource : ∀ view, source = .ok view →
      view.Degrades (writes.foldl Store.write .empty).snapshot) :
    (∀ fault, (g.follow source best).answer = .error fault →
      ∃ cause, fault = .inconsistentStore cause) ∧
    (∀ fork fault, (g.admitFork source best fork).answer = .error fault →
      (∃ cause, fault = .inconsistentStore cause) ∨
        ∃ anchor, (g.follow source best).answer = .ok (some anchor) ∧ fork < anchor.height ∧
          fault = .forkBelowCheckpoint fork anchor.height) ∧
    (∀ b fault, (g.judge source best b).1 = .error fault →
      (∃ cause, fault = .inconsistentStore cause) ∨
        ∃ indexed, fault = .heightMismatch b.height indexed) ∧
    (∀ b claimed indexed,
      (g.judge source best b).1 = .error (.heightMismatch claimed indexed) ↔
        claimed = b.height ∧ indexed ≠ b.height ∧
          ∃ view, source = .ok view ∧ view.heightOf b.digest = .ok indexed) ∧
    (∀ max fault, (g.candidates source best max).1 = .error fault →
      ∃ cause, fault = .inconsistentStore cause) ∧
    ∀ view b e, view.heightOf b.digest = .error e → e.isMiss = true →
      (g.judge (.ok view) best b).1 = .ok .offMainChain := by
  refine ⟨fun fault => follow_error, fun fork fault => admitFork_error, fun b fault h => ?_,
    fun b claimed indexed => ?_, fun max fault => candidates_error fun view hview => ?_,
    fun view b e hmiss he => ?_⟩
  · rcases source with e | view
    · exact .inl ⟨_, (Except.error.inj h).symm⟩
    · rw [judge_answer] at h
      exact (Verdict.judge_error h).imp_right fun ⟨indexed, hfault, _⟩ => ⟨indexed, hfault⟩
  · rcases source with e | view
    -- An unopened store is an inconsistency of its own.
    · refine ⟨fun h => (by cases h), fun ⟨_, _, view, hview, _⟩ => (by cases hview)⟩
    · rw [judge_answer, Verdict.judge_eq_mismatch_iff]
      simp only [Except.ok.injEq, exists_eq_left']
  · exact (hsource view hview).placing (Store.keyed_empty.writes writes).placing
  · rw [judge_answer]
    exact Verdict.judge_of_miss hmiss he

/-- Blocks cannot be read. Then a survey fails over its first block, and that is the store's doing;
    but the main chain is still known, and a caller who mistakes a height is told so. -/
theorem fault_kinds_of_unreadable_blocks :
    let b : Block := {}
    let writes : List Store.Write := [.connect b]
    let whole := (writes.foldl Store.write .empty).snapshot
    let source : Except ReadError Snapshot :=
      .ok (whole.under (Outages.none.set .block (some (.backend "lost"))))
    let g : Guard := { table := .empty, confirmations := 1 }
    let fault := Fault.missing (.block b.digest) (.backend "lost")
    (∀ view, source = .ok view → view.Degrades whole) ∧
      (g.candidates source 1 5).1 = .error fault ∧
      (∃ cause, fault = .inconsistentStore cause) ∧
      (g.judge source 1 { b with height := 7 }).1 = .error (.heightMismatch 7 0) := by
  intro b writes whole source g fault
  have hsource : ∀ view, source = .ok view → view.Degrades whole := by
    intro view hview
    rw [← Except.ok.inj hview]
    exact whole.degrades_under _
  rcases fault_kinds g 1 writes hsource with ⟨_, _, _, hmismatch, hsurvey, _⟩
  have hheader : whole.headerAt 0 = .ok b.header := by
    have hconnect : (Store.empty.connect b).headerAt 0 = .ok b.header :=
      Store.headerAt_eq_ok_iff.2 ⟨b.digest, b, by rw [Store.mainAt_connect]; rfl,
        by rw [Store.blocks_connect, if_pos rfl], rfl⟩
    exact hconnect
  have hheight : whole.heightOf b.digest = .ok 0 := by
    have hconnect : (Store.empty.connect b).heightOf b.digest = .ok 0 :=
      Store.heightOf_eq_ok_iff.2 (by rw [Store.heights_connect, if_pos rfl])
    exact hconnect
  let view := whole.under (Outages.none.set .block (some (.backend "lost")))
  have hat : blockAt view (UInt64.ofNat (0 + 0)) = .error fault := by
    have hheader' : view.headerAt (UInt64.ofNat (0 + 0)) = .ok b.header := hheader
    have hblock : view.block b.header.digest = .error (.backend "lost") := rfl
    simp only [blockAt, hheader', hblock]
    rfl
  have hcandidates : (g.candidates source 1 5).1 = .error fault := by
    have hbreadth : g.breadth 1 = 1 := by decide
    have hsurvey : g.candidates source 1 5 = g.survey view 1 0 1 5 := by
      rw [candidates, hbreadth, if_neg (by decide)]
      rfl
    rw [hsurvey]
    simp only [survey, hat]
  have hclaimed : view.heightOf ({ b with height := 7 } : Block).digest = .ok 0 := by
    have hdigest : ({ b with height := 7 } : Block).digest = b.digest := rfl
    rw [hdigest]
    exact hheight
  exact ⟨hsource, hcandidates, hsurvey 5 fault hcandidates,
    (hmismatch { b with height := 7 } 7 0).2 ⟨rfl, by decide, view, rfl, hclaimed⟩⟩

end Guard

end ChainCheckpoints
