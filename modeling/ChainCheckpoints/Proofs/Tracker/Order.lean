import Mathlib.Logic.Relation
import ChainCheckpoints.Proofs.Store.Answers
import ChainCheckpoints.Proofs.Tracker.Repetition

/-!
# Calls in Any Order

Callers do not agree among themselves who asks first, and their best heights need not ascend. As
long as the store stays as it is, that makes no difference to the tracker: after all of them have
asked, it stands where a single call for the greatest of their best heights would have left it. The
calls may have failed, and a failing one may have gone part of the way.

A call makes moves until there is none left. A move locks in one checkpoint, or takes a cold tracker
to what a scan finds. There is one move at most from each tracker, and a higher best height allows
no other moves than a lower one, only more of them. So the end of a call for a low best height lies
on the way of a call for a high one.

The scan is a move that no best height forbids. What it leaves to be awaited is off the main chain,
so no move follows it, and a cold call is no exception here.

## Main definitions

* `Tracker.Move`: one checkpoint locked in, or a first look at the chain.
* `Tracker.Rests`: a tracker without a move.
* `Tracker.followAll`: the tracker after calls in a row.

## Theorems

* `Tracker.Move.mono`, `Tracker.Move.rightUnique`: moves by the best height, and one at most.
* `Tracker.follow_moves`: a call makes moves until there is none.
* `Tracker.follow_of_lower_first`, `Tracker.follow_of_lower_next`: of two calls in a row, the one for
  the lower best height makes no difference.
* `Tracker.followAll_perm`: the tracker after calls in any order.
-/

namespace ChainCheckpoints

namespace Tracker

open Relation (ReflTransGen)

variable {table : Table} {view : Snapshot} {source : Except ReadError Snapshot}
  {best low high : UInt64} {t u : Tracker} {c : Checkpoint} {b : Block} {index count : Nat}
  {o : Outcome Tracker (Option Block)} {bests others : List UInt64}

/-- One checkpoint locked in, or a first look at the chain. -/
inductive Move (table : Table) (view : Snapshot) (best : UInt64) : Tracker → Tracker → Prop
  /-- From cold the scan decides, whatever the best height is. -/
  | look {a : Option Block} (hne : table.isEmpty = false)
      (hanswer : (scan table view cold table.size).answer = .ok a) :
      Move table view best cold (scan table view cold table.size).state
  | climb {t : Tracker} {index : Nat} {c : Checkpoint} {b : Block} (hnext : t.next = some index)
      (hc : table.get? index = some c) (hdue : c.height ≤ best) (hb : confirm view c = .ok b) :
      Move table view best t (anchored table index b)

/-- There is no move from the tracker. -/
def Rests (table : Table) (view : Snapshot) (best : UInt64) (t : Tracker) : Prop :=
  ∀ u, ¬ Move table view best t u

/-- A higher best height allows the moves that a lower one allows. -/
theorem Move.mono (h : Move table view low t u) (hle : low ≤ high) : Move table view high t u := by
  cases h with
  | look hne hanswer => exact .look hne hanswer
  | climb hnext hc hdue hb => exact .climb hnext hc (UInt64.le_trans hdue hle) hb

theorem moves_mono (h : ReflTransGen (Move table view low) t u) (hle : low ≤ high) :
    ReflTransGen (Move table view high) t u := by
  induction h with
  | refl => exact .refl
  | tail _ hmove ih => exact ih.tail (hmove.mono hle)

theorem Rests.anti (h : Rests table view high t) (hle : low ≤ high) : Rests table view low t :=
  fun u hmove => h u (hmove.mono hle)

/-- There is one move at most. -/
theorem Move.rightUnique : Relator.RightUnique (Move table view best) := by
  intro t u v hu hv
  cases hu with
  | look hne hanswer =>
    cases hv with
    | look _ _ => rfl
    | climb hnext _ _ _ => cases hnext
  | climb hnext hc _ hb =>
    cases hv with
    | look _ _ => cases hnext
    | climb hnext' hc' _ hb' =>
      rw [hnext, Option.some.injEq] at hnext'
      subst hnext'
      rw [hc, Option.some.injEq] at hc'
      subst hc'
      rw [hb, Except.ok.injEq] at hb'
      rw [hb']

/-- Wherever moves from a tracker come to rest, it is the same place. -/
theorem eq_of_rests {v : Tracker} (hu : ReflTransGen (Move table view best) t u)
    (hurest : Rests table view best u) (hv : ReflTransGen (Move table view best) t v)
    (hvrest : Rests table view best v) : u = v := by
  rcases hu.total_of_right_unique Move.rightUnique hv with huv | hvu
  · exact ((Relation.reflTransGen_iff_eq hurest).1 huv).symm
  · exact (Relation.reflTransGen_iff_eq hvrest).1 hvu

/-- A warm tracker rests if what it awaits is not due or cannot be locked in. -/
theorem rests_of_awaited (hwarm : t.isCold = false)
    (hstop : ∀ c b, t.awaited? table = some c → c.height ≤ best → confirm view c ≠ .ok b) :
    Rests table view best t := by
  intro u hmove
  cases hmove with
  | look _ _ => cases hwarm
  | climb hnext hc hdue hb => exact hstop _ _ (by rw [awaited?_of_next hnext, hc]) hdue hb

/-- A tracker that awaits a checkpoint off the main chain rests, due or not. -/
theorem rests_of_denied (hwarm : t.isCold = false)
    (hdenied : ∀ c, t.awaited? table = some c → view.isMain c.digest = .ok false) :
    Rests table view best t := by
  refine rests_of_awaited hwarm fun c b hc _ hb => ?_
  have hmain := (confirm_eq_ok_iff.1 hb).1
  rw [hdenied c hc] at hmain
  cases hmain

/-- An anchored tracker awaits the next position, if there is a checkpoint. -/
theorem next_anchored (hc : table.get? (index + 1) = some c) (b : Block) :
    (anchored table index b).next = some (index + 1) :=
  if_pos (Table.lt_size hc)

/-- An ascent climbs to each checkpoint that it passes. -/
theorem Ascended.climbs (h : Ascended table view best index t count o) (hnext : t.next = some index) :
    ∀ last c b, last < count → table.get? (index + last) = some c → confirm view c = .ok b →
      ReflTransGen (Move table view best) t (anchored table (index + last) b) := by
  intro last
  induction last with
  | zero =>
    intro c b hlast hc hb
    rcases h.passed index (Nat.le_refl _) (Nat.lt_add_of_pos_right hlast) with ⟨d, _, hd, hdue, _⟩
    rw [Nat.add_zero] at hc ⊢
    rw [hc, Option.some.injEq] at hd
    exact .single (.climb hnext hc (hd ▸ hdue) hb)
  | succ last ih =>
    intro c b hlast hc hb
    rcases h.passed (index + last) (Nat.le_add_right _ _) (by omega) with ⟨d, e, hd, _, he⟩
    rcases h.passed (index + (last + 1)) (Nat.le_add_right _ _) (by omega) with
      ⟨c', _, hc', hdue, _⟩
    rw [hc, Option.some.injEq] at hc'
    exact .tail (ih d e (Nat.lt_of_succ_lt hlast) hd he)
      (.climb (next_anchored hc e) hc (hc' ▸ hdue) hb)

/-- An ascent makes moves until there is none. -/
theorem Ascended.moves (h : Ascended table view best index t count o) (hwarm : t.isCold = false)
    (hnext : t.next = some index) :
    ReflTransGen (Move table view best) t o.state ∧ Rests table view best o.state := by
  constructor
  · rcases h.state with ⟨_, hstate⟩ | ⟨last, c, b, hcount, hc, hb, hstate⟩
    · rw [hstate]
    · rw [hstate]
      exact h.climbs hnext last c b (by omega) hc hb
  · refine rests_of_awaited (h.isCold_eq_false hwarm) fun c b hc hdue hb => ?_
    rw [h.awaited?_eq hnext] at hc
    rcases h.stop with ⟨_, hnone⟩ | ⟨d, cause, hd, _, hcause, _⟩
    · exact UInt64.not_lt.2 hdue (hnone c hc)
    · rw [hc, Option.some.injEq] at hd
      rw [← hd, hb] at hcause
      cases hcause

/-- A scan is one move or none, and no other move comes after it. -/
theorem scan_moves (hne : table.isEmpty = false) :
    let o := scan table view cold table.size
    ReflTransGen (Move table view best) cold o.state ∧ Rests table view best o.state := by
  intro o
  have hscan : Scanned table view cold table.size o := scan_spec (Nat.le_refl table.size)
  cases hscan with
  | below hdenied hanswer hstate _ =>
    refine ⟨.single (.look hne hanswer), ?_⟩
    rw [show o.state = waiting from hstate]
    exact rests_of_denied isCold_waiting fun c hc => hdenied 0 c (Table.lt_size hc) hc
  | @found index c b hindex hc hb habove hanswer hstate _ =>
    refine ⟨.single (.look hne hanswer), ?_⟩
    rw [show o.state = anchored table index b from hstate]
    refine rests_of_denied (isCold_anchored ..) fun d hd => ?_
    rw [awaited?_anchored] at hd
    exact habove _ d (Nat.lt_succ_self index) (Table.lt_size hd) hd
  | refused _ _ _ _ hanswer hstate _ =>
    rw [show o.state = cold from hstate]
    refine ⟨.refl, fun u hmove => ?_⟩
    cases hmove with
    | look _ hok => cases hok.symm.trans hanswer
    | climb hnext _ _ _ => cases hnext

/-- A call makes moves until there is none. -/
theorem follow_moves (t : Tracker) (table : Table) (view : Snapshot) (best : UInt64) :
    let u := (t.follow table (.ok view) best).state
    ReflTransGen (Move table view best) t u ∧ Rests table view best u := by
  intro u
  cases follow_spec t table (.ok view) best with
  | vacant hempty _ hstate _ =>
    rw [show u = t from hstate]
    refine ⟨.refl, fun v hmove => ?_⟩
    cases hmove with
    | look hne _ => cases hne.symm.trans hempty
    | climb hnext hc _ _ =>
      have hnone := awaited?_of_isEmpty (t := t) hempty
      rw [awaited?_of_next hnext, hc] at hnone
      cases hnone
  | unopened hsource _ _ _ => cases hsource
  | scanned hne hcold _ _ =>
    have hu : u = (scan table view cold table.size).state := by
      simp only [u, hcold, follow, hne, Bool.false_eq_true, isCold_cold, ↓reduceIte]
    rw [hu, hcold]
    exact scan_moves hne
  | rested hwarm hnone _ hstate _ =>
    rw [show u = t from hstate]
    exact ⟨.refl, rests_of_awaited hwarm fun c b hc hdue _ => UInt64.not_lt.2 hdue (hnone c hc)⟩
  | ascended hwarm hnext hsource hascent =>
    cases hsource
    exact hascent.moves hwarm hnext

/-- Without a snapshot nothing moves. -/
theorem follow_unopened (t : Tracker) (table : Table) (e : ReadError) (best : UInt64) :
    (t.follow table (.error e) best).state = t := by
  cases follow_spec t table (.error e) best with
  | vacant _ _ hstate _ => exact hstate
  | unopened _ _ hstate _ => exact hstate
  | scanned _ _ hsource _ => cases hsource
  | rested _ _ _ hstate _ => exact hstate
  | ascended _ _ hsource _ => cases hsource

/-- A first call for a lower best height makes no difference: where it ends is on the way. -/
theorem follow_of_lower_first (hle : low ≤ high) :
    ((t.follow table source low).state.follow table source high).state
      = (t.follow table source high).state := by
  rcases source with e | view
  · rw [follow_unopened, follow_unopened, follow_unopened]
  · rcases t.follow_moves table view low with ⟨hfirst, _⟩
    rcases (t.follow table (.ok view) low).state.follow_moves table view high with ⟨hnext, hrest⟩
    rcases t.follow_moves table view high with ⟨hwhole, hwholerest⟩
    exact eq_of_rests ((moves_mono hfirst hle).trans hnext) hrest hwhole hwholerest

/-- Neither does a later one: a tracker that rests at a best height rests at the lower ones. -/
theorem follow_of_lower_next (hle : low ≤ high) :
    ((t.follow table source high).state.follow table source low).state
      = (t.follow table source high).state := by
  rcases source with e | view
  · rw [follow_unopened, follow_unopened]
  · rcases t.follow_moves table view high with ⟨_, hrest⟩
    rcases (t.follow table (.ok view) high).state.follow_moves table view low with ⟨hnext, _⟩
    exact (Relation.reflTransGen_iff_eq (hrest.anti hle)).1 hnext

/-- The tracker after calls in a row, for the given best heights and over an unchanged store. -/
def followAll (t : Tracker) (table : Table) (source : Except ReadError Snapshot)
    (bests : List UInt64) : Tracker :=
  bests.foldl (fun t best => (t.follow table source best).state) t

@[simp] theorem followAll_nil : t.followAll table source [] = t := rfl

@[simp] theorem followAll_cons : t.followAll table source (best :: bests) =
    (t.follow table source best).state.followAll table source bests := rfl

/-- Calls for lower best heights make no difference after one for a high one. -/
theorem followAll_of_lower_next (hle : ∀ low ∈ bests, low ≤ high) :
    (t.follow table source high).state.followAll table source bests
      = (t.follow table source high).state := by
  induction bests with
  | nil => rfl
  | cons low bests ih =>
    rw [followAll_cons, follow_of_lower_next (hle low (List.mem_cons_self ..))]
    exact ih fun low hlow => hle low (List.mem_cons_of_mem _ hlow)

/-- Calls in a row leave the tracker as the one for the greatest best height alone would. -/
theorem followAll_of_greatest (hbest : best ∈ bests) (hgreatest : ∀ low ∈ bests, low ≤ best) :
    t.followAll table source bests = (t.follow table source best).state := by
  induction bests generalizing t with
  | nil => cases hbest
  | cons first bests ih =>
    have hlater : ∀ low ∈ bests, low ≤ best := fun low hlow =>
      hgreatest low (List.mem_cons_of_mem _ hlow)
    rw [followAll_cons]
    rcases List.mem_cons.1 hbest with rfl | hbest
    · exact followAll_of_lower_next hlater
    · rw [ih hbest hlater]
      exact follow_of_lower_first (hgreatest first (List.mem_cons_self ..))

theorem follow_swap (t : Tracker) (table : Table) (source : Except ReadError Snapshot)
    (first next : UInt64) :
    ((t.follow table source first).state.follow table source next).state
      = ((t.follow table source next).state.follow table source first).state := by
  rcases UInt64.le_total first next with hle | hle
  · rw [follow_of_lower_first hle, follow_of_lower_next hle]
  · rw [follow_of_lower_first hle, follow_of_lower_next hle]

/-- Calls over an unchanged store leave the tracker in the same state in whatever order they come,
    whichever of them fail: in the one that a single call for the greatest of their best heights
    leaves. -/
theorem followAll_perm (t : Tracker) (table : Table) (source : Except ReadError Snapshot)
    (h : bests.Perm others) :
    t.followAll table source bests = t.followAll table source others ∧
      ∀ best ∈ bests, (∀ low ∈ bests, low ≤ best) →
        t.followAll table source bests = (t.follow table source best).state := by
  refine ⟨?_, fun best hbest hgreatest => followAll_of_greatest hbest hgreatest⟩
  induction h generalizing t with
  | nil => rfl
  | cons best _ ih => exact ih _
  | swap first next bests =>
    rw [followAll_cons, followAll_cons, followAll_cons, followAll_cons, follow_swap]
  | trans _ _ ih ih' => exact (ih t).trans (ih' t)

/-- Two checkpoints pin one block, which stands at the lower of their heights. A call for the higher
    one locks the lower one in and fails, a call for the lower one has an answer, and the tracker ends
    at the lower one either way. -/
theorem followAll_perm_of_failing :
    let b : Block := { height := 1 }
    let table : Table :=
      { entries := [⟨1, b.digest⟩, ⟨2, b.digest⟩]
        ascending := List.pairwise_pair.2 (by decide) }
    let source := (Store.empty.connect b).source
    [(2 : UInt64), 1].Perm [1, 2] ∧
      (waiting.follow table source 2).answer =
        .error (.inconsistentStore (.misplaced ⟨2, b.digest⟩ 1)) ∧
      (waiting.follow table source 1).answer = .ok (some b) ∧
      waiting.followAll table source [2, 1] = anchored table 0 b ∧
      waiting.followAll table source [1, 2] = anchored table 0 b := by
  intro b table source
  have hperm : [(2 : UInt64), 1].Perm [1, 2] := .swap 1 2 []
  let view := (Store.empty.connect b).snapshot
  have hmain : view.isMain b.digest = .ok true := Store.isMain_connect .empty b
  have hblock : view.block b.digest = .ok b := Store.block_connect .empty b
  have hlow : confirm view ⟨1, b.digest⟩ = .ok b := confirm_eq_ok_iff.2 ⟨hmain, hblock, rfl⟩
  have hhigh : confirm view ⟨2, b.digest⟩ = .error (.misplaced ⟨2, b.digest⟩ 1) := by
    simp only [confirm, hmain, hblock]
    rfl
  have hlocked : lockIn table view 0 = (.ok (anchored table 0 b), [.lockedIn ⟨1, b.digest⟩]) :=
    lockIn_of_confirm rfl hlow
  have hrefused : lockIn table view 1 = _ := lockIn_of_refusal (c := ⟨2, b.digest⟩) rfl hhigh
  -- Both calls find the lower one due and lock it in, and go on from there.
  have hone : waiting.follow table source 1 =
      (anchored table 0 b).settled.after [.lockedIn ⟨1, b.digest⟩] := by
    have hadvance : waiting.follow table source 1 =
        advance table view 1 [⟨1, b.digest⟩, ⟨2, b.digest⟩] 0 waiting := rfl
    rw [hadvance, advance, if_pos (by decide), hlocked]
    rfl
  have htwo : waiting.follow table source 2 =
      ((anchored table 0 b).failed (.inconsistentStore (.misplaced ⟨2, b.digest⟩ 1))
        [.misplaced ⟨2, b.digest⟩ 1]).after [.lockedIn ⟨1, b.digest⟩] := by
    have hadvance : waiting.follow table source 2 =
        advance table view 2 [⟨1, b.digest⟩, ⟨2, b.digest⟩] 0 waiting := rfl
    rw [hadvance, advance, if_pos (by decide), hlocked]
    simp only [advance, hrefused]
    rfl
  rcases followAll_perm waiting table source hperm with ⟨hsame, hgreatest⟩
  have htop : ∀ low ∈ [(2 : UInt64), 1], low ≤ 2 :=
    List.forall_mem_cons.2 ⟨UInt64.le_refl 2, List.forall_mem_singleton.2 (by decide)⟩
  have hend : waiting.followAll table source [2, 1] = anchored table 0 b := by
    rw [hgreatest 2 List.mem_cons_self htop, htwo]
    rfl
  exact ⟨hperm, by rw [htwo]; rfl, by rw [hone]; rfl, hend, hsame ▸ hend⟩

end Tracker

end ChainCheckpoints
