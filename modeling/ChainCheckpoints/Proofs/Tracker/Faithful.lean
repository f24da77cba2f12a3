import ChainCheckpoints.Proofs.Store.Chain
import ChainCheckpoints.Proofs.Tracker.Shape

/-!
# A Tracker Over a Chain That Honours Its Table

Against an arbitrary store a tracker may end in a fault, and its anchor need not be the highest
checkpoint that the best height has come to. Both come from one thing: the main chain and the best
height need not agree on which checkpoints have been passed. A cold call goes by the main chain and
a warm call by the best height.

A snapshot is faithful up to a length if it confirms the checkpoints below the length and denies the
others. Then the two ways agree. No call fails whose best height is not ahead of the length, and
where the two draw the same line the anchor is the highest checkpoint below it.

## Main definitions

* `Snapshot.Faithful`: a snapshot that tells of the checkpoints what their heights tell.
* `Block.place`: where a block stands, as a checkpoint would pin it.
* `Tracker.Below`: a checkpoint below the length, and the block pinned by it.

## Theorems

* `Store.Honours.faithful`: the snapshot of a chain that honours a table is faithful.
* `Tracker.Formed.below`: a call keeps the anchor below the length.
* `Tracker.Formed.exists_answer`: a call has an answer.
* `Tracker.Formed.place_eq`: the answer is the highest checkpoint that has been reached.
-/

namespace ChainCheckpoints

/-- Where a block stands, as a checkpoint would pin it. -/
def Block.place (b : Block) : Checkpoint where
  height := b.height
  digest := b.digest

theorem Checkpoint.Pins.place_eq {c : Checkpoint} {b : Block} (h : c.Pins b) : b.place = c := by
  rcases c with ⟨height, digest⟩
  simp only [Block.place, Checkpoint.mk.injEq]
  exact h

/-- A snapshot that confirms the checkpoints below a length and denies the others. -/
structure Snapshot.Faithful (view : Snapshot) (table : Table) (length : Nat) : Prop where
  confirmed : ∀ c ∈ table.entries, c.height.toNat < length →
    ∃ b, Tracker.confirm view c = .ok b ∧ c.Pins b
  denied : ∀ c ∈ table.entries, length ≤ c.height.toNat → view.isMain c.digest = .ok false

theorem Store.Honours.faithful {s : Store} {table : Table} {length : Nat}
    (h : s.Honours table length) (hkeyed : s.Keyed) : s.snapshot.Faithful table length where
  confirmed c hc hlt := by
    have hat : s.mainAt[c.height]? = some c.digest := h.pinned c hc hlt
    rcases h.toChain.exists_block hat with ⟨b, hb, hheight⟩
    have hmain : s.heights.contains c.digest = true := by
      rw [Std.TreeMap.contains_eq_isSome_getElem?, (h.mirrored c.height c.digest).1 hat,
        Option.isSome_some]
    refine ⟨b, Tracker.confirm_eq_ok_iff.2 ⟨?_, hb, hheight⟩, hheight, hkeyed.digest_of_block hb⟩
    exact congrArg Except.ok hmain
  denied c hc hge := by
    have hmain : s.heights.contains c.digest = false := by
      rw [Std.TreeMap.contains_eq_isSome_getElem?, h.heights_eq_none hc hge, Option.isSome_none]
    exact congrArg Except.ok hmain

namespace Tracker

variable {table : Table} {view : Snapshot} {best : UInt64} {t : Tracker} {length : Nat}
  {c : Checkpoint} {b : Block} {a : Option Block}

/-- The checkpoint is below the length, and the block is the one that it pins. -/
def Below (length : Nat) (c : Checkpoint) (b : Block) : Prop :=
  c.Pins b ∧ c.height.toNat < length

theorem below_of_confirm (hview : view.Faithful table length) (hc : c ∈ table.entries)
    (hb : confirm view c = .ok b) : Below length c b := by
  rcases Nat.lt_or_ge c.height.toNat length with hlt | hge
  · rcases hview.confirmed c hc hlt with ⟨d, hd, hpins⟩
    rw [hb, Except.ok.injEq] at hd
    exact ⟨hd ▸ hpins, hlt⟩
  · have hmain := (confirm_eq_ok_iff.1 hb).1
    rw [hview.denied c hc hge] at hmain
    cases hmain

theorem Formed.below (h : Formed (Below length) table t) (hview : view.Faithful table length) :
    Formed (Below length) table (t.follow table (.ok view) best).state :=
  h.follow fun seen c b hseen hc hb => by
    cases hseen
    exact below_of_confirm hview hc hb

/-- No call fails whose best height is not ahead of the length. -/
theorem exists_answer (hview : view.Faithful table length)
    (hreach : ∀ c ∈ table.entries, c.height ≤ best → c.height.toNat < length) :
    ∃ a, (t.follow table (.ok view) best).answer = .ok a := by
  cases follow_spec t table (.ok view) best with
  | vacant _ hanswer _ _ => exact ⟨none, hanswer⟩
  | unopened hsource _ _ _ => cases hsource
  | rested _ _ hanswer _ _ => exact ⟨_, hanswer⟩
  | scanned _ _ hsource hscan =>
    cases hsource
    cases hscan with
    | below _ hanswer _ _ => exact ⟨none, hanswer⟩
    | found _ _ _ _ hanswer _ _ => exact ⟨_, hanswer⟩
    | @refused index c cause _ hc hcause hmain _ _ _ =>
      -- What a cold call finds in the main chain can be confirmed.
      rcases Nat.lt_or_ge c.height.toNat length with hlt | hge
      · rcases hview.confirmed c (Table.mem_entries hc) hlt with ⟨b, hb, _⟩
        cases hcause.symm.trans hb
      · exact absurd (hview.denied c (Table.mem_entries hc) hge) hmain
  | ascended _ _ hsource hascent =>
    cases hsource
    rcases hascent.stop with ⟨hanswer, _⟩ | ⟨c, cause, hc, hdue, hcause, _⟩
    · exact ⟨_, hanswer⟩
    -- So can what a warm call finds due.
    · have hmem := Table.mem_entries hc
      rcases hview.confirmed c hmem (hreach c hmem hdue) with ⟨b, hb, _⟩
      cases hcause.symm.trans hb

theorem mem_of_awaited? (hc : t.awaited? table = some c) : c ∈ table.entries := by
  rcases Option.bind_eq_some_iff.1 hc with ⟨_, _, hget⟩
  exact Table.mem_entries hget

/-- An anchor is the highest checkpoint that has been reached if it has been reached itself and what
    is awaited has not. -/
theorem Formed.place_eq_reached? {Fits : Checkpoint → Block → Prop} (h : Formed Fits table t)
    (hwarm : t.isCold = false)
    (hfits : ∀ c b, c ∈ table.entries → Fits c b → c.Pins b ∧ c.height ≤ best)
    (hnone : ∀ c, t.awaited? table = some c → best < c.height) :
    t.block?.map Block.place = table.reached? best := by
  cases h with
  | cold => cases hwarm
  | waiting _ => exact (Table.reached?_of_first hnone).symm
  | @anchored index c b hc hfit =>
    rcases hfits c b (Table.mem_entries hc) hfit with ⟨hpins, hdue⟩
    rw [block?_anchored, Option.map_some, hpins.place_eq]
    exact (Table.reached?_of_next hc hdue fun d hd => hnone d (by rw [awaited?_anchored, hd])).symm

/-- Where the length and the best height draw the same line through the table, an answer is the
    highest checkpoint below it. -/
theorem Formed.place_eq (h : Formed (Below length) table t) (hview : view.Faithful table length)
    (hline : ∀ c ∈ table.entries, c.height ≤ best ↔ c.height.toNat < length)
    (hanswer : (t.follow table (.ok view) best).answer = .ok a) :
    a.map Block.place = table.reached? best := by
  rcases hempty : table.isEmpty with _ | _
  · have hanswered := answered_of_follow hanswer
    rw [hanswered.block?_eq hempty]
    refine (h.below hview).place_eq_reached? (hanswered.isCold_eq_false hempty)
      (fun c b hc hbelow => ⟨hbelow.1, (hline c hc).2 hbelow.2⟩) fun c hc => ?_
    rcases hcold : t.isCold with _ | _
    · exact hanswered.idle_of_warm hcold c hc
    · -- A cold call goes by the main chain, and that is faithful: what it denies is not due.
      rcases hanswered.denied_of_cold hcold hc with ⟨seen, hseen, hmain⟩
      cases hseen
      refine UInt64.not_le.1 fun hdue => ?_
      have hmem := mem_of_awaited? hc
      rcases hview.confirmed c hmem ((hline c hmem).1 hdue) with ⟨b, hb, _⟩
      cases hmain.symm.trans (confirm_eq_ok_iff.1 hb).1
  · rw [follow_of_isEmpty hempty, Except.ok.injEq] at hanswer
    have hnone : table.reached? best = none := by
      rw [Table.reached?_eq_none_iff, List.isEmpty_iff.1 hempty]
      exact fun c hc => absurd hc List.not_mem_nil
    rw [← hanswer, hnone, Option.map_none]

end Tracker

end ChainCheckpoints
