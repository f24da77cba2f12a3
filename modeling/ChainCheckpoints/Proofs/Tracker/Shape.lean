import ChainCheckpoints.Proofs.Tracker.Answer

/-!
# The Shapes of a Tracker

A tracker is two optional fields, and most of their combinations mean nothing: an anchor with
nothing known of what comes next, or a next checkpoint that is not the one after the anchor. Either
would make the tracker scan again from cold or wait for the wrong checkpoint. No call makes one.

`Formed` is the invariant that every call keeps. What it says of the anchor's block is a parameter,
because it depends on what is known of the stores that the calls read from: their blocks stand at
the checkpoint's height whatever the store, they have the checkpoint's digest if the store keeps
blocks by their digests, and they are in a given chain if the store is.

`HasShape` says the same of the two fields, one shape at a time, so that the shape of a tracker can
be read off it.

## Main definitions

* `Checkpoint.Pins`: the block is the one that a checkpoint pins.
* `Tracker.Formed`: a tracker that some history of calls may have left.
* `Tracker.Shape`, `Tracker.HasShape`: the three shapes.

## Theorems

* `Tracker.Formed.follow`: a call keeps the invariant.
* `Tracker.Formed.answer_eq`: an answer is the anchor that the call leaves.
* `Tracker.Formed.hasShape`: a tracker that the invariant holds of has a shape.
* `Tracker.HasShape.unique`: and no other.
* `Tracker.isCold_follow_iff`: a call leaves a cold tracker if it found one and has no answer.
-/

namespace ChainCheckpoints

/-- The block is the one that the checkpoint pins, by its height and by its digest. -/
def Checkpoint.Pins (c : Checkpoint) (b : Block) : Prop :=
  b.height = c.height ∧ b.digest = c.digest

namespace Tracker

variable {table : Table} {view : Snapshot} {source : Except ReadError Snapshot} {best : UInt64}
  {t : Tracker} {c : Checkpoint} {b : Block} {index count : Nat}
  {a : Option Block} {o : Outcome Tracker (Option Block)} {Fits Suits : Checkpoint → Block → Prop}

/-- A tracker that some history of calls may have left, where the block of a checkpoint that is
    locked in fits the checkpoint. -/
inductive Formed (Fits : Checkpoint → Block → Prop) (table : Table) : Tracker → Prop
  | cold : Formed Fits table cold
  | waiting (hne : table.isEmpty = false) : Formed Fits table waiting
  | anchored {index : Nat} {c : Checkpoint} {b : Block} (hc : table.get? index = some c)
      (hfits : Fits c b) : Formed Fits table (anchored table index b)

/-- It is the block of the anchor that has to fit. -/
theorem Formed.mono (h : Formed Fits table t)
    (hmono : ∀ c b, t.block? = some b → Fits c b → Suits c b) : Formed Suits table t := by
  cases h with
  | cold => exact .cold
  | waiting hne => exact .waiting hne
  | @anchored index c b hc hfits => exact .anchored hc (hmono c b (block?_anchored ..) hfits)

theorem Ascended.formed (h : Ascended table view best index t count o) (hformed : Formed Fits table t)
    (hfits : ∀ c b, c ∈ table.entries → confirm view c = .ok b → Fits c b) :
    Formed Fits table o.state := by
  rcases h.state with ⟨_, hstate⟩ | ⟨last, c, b, _, hc, hb, hstate⟩
  · rw [hstate]
    exact hformed
  · rw [hstate]
    exact .anchored hc (hfits c b (Table.mem_entries hc) hb)

theorem Formed.follow (h : Formed Fits table t)
    (hfits : ∀ view c b, source = .ok view → c ∈ table.entries → confirm view c = .ok b → Fits c b) :
    Formed Fits table (t.follow table source best).state := by
  cases follow_spec t table source best with
  | vacant _ _ hstate _ => rwa [hstate]
  | unopened _ _ hstate _ => rwa [hstate]
  | rested _ _ _ hstate _ => rwa [hstate]
  | ascended _ _ hsource hascent =>
    -- A fault in the middle of an ascent leaves what was locked in before it, which is formed too.
    exact hascent.formed h (hfits _ · · hsource)
  | scanned hne _ hsource hscan =>
    cases hscan with
    | below _ _ hstate _ =>
      rw [hstate]
      exact .waiting hne
    | found _ hc hb _ _ hstate _ =>
      rw [hstate]
      exact .anchored hc (hfits _ _ _ hsource (Table.mem_entries hc) hb)
    | refused _ _ _ _ _ hstate _ => rwa [hstate]

/-- An anchor is the block of a checkpoint, and fits it. -/
theorem Formed.exists_entry (h : Formed Fits table t) (hb : t.block? = some b) :
    ∃ c ∈ table.entries, Fits c b := by
  cases h with
  | cold => cases hb
  | waiting _ => cases hb
  | @anchored index c d hc hfits =>
    rw [block?_anchored, Option.some.injEq] at hb
    exact ⟨c, Table.mem_entries hc, hb ▸ hfits⟩

/-- Nothing can have been locked in from a table without entries. -/
theorem Formed.eq_cold (h : Formed Fits table t)
    (hempty : table.isEmpty = true) : t = Tracker.cold := by
  cases h with
  | cold => rfl
  | waiting hne => cases hempty.symm.trans hne
  | anchored hc _ => cases hempty.symm.trans (Table.isEmpty_eq_false hc)

/-- An answer is the anchor that the call leaves. -/
theorem Formed.answer_eq (h : Formed Fits table t)
    (hanswer : (t.follow table source best).answer = .ok a) :
    a = (t.follow table source best).state.block? := by
  rcases hempty : table.isEmpty with _ | _
  · exact (answered_of_follow hanswer).block?_eq hempty
  · rw [follow_of_isEmpty hempty, Except.ok.injEq] at hanswer
    rw [follow_of_isEmpty hempty, h.eq_cold hempty, block?_cold, hanswer]

theorem isCold_follow_iff (hne : table.isEmpty = false) :
    (t.follow table source best).state.isCold = true ↔
      t.isCold = true ∧ ∀ a, (t.follow table source best).answer ≠ .ok a := by
  rcases hanswer : (t.follow table source best).answer with fault | a
  · -- Without an answer nothing is locked in from cold, and a warm tracker stays warm.
    have hkeep : (t.follow table source best).state.isCold = t.isCold := by
      cases follow_spec t table source best with
      | vacant _ _ hstate _ => rw [hstate]
      | unopened _ _ hstate _ => rw [hstate]
      | rested _ _ _ hstate _ => rw [hstate]
      | ascended hwarm _ _ hascent => rw [hascent.isCold_eq_false hwarm, hwarm]
      | scanned _ _ _ hscan =>
        cases hscan with
        | below _ hok _ _ => cases hok.symm.trans hanswer
        | found _ _ _ _ hok _ _ => cases hok.symm.trans hanswer
        | refused _ _ _ _ _ hstate _ => rw [hstate]
    rw [hkeep]
    exact ⟨fun h => ⟨h, fun a ha => by cases ha⟩, fun h => h.1⟩
  · rw [(answered_of_follow hanswer).isCold_eq_false hne]
    exact ⟨fun h => (by cases h), fun h => absurd rfl (h.2 a)⟩

/-- The shapes: nothing has been looked at, the chain is below the first checkpoint, or the
    checkpoint at a position is locked in. -/
inductive Shape
  | cold
  | waiting
  | anchored (index : Nat)
deriving DecidableEq

/-- What a shape says of the two fields. -/
def HasShape (t : Tracker) (table : Table) : Shape → Prop
  | .cold => t.anchor = none ∧ t.next = none
  | .waiting => t.anchor = none ∧ t.next = some 0 ∧ 0 < table.size
  | .anchored index =>
    (∃ c b, table.get? index = some c ∧ t.anchor = some { index, block := b } ∧ c.Pins b) ∧
      t.next = if index + 1 < table.size then some (index + 1) else none

theorem Formed.hasShape (h : Formed Checkpoint.Pins table t) : ∃ shape, t.HasShape table shape := by
  cases h with
  | cold => exact ⟨.cold, rfl, rfl⟩
  | waiting hne => exact ⟨.waiting, rfl, rfl, Table.size_pos hne⟩
  | @anchored index c b hc hpins => exact ⟨.anchored index, ⟨c, b, hc, rfl, hpins⟩, rfl⟩

/-- The fields tell the shapes apart. -/
theorem HasShape.unique {shape other : Shape} (h : t.HasShape table shape)
    (hother : t.HasShape table other) : other = shape := by
  cases shape with
  | cold =>
    cases other with
    | cold => rfl
    | waiting => cases h.2.symm.trans hother.2.1
    | anchored j =>
      rcases hother.1 with ⟨_, _, _, hanchor, _⟩
      cases h.1.symm.trans hanchor
  | waiting =>
    cases other with
    | cold => cases h.2.1.symm.trans hother.2
    | waiting => rfl
    | anchored j =>
      rcases hother.1 with ⟨_, _, _, hanchor, _⟩
      cases h.1.symm.trans hanchor
  | anchored i =>
    rcases h.1 with ⟨_, _, _, hanchor, _⟩
    cases other with
    | cold => cases hother.1.symm.trans hanchor
    | waiting => cases hother.1.symm.trans hanchor
    | anchored j =>
      rcases hother.1 with ⟨_, _, _, hat, _⟩
      have heq := hanchor.symm.trans hat
      simp only [Option.some.injEq, Anchor.mk.injEq] at heq
      rw [heq.1]

theorem hasShape_cold_iff : t.HasShape table .cold ↔ t.isCold = true := by
  rw [isCold_iff]
  rcases t with ⟨anchor, next⟩
  simp only [HasShape, cold, mk.injEq]

end Tracker

end ChainCheckpoints
