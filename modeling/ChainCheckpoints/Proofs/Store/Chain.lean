import ChainCheckpoints.Proofs.Positions
import ChainCheckpoints.Proofs.Store.Keyed

/-!
# Main Chains Without Gaps

The store trusts its writer, so its main chain may have gaps, a block at two heights, and entries
whose block has been lost. A writer that connects one height after the other, and no block twice,
makes none of that. `Chain` is what such a writer gets, and it is counted by a length and not by a
tip, so that the empty store has one too and the first block is connected like any other.

`Honours` is what a table adds. Below its length the chain runs through every checkpoint, and it
runs through a pinned block at the pinned height only. So for a checkpoint the main chain and the
heights say the same: that the main chain runs through it, and that it is below the length.

A cut leaves a chain up to its height. It must not be at the highest height of all, since nothing would
be left then.

## Main definitions

* `Store.Chain`: a main chain that fills the heights below a length.
* `Store.Honours`: a main chain that a table has no objection to.

## Theorems

* `Store.Chain.connect`, `Store.Chain.addSide`, `Store.Chain.cutAbove`: the writes of such a writer.
* `Store.Chain.tip?_eq_some_iff`: the tip is right below the length.
* `Store.Honours.connect`, `Store.Honours.addSide`, `Store.Honours.cutAbove`: the same for a table.
-/

namespace ChainCheckpoints

namespace Store

variable {s : Store} {table : Table} {length : Nat} {b : Block} {k : UInt64}

/-- A main chain that fills the heights below a length, where the index by digest mirrors the one by
    height and every block is held. -/
structure Chain (s : Store) (length : Nat) : Prop where
  bounded : length ≤ UInt64.size
  filled : ∀ h : UInt64, (∃ x, s.mainAt[h]? = some x) ↔ h.toNat < length
  mirrored : ∀ (h : UInt64) (x : Digest), s.mainAt[h]? = some x ↔ s.heights[x]? = some h
  held : ∀ (h : UInt64) (x : Digest), s.mainAt[h]? = some x → ∃ b, s.blocks[x]? = some b

/-- A main chain that runs through the checkpoints below its length and through no pinned block
    elsewhere. -/
structure Honours (s : Store) (table : Table) (length : Nat) : Prop extends Chain s length where
  pinned : ∀ c ∈ table.entries, c.height.toNat < length → s.mainAt[c.height]? = some c.digest
  alone : ∀ c ∈ table.entries, ∀ h : UInt64, s.mainAt[h]? = some c.digest → h = c.height

theorem chain_empty : empty.Chain 0 where
  bounded := Nat.zero_le _
  filled h := by simp only [mainAt_empty, reduceCtorEq, exists_false, Nat.not_lt_zero]
  mirrored h x := by simp only [mainAt_empty, heights_empty, reduceCtorEq]
  held h x hx := by
    rw [mainAt_empty] at hx
    cases hx

theorem honours_empty (table : Table) : empty.Honours table 0 where
  toChain := chain_empty
  pinned c _ hlt := absurd hlt (Nat.not_lt_zero _)
  alone c _ h hx := by
    rw [mainAt_empty] at hx
    cases hx

/-- There is no block at the length or above it. -/
theorem Chain.mainAt_eq_none (h : s.Chain length) (hge : length ≤ k.toNat) :
    s.mainAt[k]? = none := by
  rcases hx : s.mainAt[k]? with _ | x
  · rfl
  · have hlt := (h.filled k).1 ⟨x, hx⟩
    omega

theorem Chain.connect (h : s.Chain length) (hheight : b.height.toNat = length)
    (hfresh : s.heights[b.digest]? = none) : (s.connect b).Chain (length + 1) where
  bounded := by
    rw [← hheight]
    exact b.height.toNat_lt_size
  filled k := by
    rw [mainAt_connect]
    by_cases hk : b.height = k
    · rw [if_pos hk, ← hk, hheight]
      exact ⟨fun _ => Nat.lt_succ_self length, fun _ => ⟨_, rfl⟩⟩
    · have hne : k.toNat ≠ length := fun heq => hk (UInt64.toNat_inj.1 (hheight.trans heq.symm))
      rw [if_neg hk, h.filled]
      omega
  mirrored k x := by
    have hnone : s.mainAt[b.height]? = none := h.mainAt_eq_none (Nat.le_of_eq hheight.symm)
    rw [mainAt_connect, heights_connect, hnone]
    by_cases hk : b.height = k
    · rw [if_pos hk]
      by_cases hx : b.digest = x
      · rw [if_pos hx, hk, hx]
        exact ⟨fun _ => rfl, fun _ => rfl⟩
      · -- The new block is the only one at its height, and `x` was not there before.
        rw [if_neg hx, if_neg (Option.some_ne_none x).symm, ← h.mirrored, ← hk, hnone]
        exact ⟨fun heq => absurd (Option.some.inj heq) hx, fun heq => by cases heq⟩
    · rw [if_neg hk]
      by_cases hx : b.digest = x
      -- Below the new block there is only what was there, and that is not the new block.
      · rw [if_pos hx, h.mirrored, ← hx, hfresh]
        exact ⟨fun heq => (by cases heq), fun heq => absurd (Option.some.inj heq) hk⟩
      · rw [if_neg hx, if_neg (Option.some_ne_none x).symm, h.mirrored]
  held k x hx := by
    rw [blocks_connect]
    by_cases hb : b.digest = x
    · exact ⟨b, if_pos hb⟩
    · rw [if_neg hb]
      rw [mainAt_connect] at hx
      by_cases hk : b.height = k
      · rw [if_pos hk, Option.some.injEq] at hx
        exact absurd hx hb
      · rw [if_neg hk] at hx
        exact h.held k x hx

theorem Chain.addSide (h : s.Chain length) (b : Block) : (s.addSide b).Chain length where
  bounded := h.bounded
  filled := h.filled
  mirrored := h.mirrored
  held k x hx := by
    rw [blocks_addSide]
    by_cases hb : b.digest = x
    · exact ⟨b, if_pos hb⟩
    · rw [if_neg hb]
      exact h.held k x hx

theorem Chain.cutAbove (h : s.Chain length) (hk : k.toNat < length)
    (hbound : k.toNat + 1 < UInt64.size) : (s.cutAbove k).Chain (k.toNat + 1) where
  bounded := k.toNat_lt_size
  filled j := by
    rw [mainAt_cutAbove]
    by_cases hj : j < k + 1
    · have hle := UInt64.le_iff_toNat_le.1 ((lt_next_iff hbound).1 hj)
      rw [if_pos hj, h.filled]
      omega
    · have hlt := UInt64.lt_iff_toNat_lt.1 ((next_le_iff hbound).1 (UInt64.not_lt.1 hj))
      simp only [if_neg hj, reduceCtorEq, exists_false, false_iff]
      omega
  mirrored j x := by
    rw [mainAt_cutAbove, heights_cutAbove_eq_some_iff, ← h.mirrored]
    by_cases hj : j < k + 1
    · rw [if_pos hj]
      refine ⟨fun hx => ⟨fun i hi => ?_, hx⟩, fun hx => hx.2⟩
      -- A block stands at one height only, so it is not above the cut as well.
      have heq : s.heights[x]? = some j := (h.mirrored j x).1 hx
      rw [(h.mirrored i x).1 hi, Option.some.injEq] at heq
      rw [heq]
      exact hj
    · simp only [if_neg hj, reduceCtorEq, false_iff, not_and]
      exact fun hall hx => hj (hall j hx)
  held j x hx := by
    rw [mainAt_cutAbove] at hx
    by_cases hj : j < k + 1
    · rw [if_pos hj] at hx
      exact h.held j x hx
    · rw [if_neg hj] at hx
      cases hx

theorem Chain.tip?_eq_some_iff (h : s.Chain length) {t : Tip} :
    s.tip? = some t ↔ t.height.toNat + 1 = length ∧ s.mainAt[t.height]? = some t.digest := by
  rw [Store.tip?_eq_some_iff, and_comm]
  refine and_congr_left fun hx => ⟨fun hhighest => ?_, fun hlength j hj => ?_⟩
  · -- If the chain went on above the tip, there would be a block at the next height.
    have hlt := (h.filled t.height).1 ⟨_, hx⟩
    rcases Nat.lt_or_ge (t.height.toNat + 1) length with hmore | hge
    · have hnext : (UInt64.ofNat (t.height.toNat + 1)).toNat = t.height.toNat + 1 :=
        UInt64.toNat_ofNat_of_lt' (Nat.lt_of_lt_of_le hmore h.bounded)
      rcases (h.filled (.ofNat (t.height.toNat + 1))).2 (by rw [hnext]; exact hmore) with ⟨x, hx⟩
      have hle := UInt64.le_iff_toNat_le.1 (hhighest _ (Option.isSome_iff_exists.2 ⟨x, hx⟩))
      omega
    · omega
  · rw [UInt64.le_iff_toNat_le]
    have hlt := (h.filled j).1 (Option.isSome_iff_exists.1 hj)
    omega

/-- A block may go on top if it is the pinned one where its height is pinned, and is pinned at no
    other height. -/
theorem Honours.connect (h : s.Honours table length) (hheight : b.height.toNat = length)
    (hfresh : s.heights[b.digest]? = none)
    (hpinned : ∀ c ∈ table.entries, c.height = b.height → c.digest = b.digest)
    (halone : ∀ c ∈ table.entries, c.digest = b.digest → c.height = b.height) :
    (s.connect b).Honours table (length + 1) where
  toChain := h.toChain.connect hheight hfresh
  pinned c hc hlt := by
    rw [mainAt_connect]
    by_cases hat : b.height = c.height
    · rw [if_pos hat, hpinned c hc hat.symm]
    · have hne : c.height.toNat ≠ length :=
        fun heq => hat (UInt64.toNat_inj.1 (hheight.trans heq.symm))
      rw [if_neg hat]
      exact h.pinned c hc (by omega)
  alone c hc k hx := by
    rw [mainAt_connect] at hx
    by_cases hk : b.height = k
    · rw [if_pos hk, Option.some.injEq] at hx
      rw [← hk, halone c hc hx.symm]
    · rw [if_neg hk] at hx
      exact h.alone c hc k hx

theorem Honours.addSide (h : s.Honours table length) (b : Block) :
    (s.addSide b).Honours table length where
  toChain := h.toChain.addSide b
  pinned := h.pinned
  alone := h.alone

theorem Honours.cutAbove (h : s.Honours table length) (hk : k.toNat < length)
    (hbound : k.toNat + 1 < UInt64.size) : (s.cutAbove k).Honours table (k.toNat + 1) where
  toChain := h.toChain.cutAbove hk hbound
  pinned c hc hlt := by
    have hle : c.height ≤ k := UInt64.le_iff_toNat_le.2 (Nat.le_of_lt_succ hlt)
    rw [mainAt_cutAbove, if_pos ((lt_next_iff hbound).2 hle)]
    exact h.pinned c hc (by omega)
  alone c hc j hx := by
    rw [mainAt_cutAbove] at hx
    by_cases hj : j < k + 1
    · rw [if_pos hj] at hx
      exact h.alone c hc j hx
    · rw [if_neg hj] at hx
      cases hx

/-- The main chain does not run through a checkpoint at its length or above. -/
theorem Honours.heights_eq_none {c : Checkpoint} (h : s.Honours table length)
    (hc : c ∈ table.entries) (hge : length ≤ c.height.toNat) : s.heights[c.digest]? = none := by
  rcases hx : s.heights[c.digest]? with _ | k
  · rfl
  · -- It would have to run through it at the pinned height, and there is no block there.
    have hat := (h.mirrored k c.digest).2 hx
    rw [h.alone c hc k hat, h.mainAt_eq_none hge] at hat
    cases hat

/-- A block of the main chain is read with the height that it stands at. -/
theorem Chain.exists_block {x : Digest} (h : s.Chain length) (hx : s.mainAt[k]? = some x) :
    ∃ b, s.block x = .ok b ∧ b.height = k := by
  rcases h.held k x hx with ⟨d, hd⟩
  refine ⟨_, block_eq_ok_iff.2 ⟨d, hd, rfl⟩, ?_⟩
  rw [(h.mirrored k x).1 hx, Option.getD_some]

end Store

end ChainCheckpoints
