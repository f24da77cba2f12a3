import ChainCheckpoints.Proofs.Store.Answers
import ChainCheckpoints.Proofs.Store.Chain

/-!
# Main Chains Linked by Parents

A block names the one below it by its digest, and the store does not look at that. A writer who puts
one block on the other gets a main chain where both ways down agree: the parent that a header names,
and the height below.

Upwards there is one way only, since no header names the block above. Heights are counted as plain
numbers here, so that the height above is always one more.

## Main definitions

* `Store.Stands`: the block of the main chain at a height.
* `Store.Seamless`: blocks at all heights below a length, where each names the one below it.
* `Store.LinkedChain`: a main chain where every block names the one below it.

## Theorems

* `Store.LinkedChain.connect`: such a writer makes such a chain.
* `Store.Chain.exists_stands`: there is a block at every height below the length.
* `Store.LinkedChain.seamless`: a linked chain is seamless.
* `Store.Seamless.header_parent`, `Store.headerAt_succ`: the headers below and above a block.
-/

namespace ChainCheckpoints

namespace Store

variable {s : Store} {length n : Nat} {k : UInt64} {x : Digest} {b d e : Block}

/-- The main chain has this block at a height, which is counted as a plain number. -/
def Stands (s : Store) (height : Nat) (d : Block) : Prop :=
  ∃ (k : UInt64) (x : Digest), k.toNat = height ∧ s.mainAt[k]? = some x ∧ s.blocks[x]? = some d

theorem Stands.unique (h : s.Stands n d) (h' : s.Stands n e) : d = e := by
  rcases h with ⟨k, x, hk, hx, hd⟩
  rcases h' with ⟨k', x', hk', hx', he⟩
  have hheight : k = k' := UInt64.toNat_inj.1 (hk.trans hk'.symm)
  rw [hheight, hx', Option.some.injEq] at hx
  rw [← hx, he, Option.some.injEq] at hd
  exact hd.symm

/-- The heights below a length have their blocks, and each block names the one below it. Nothing is
    said of the index by digest, nor of what may stand at the length or above. -/
structure Seamless (s : Store) (length : Nat) : Prop where
  stands : ∀ n < length, ∃ d, s.Stands n d
  linked : ∀ (k : UInt64) (x : Digest) (d : Block), k.toNat + 1 < length → s.mainAt[k]? = some x →
    s.Stands (k.toNat + 1) d → d.header.parent = x

/-- The header that a block of the main chain names is that of the block below. -/
theorem Seamless.header_parent (h : s.Seamless length)
    (hheader : ∀ d, s.blocks[b.digest]? = some d → d.header = b.header)
    (hat : s.mainAt[k]? = some b.digest) (hk : k.toNat = n + 1) (hlt : k.toNat < length)
    (hd : s.Stands n d) : s.header b.header.parent = .ok d.header := by
  rcases hd with ⟨j, x, hj, hx, hd⟩
  rcases h.stands k.toNat hlt with ⟨e, i, y, hi, hy, he⟩
  obtain rfl : i = k := UInt64.toNat_inj.1 hi
  obtain rfl : y = b.digest := Option.some.inj (hy.symm.trans hat)
  -- It is the stored block that names the one below, and it has the same header.
  have hparent : e.header.parent = x :=
    h.linked j x e (by omega) hx ⟨i, _, by rw [hk, hj], hat, he⟩
  rw [← hheader e he, hparent]
  exact header_eq_ok_iff.2 ⟨d, hd, rfl⟩

/-- A main chain that fills the heights below a length, where every block names the one below it. -/
structure LinkedChain (s : Store) (length : Nat) : Prop extends Chain s length where
  linked : ∀ (k : UInt64) (x : Digest) (d : Block), s.mainAt[k]? = some x →
    s.Stands (k.toNat + 1) d → d.header.parent = x

theorem linkedChain_empty : empty.LinkedChain 0 where
  toChain := chain_empty
  linked k x d hx := by
    rw [mainAt_empty] at hx
    cases hx

/-- A block may go on top if it names the block that is the highest so far. -/
theorem LinkedChain.connect (h : s.LinkedChain length) (hheight : b.height.toNat = length)
    (hfresh : s.heights[b.digest]? = none)
    (hparent : ∀ (k : UInt64) (x : Digest), k.toNat + 1 = length → s.mainAt[k]? = some x →
      b.header.parent = x) : (s.connect b).LinkedChain (length + 1) where
  toChain := h.toChain.connect hheight hfresh
  linked k x d hx hd := by
    rcases hd with ⟨j, y, hj, hy, hd⟩
    rw [mainAt_connect] at hx hy
    rw [blocks_connect] at hd
    by_cases hat : b.height = j
    -- The block above is the new one, which names what was highest before it.
    · have hne : b.height ≠ k := fun heq => by rw [← hat, heq] at hj; omega
      rw [if_pos hat, Option.some.injEq] at hy
      rw [if_pos hy, Option.some.injEq] at hd
      rw [if_neg hne] at hx
      rw [← hd]
      exact hparent k x (by rw [← hj, ← hat, hheight]) hx
    · rw [if_neg hat] at hy
      -- The block above is an old one, so the new one is neither that nor the one below it.
      have hlt := (h.filled j).1 ⟨y, hy⟩
      have hne : b.height ≠ k := fun heq => by rw [heq] at hheight; omega
      have hold : b.digest ≠ y := by
        rintro rfl
        rw [(h.mirrored j _).1 hy] at hfresh
        cases hfresh
      rw [if_neg hne] at hx
      rw [if_neg hold] at hd
      exact h.linked k x d hx ⟨j, y, hj, hy, hd⟩

theorem Chain.exists_stands (h : s.Chain length) (hlt : n < length) : ∃ d, s.Stands n d := by
  have hn : (UInt64.ofNat n).toNat = n :=
    UInt64.toNat_ofNat_of_lt' (Nat.lt_of_lt_of_le hlt h.bounded)
  rcases (h.filled (.ofNat n)).2 (hn.symm ▸ hlt) with ⟨x, hx⟩
  rcases h.held _ x hx with ⟨d, hd⟩
  exact ⟨d, _, x, hn, hx, hd⟩

theorem LinkedChain.seamless (h : s.LinkedChain length) : s.Seamless length where
  stands _ hlt := h.exists_stands hlt
  linked k x d _ := h.linked k x d

/-- The sum does not overflow, since the chain has a block at the height above. -/
theorem headerAt_succ (hd : s.Stands (k.toNat + 1) d) : s.headerAt (k + 1) = .ok d.header := by
  rcases hd with ⟨j, x, hj, hx, hd⟩
  have hnext : k + 1 = j := by
    rw [← UInt64.toNat_inj, toNat_next (hj ▸ j.toNat_lt_size), hj]
  rw [hnext]
  exact headerAt_eq_ok_iff.2 ⟨x, d, hx, hd, rfl⟩

end Store

end ChainCheckpoints
