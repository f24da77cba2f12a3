import ChainCheckpoints.Blueprint
import Mathlib.Data.List.Chain

/-!
# One Digest, One History

A checkpoint is a height and a digest, and yet it protects the whole chain below. A header can be
taken apart again from its layout, and one of its fields is the digest of the header below. So two
chains that meet in one digest agree all the way down, or somewhere on the way there are two layouts
that the hash does not tell apart. Nothing else is used of the hash.

The positions at which the two chains meet need not be the same, and the blocks may claim any heights
and carry any transactions: a digest says nothing about the former, and about the latter only what
the header says.

## Main definitions

* `Header.Collides`: headers with different layouts and the same digest.
* `Block.Linked`: a list of blocks in which each names the one before it.

## Theorems

* `Header.encode_inj`: headers are told apart by their layouts.
* `Header.eq_or_collides`: two headers with the same digest are the same or collide.
* `Blueprint.linked_build`: a chain made to order is linked.
* `Block.Linked.digest_eq_or_collides`: the digests below a common one.
* `Block.Linked.header_eq_or_collides`: the headers below a common digest.
-/

namespace ChainCheckpoints

namespace Header

variable {h h' : Header}

/-- Every field has a fixed width, so a layout falls apart into its fields from the right. -/
theorem encode_inj (heq : h.encode = h'.encode) : h = h' := by
  -- The widths are equal by computation, but for a digest, which carries its width along.
  rcases List.append_inj' heq rfl with ⟨heq, hnonce⟩
  rcases List.append_inj' heq rfl with ⟨heq, hbits⟩
  rcases List.append_inj' heq rfl with ⟨heq, htimestamp⟩
  rcases List.append_inj' heq (by rw [Digest.length_bytes, Digest.length_bytes]) with ⟨heq, hroot⟩
  rcases List.append_inj heq rfl with ⟨hversion, hparent⟩
  rcases h with ⟨version, parent, root, timestamp, bits, nonce⟩
  rcases h' with ⟨version', parent', root', timestamp', bits', nonce'⟩
  rw [Header.mk.injEq]
  exact ⟨Bytes.ofWord32_inj hversion, Digest.ext hparent, Digest.ext hroot,
    Bytes.ofWord64_inj htimestamp, Bytes.ofWord32_inj hbits, Bytes.ofWord64_inj hnonce⟩

/-- The layouts of two headers break the hash: they are different, each has 88 bytes, and both have
    the same digest. -/
structure Collides (h h' : Header) : Prop where
  ne : h.encode ≠ h'.encode
  length_left : h.encode.length = 88
  length_right : h'.encode.length = 88
  digest : Digest.ofBytes h.encode = Digest.ofBytes h'.encode

theorem eq_or_collides (hdigest : h.digest = h'.digest) : h = h' ∨ h.Collides h' := by
  by_cases heq : h.encode = h'.encode
  · exact .inl (encode_inj heq)
  · exact .inr ⟨heq, length_encode h, length_encode h', hdigest⟩

end Header

/-- Each block names the one before it. The first may name anything. -/
def Block.Linked (blocks : List Block) : Prop :=
  blocks.IsChain fun below b => b.header.parent = below.digest

namespace Blueprint

theorem linked_extend (p : Blueprint) (parent : Digest) (height count : Nat) :
    Block.Linked (p.extend parent height count) := by
  induction count generalizing parent height with
  | zero => exact .nil
  | succ count ih =>
    rcases count with _ | count
    · exact .singleton _
    · exact .cons_cons rfl (ih _ (height + 1))

theorem linked_build (p : Blueprint) (tip : Nat) : Block.Linked (p.build tip) :=
  p.linked_extend .zero 0 (tip + 1)

end Blueprint

namespace Block

variable {blocks others : List Block} {i j k : Nat}

theorem Linked.parent (h : Linked blocks) (hi : i < blocks.length) (hk : k + 1 ≤ i) :
    blocks[i - k].header.parent = blocks[i - (k + 1)].digest := by
  have hstep : i - k = i - (k + 1) + 1 := by omega
  simp only [hstep]
  exact List.isChain_iff_getElem.1 h _ _

/-- Below a common digest the digests agree, as far as no two headers above them collide. -/
theorem Linked.digest_eq_or_collides (hblocks : Linked blocks) (hothers : Linked others)
    (hi : i < blocks.length) (hj : j < others.length) (hdigest : blocks[i].digest = others[j].digest)
    (hk : k ≤ min i j) :
    blocks[i - k].digest = others[j - k].digest ∨
      ∃ m < k, blocks[i - m].header.Collides others[j - m].header := by
  induction k with
  | zero => exact .inl hdigest
  | succ k ih =>
    rcases ih (Nat.le_of_succ_le hk) with hsame | ⟨m, hm, hcollides⟩
    · rcases Header.eq_or_collides hsame with hheader | hcollides
      -- The headers are the same, and so are the digests that they name.
      · left
        rw [← hblocks.parent hi (by omega), ← hothers.parent hj (by omega), hheader]
      · exact .inr ⟨k, Nat.lt_succ_self k, hcollides⟩
    · exact .inr ⟨m, Nat.lt_succ_of_lt hm, hcollides⟩

/-- Below a common digest two linked lists hold the same headers, or the hash is broken by two of the
    headers in between. -/
theorem Linked.header_eq_or_collides (hblocks : Linked blocks) (hothers : Linked others)
    (hi : i < blocks.length) (hj : j < others.length) (hdigest : blocks[i].digest = others[j].digest)
    (hk : k ≤ min i j) :
    blocks[i - k].header = others[j - k].header ∨
      ∃ m ≤ k, blocks[i - m].header.Collides others[j - m].header := by
  rcases hblocks.digest_eq_or_collides hothers hi hj hdigest hk with hsame | ⟨m, hm, hcollides⟩
  · exact (Header.eq_or_collides hsame).imp_right fun hcollides => ⟨k, Nat.le_refl k, hcollides⟩
  · exact .inr ⟨m, Nat.le_of_lt hm, hcollides⟩

/-- A chain, and the same chain without its first block, its heights and its transactions. They meet
    at different positions. -/
theorem Linked.header_eq_or_collides_of_tail :
    let others := Blueprint.build {} 2
    let blocks := others.tail.map fun b => ({ header := b.header } : Block)
    Linked blocks ∧ Linked others ∧ 1 ≤ min 1 2 ∧
      ∃ (hi : 1 < blocks.length) (hj : 2 < others.length), blocks[1].digest = others[2].digest ∧
        (blocks[1 - 1].header = others[2 - 1].header ∨
          ∃ m ≤ 1, blocks[1 - m].header.Collides others[2 - m].header) := by
  intro others blocks
  have hothers : Linked others := Blueprint.linked_build {} 2
  have hblocks : Linked blocks := (List.isChain_map _).2 hothers.tail
  have hi : 1 < blocks.length := Nat.lt_succ_self 1
  have hj : 2 < others.length := Nat.lt_succ_self 2
  have hheader : blocks[1].header = others[2].header := by
    rw [List.getElem_map, List.getElem_tail]
  have hdigest : blocks[1].digest = others[2].digest := congrArg Header.digest hheader
  have hk : 1 ≤ min 1 2 := by decide
  exact ⟨hblocks, hothers, hk, hi, hj, hdigest,
    hblocks.header_eq_or_collides hothers hi hj hdigest hk⟩

end Block

end ChainCheckpoints
