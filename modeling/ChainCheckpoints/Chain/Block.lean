import ChainCheckpoints.Chain.Merkle
import ChainCheckpoints.Chain.Transaction

/-!
# Blocks

A block is a header with the transactions that the header commits to. The digest of the header names
the block. The height is not part of the header: it says where the holder of the block claims that
it stands, and a reader who cares has to check it against the main chain.

## Main definitions

* `Header`, `Block`.
* `Header.encode`: the 88-byte layout of a header.
* `Header.digest`, `Block.digest`: its digest.
* `Block.merkleRoot`: the root over the ids of the transactions.

## Theorems

* `Header.length_encode`: a layout has 88 bytes.
-/

namespace ChainCheckpoints

structure Header where
  version : UInt32 := 0
  /-- The digest of the block below. -/
  parent : Digest := .zero
  merkleRoot : Digest := .zero
  /-- Seconds since the epoch. -/
  timestamp : UInt64 := 0
  /-- The difficulty target in compact form. -/
  bits : UInt32 := 0
  nonce : UInt64 := 0
deriving DecidableEq, Inhabited

namespace Header

/-- The byte layout whose digest names the block. Every field has a fixed width. -/
def encode (h : Header) : Bytes :=
  Bytes.ofWord32 h.version ++ h.parent.bytes ++ h.merkleRoot.bytes ++ Bytes.ofWord64 h.timestamp
    ++ Bytes.ofWord32 h.bits ++ Bytes.ofWord64 h.nonce

theorem length_encode (h : Header) : h.encode.length = 88 := by
  simp [encode, Digest.length_bytes]

def digest (h : Header) : Digest :=
  .ofBytes h.encode

end Header

structure Block where
  header : Header := {}
  /-- The coinbase comes first. -/
  transactions : List Transaction := []
  /-- The height at which the holder claims that the block stands. -/
  height : UInt64 := 0
deriving DecidableEq, Inhabited

namespace Block

def digest (b : Block) : Digest :=
  b.header.digest

/-- The root that a sound header carries. -/
def merkleRoot (b : Block) : Digest :=
  Merkle.root (b.transactions.map Transaction.id)

end Block

end ChainCheckpoints
