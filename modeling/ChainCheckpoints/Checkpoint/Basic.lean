import ChainCheckpoints.Digest.Hex

/-!
# Checkpoints

A checkpoint pins a block: whoever trusts it takes the block with this digest to stand at this
height for good.

## Main definitions

* `Checkpoint`: a height and the digest pinned at it.
* `Checkpoint.text`: how it is shown.
-/

namespace ChainCheckpoints

/-- The block at `height` has this digest for good. -/
structure Checkpoint where
  height : UInt64
  digest : Digest
deriving DecidableEq, Inhabited

namespace Checkpoint

/-- The height and the digest, with a stroke between them. -/
def text (c : Checkpoint) : String :=
  s!"{c.height}/{c.digest.toHex}"

end Checkpoint

end ChainCheckpoints
