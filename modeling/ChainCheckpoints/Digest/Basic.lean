import ChainCheckpoints.Digest.Sha256
import Std.Data.TreeMap

/-!
# Digests

The 32 bytes that stand for a block, a transaction or a whole list of transactions. A digest is made
by hashing twice. Nothing else is ever asked of the hash than that it is a function: statements about
identity are made up to two layouts with the same digest.

Digests are ordered byte by byte, so that they can serve as keys.

## Main definitions

* `Digest`: 32 bytes.
* `Digest.zero`: the digest that stands for nothing, such as the parent of the first block.
* `Digest.ofBytes`: the digest of a layout.
-/

namespace ChainCheckpoints

/-- The 32 bytes that stand for something hashed. -/
@[ext] structure Digest where
  bytes : Bytes
  length_bytes : bytes.length = 32
deriving DecidableEq

namespace Digest

/-- The digest that stands for nothing. -/
def zero : Digest :=
  ⟨List.replicate 32 0, List.length_replicate⟩

instance : Inhabited Digest := ⟨zero⟩

/-- The digest of a layout: hashed twice. -/
def ofBytes (layout : Bytes) : Digest :=
  ⟨Sha256.hash (Sha256.hash layout), Sha256.length_hash _⟩

/-- Byte by byte, the first difference decides. -/
instance : Ord Digest := ⟨fun d e => compare d.bytes e.bytes⟩

instance : Std.TransOrd Digest where
  eq_swap {d e} := Std.OrientedOrd.eq_swap (a := d.bytes) (b := e.bytes)
  isLE_trans {d e f} := Std.TransOrd.isLE_trans (a := d.bytes) (b := e.bytes) (c := f.bytes)

instance : Std.LawfulEqOrd Digest where
  compare_self {d} := Std.ReflOrd.compare_self (a := d.bytes)
  eq_of_compare h := Digest.ext (Std.LawfulEqOrd.eq_of_compare h)

end Digest

end ChainCheckpoints
