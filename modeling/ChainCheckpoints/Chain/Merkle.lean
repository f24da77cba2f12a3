import ChainCheckpoints.Digest.Basic

/-!
# Merkle Roots

One digest for a list of digests. Each level joins the digests of the level below in pairs; a digest
without a partner is paired with itself. The list halves with every level, so the climb ends at a
single digest, the root.

Pairing a digest with itself means that a list and the same list with its last digest repeated can
share a root. The root commits to a list of known length.

## Main definitions

* `Merkle.join`: the digest of a pair.
* `Merkle.pairUp`: one level up.
* `Merkle.root`: the digest at the top.

## Theorems

* `Merkle.length_pairUp`: a level has half as many digests as the one below, rounded up.
-/

namespace ChainCheckpoints

namespace Merkle

/-- The digest of two digests laid side by side. -/
def join (left right : Digest) : Digest :=
  .ofBytes (left.bytes ++ right.bytes)

/-- One level up. -/
def pairUp : List Digest → List Digest
  | left :: right :: rest => join left right :: pairUp rest
  | [last] => [join last last]
  | [] => []

theorem length_pairUp : ∀ level : List Digest, (pairUp level).length = (level.length + 1) / 2
  | [] => rfl
  | [_] => by simp [pairUp]
  | _ :: _ :: rest => by
    simp only [pairUp, List.length_cons, length_pairUp rest]
    omega

/-- The digest at the top. An empty list has the digest of the empty layout. -/
def root : List Digest → Digest
  | [] => .ofBytes []
  | [top] => top
  | left :: right :: rest => root (pairUp (left :: right :: rest))
termination_by level => level.length
decreasing_by
  simp only [length_pairUp, List.length_cons]
  omega

end Merkle

end ChainCheckpoints
