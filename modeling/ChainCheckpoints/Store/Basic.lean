import ChainCheckpoints.Store.Snapshot

/-!
# The Block Store

A store of blocks in memory, with an index of the main chain in both directions: from heights to
digests and from digests to heights. Blocks are kept by their digest, whether the main chain runs
through them or not.

The store trusts its writer. It puts a block into the main chain at the height that the block
claims, without looking at the parent, and a block that stood there before becomes a side block. A
block may even be connected at two heights; the index by digest then knows the later one only.

A cut splits the main chain off at the height right above it. That height is a sum of words, so for
the highest height of all it is zero, and such a cut takes the whole main chain away.

A store is a value, so a snapshot of it is not touched by later writes.

## Main definitions

* `Store`: the blocks and the two indexes.
* `Store.connect`, `Store.addSide`, `Store.cutAbove`, `Store.drop`: the writes.
* `Store.Write`, `Store.write`: the writes as data, for histories of a store.
* `Store.tip?`: the highest entry of the main chain.
* `Store.snapshot`: the answers of the store as it is.
* `Store.source`: a snapshot, unless the store cannot be read.
-/

namespace ChainCheckpoints

/-- A block by its place in a chain. -/
structure Tip where
  height : UInt64 := 0
  digest : Digest := .zero
deriving DecidableEq, Inhabited

/-- Blocks, and the main chain through them. -/
structure Store where
  /-- Every block, by digest. -/
  blocks : Std.TreeMap Digest Block := ∅
  /-- The main chain, by height. -/
  mainAt : Std.TreeMap UInt64 Digest := ∅
  /-- The heights of the main chain, by digest. -/
  heights : Std.TreeMap Digest UInt64 := ∅
  /-- Whether snapshots can be taken. -/
  readable : Bool := true

namespace Store

/-- A store without blocks. -/
def empty : Store := {}

instance : Inhabited Store := ⟨empty⟩

/-- The index by digest once the height has been taken by the block `id`: a different block that
    stood there is forgotten. -/
def vacate (s : Store) (height : UInt64) (id : Digest) : Std.TreeMap Digest UInt64 :=
  match s.mainAt[height]? with
  | some previous => if previous = id then s.heights else s.heights.erase previous
  | none => s.heights

/-- Keeps a block and lets the main chain run through it at the height it claims. -/
def connect (s : Store) (b : Block) : Store :=
  { s with
    blocks := s.blocks.insert b.digest b
    mainAt := s.mainAt.insert b.height b.digest
    heights := (s.vacate b.height b.digest).insert b.digest b.height }

/-- Keeps a block and leaves the main chain as it is. -/
def addSide (s : Store) (b : Block) : Store :=
  { s with blocks := s.blocks.insert b.digest b }

/-- The entries of the main chain that are split off above a height, lowest first. -/
def above (s : Store) (height : UInt64) : List (UInt64 × Digest) :=
  s.mainAt.toList.filter (height + 1 ≤ ·.1)

/-- Cuts the main chain off above a height. The blocks are kept. -/
def cutAbove (s : Store) (height : UInt64) : Store :=
  { s with
    mainAt := s.mainAt.filter fun h _ => h < height + 1
    heights := (s.above height).foldl (fun heights entry => heights.erase entry.2) s.heights }

/-- Loses a block, but not its place in the main chain. -/
def drop (s : Store) (id : Digest) : Store :=
  { s with blocks := s.blocks.erase id }

/-- Allows or refuses snapshots from now on. -/
def setReadable (s : Store) (readable : Bool) : Store :=
  { s with readable }

/-- The writes, as data. -/
inductive Write
  | connect (b : Block)
  | addSide (b : Block)
  | cutAbove (height : UInt64)
  | drop (id : Digest)
  | setReadable (readable : Bool)

/-- The store after a write. -/
def write (s : Store) : Write → Store
  | .connect b => s.connect b
  | .addSide b => s.addSide b
  | .cutAbove height => s.cutAbove height
  | .drop id => s.drop id
  | .setReadable readable => s.setReadable readable

/-- The highest entry of the main chain. -/
def tip? (s : Store) : Option Tip :=
  s.mainAt.maxKey?.bind fun height => s.mainAt[height]?.map fun digest => { height, digest }

/-- The block as it was stored. -/
def stored (s : Store) (id : Digest) : Except ReadError Block :=
  match s.blocks[id]? with
  | some b => .ok b
  | none => .error (.notFound (.block id))

/-- The height of a block in the main chain. A block that is stored off the main chain is told from
    one that is not stored at all. -/
def heightOf (s : Store) (id : Digest) : Except ReadError UInt64 :=
  match s.heights[id]? with
  | some height => .ok height
  | none =>
    if s.blocks.contains id then .error (.offMainChain id) else .error (.notFound (.block id))

/-- A block, with the height that the main chain gives it instead of the one it claims. -/
def block (s : Store) (id : Digest) : Except ReadError Block :=
  (s.stored id).map fun b => { b with height := (s.heights[id]?).getD b.height }

def header (s : Store) (id : Digest) : Except ReadError Header :=
  (s.stored id).map Block.header

def headerAt (s : Store) (height : UInt64) : Except ReadError Header :=
  match s.mainAt[height]? with
  | some id => s.header id
  | none => .error (.notFound (.headerAt height))

/-- The answers of the store as it is. -/
def snapshot (s : Store) : Snapshot where
  isMain id := .ok (s.heights.contains id)
  heightOf := s.heightOf
  block := s.block
  header := s.header
  headerAt := s.headerAt

/-- A snapshot, unless the store cannot be read. -/
def source (s : Store) : Except ReadError Snapshot :=
  if s.readable then .ok s.snapshot else .error .unavailable

end Store

end ChainCheckpoints
