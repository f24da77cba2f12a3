import ChainCheckpoints.Checkpoint.Table
import ChainCheckpoints.Script.Template
import ChainCheckpoints.Store.Basic

/-!
# Blueprints of Chains

Chains made to order, for trials and for tooling. A blueprint fixes everything about a chain but its
length, so the same blueprint always gives the same blocks, and a longer chain starts with the
blocks of a shorter one.

Without further orders, blocks are ten minutes apart and hold a coinbase alone. The nonce of a block
is its height mixed with the salt of the blueprint, so no two blocks of a chain have the same header
and blueprints with different salts have no block in common.

## Main definitions

* `Blueprint`: the salt, and what is ordered for single heights.
* `Blueprint.build`: the blocks up to a height.
* `Transaction.coinbase`: the transaction of a block without orders.
* `Block.Amendment`, `Block.amend`: a block with some fields replaced.
* `Store.ofChain`: a store whose main chain is the given one.
* `Table.pinning?`: the table that pins a chain at given heights.
-/

namespace ChainCheckpoints

/-- The transaction that creates the coins of the block at `height`. Its script holds the height, so
    that no two blocks share it. -/
def Transaction.coinbase (height : UInt64) : Transaction where
  version := 1
  inputs := [{ source := .null, script := Bytes.ofWord64 height, sequence := 0xffffffff }]
  outputs := [{
    value := 5000000000
    script := Script.payToPubKeyHash (List.replicate 20 (UInt8.ofNat (height.toNat % 251))) }]

/-- A script that follows no template. -/
def Script.unknown : Bytes :=
  [0xff, 0xfe, 0xfd]

/-- What is fixed about a chain before it is built. Where a height is ordered more than once, the
    last order counts. -/
structure Blueprint where
  salt : UInt64 := 0
  timestamps : List (UInt64 × UInt64) := []
  transactions : List (UInt64 × List Transaction) := []

namespace Blueprint

/-- The timestamp of the first block. -/
def startTime : UInt64 := 1600000000

/-- The seconds between blocks. -/
def spacing : UInt64 := 600

/-- The last order for a height. -/
def ordered? {α : Type} (orders : List (UInt64 × α)) (height : UInt64) : Option α :=
  orders.reverse.lookup height

def timestampAt (p : Blueprint) (height : UInt64) : UInt64 :=
  (ordered? p.timestamps height).getD (startTime + height * spacing)

def transactionsAt (p : Blueprint) (height : UInt64) : List Transaction :=
  (ordered? p.transactions height).getD [.coinbase height]

/-- The height mixed with the salt, whose halves change places so that small salts and small heights
    do not meet. -/
def nonceAt (p : Blueprint) (height : UInt64) : UInt64 :=
  height ^^^ ((p.salt <<< 32) ||| (p.salt >>> 32))

/-- The block at a height on top of `parent`. -/
def blockAt (p : Blueprint) (parent : Digest) (height : UInt64) : Block :=
  let transactions := p.transactionsAt height
  { header := {
      version := 1
      parent
      merkleRoot := Merkle.root (transactions.map Transaction.id)
      timestamp := p.timestampAt height
      bits := 0x207fffff
      nonce := p.nonceAt height }
    transactions
    height }

/-- The next `count` blocks on top of `parent`, the first of them at `height`. -/
def extend (p : Blueprint) (parent : Digest) (height : Nat) : (count : Nat) → List Block
  | 0 => []
  | count + 1 =>
    let b := p.blockAt parent (UInt64.ofNat height)
    b :: extend p b.digest (height + 1) count

/-- The blocks from height zero up to `tip`. -/
def build (p : Blueprint) (tip : Nat) : List Block :=
  p.extend .zero 0 (tip + 1)

end Blueprint

/-- Fields to replace in a block. Nothing else is brought in line with them. -/
structure Block.Amendment where
  height : Option UInt64 := none
  timestamp : Option UInt64 := none
  nonce : Option UInt64 := none
  parent : Option Digest := none
  transactions : Option (List Transaction) := none

/-- The block with some fields replaced. -/
def Block.amend (b : Block) (a : Block.Amendment) : Block where
  header := { b.header with
    timestamp := a.timestamp.getD b.header.timestamp
    nonce := a.nonce.getD b.header.nonce
    parent := a.parent.getD b.header.parent }
  transactions := a.transactions.getD b.transactions
  height := a.height.getD b.height

/-- A store whose main chain is the given one. -/
def Store.ofChain (blocks : List Block) : Store :=
  blocks.foldl Store.connect .empty

/-- The table that pins the blocks at the given heights of a chain from height zero up. There is none
    if the chain does not reach a height or if the heights do not ascend. -/
def Table.pinning? (blocks : List Block) (heights : List UInt64) : Option Table := do
  let entries ← heights.mapM fun height => do
    let b ← blocks[height.toNat]?
    return { height, digest := b.digest }
  (Table.ofList? entries).toOption

end ChainCheckpoints
