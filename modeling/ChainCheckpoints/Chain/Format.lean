import ChainCheckpoints.Chain.Block
import ChainCheckpoints.Checkpoint.Basic
import ChainCheckpoints.Json.Record

/-!
# The JSON Form of Chain Data

Blocks, their parts and checkpoints as JSON. Digests are arrays of 32 bytes here, not hexadecimal
text. Writers come before readers, type by type, and a reader takes what its writer produces.

## Main definitions

* `Digest.toJson`, `Outpoint.toJson`, `Input.toJson`, `Output.toJson`, `Transaction.toJson`,
  `Header.toJson`, `Block.toJson`, `Checkpoint.toJson`: the writers.
* `Outpoint.ofJson?` and so on: the readers.
-/

namespace ChainCheckpoints

def Digest.toJson (d : Digest) : Json :=
  .ofBytes d.bytes

namespace Outpoint

def toJson (o : Outpoint) : Json :=
  .record [("txid", o.txid.toJson), ("index", .ofWord32 o.index)]

def ofJson? (j : Json) : Option Outpoint := do
  let [txid, index] ← j.record? ["txid", "index"] | none
  return { txid := ← txid.digest?, index := ← index.word32? }

end Outpoint

namespace Input

def toJson (i : Input) : Json :=
  .record [
    ("previous_output", i.source.toJson),
    ("signature_script", .ofBytes i.script),
    ("sequence", .ofWord32 i.sequence)]

def ofJson? (j : Json) : Option Input := do
  let [source, script, sequence] ←
    j.record? ["previous_output", "signature_script", "sequence"] | none
  return {
    source := ← Outpoint.ofJson? source
    script := ← script.bytes?
    sequence := ← sequence.word32? }

end Input

namespace Output

def toJson (o : Output) : Json :=
  .record [("value", .ofWord64 o.value), ("pk_script", .ofBytes o.script)]

def ofJson? (j : Json) : Option Output := do
  let [value, script] ← j.record? ["value", "pk_script"] | none
  return { value := ← value.word64?, script := ← script.bytes? }

end Output

namespace Transaction

def toJson (t : Transaction) : Json :=
  .record [
    ("version", .ofWord32 t.version),
    ("inputs", .array (t.inputs.map Input.toJson)),
    ("outputs", .array (t.outputs.map Output.toJson)),
    ("lock_time", .ofWord32 t.lockTime)]

def ofJson? (j : Json) : Option Transaction := do
  let [version, inputs, outputs, lockTime] ←
    j.record? ["version", "inputs", "outputs", "lock_time"] | none
  return {
    version := ← version.word32?
    inputs := ← inputs.list? Input.ofJson?
    outputs := ← outputs.list? Output.ofJson?
    lockTime := ← lockTime.word32? }

end Transaction

namespace Header

def toJson (h : Header) : Json :=
  .record [
    ("version", .ofWord32 h.version),
    ("parent_hash", h.parent.toJson),
    ("merkle_root", h.merkleRoot.toJson),
    ("timestamp", .ofWord64 h.timestamp),
    ("bits", .ofWord32 h.bits),
    ("nonce", .ofWord64 h.nonce)]

def ofJson? (j : Json) : Option Header := do
  let [version, parent, merkleRoot, timestamp, bits, nonce] ←
    j.record? ["version", "parent_hash", "merkle_root", "timestamp", "bits", "nonce"] | none
  return {
    version := ← version.word32?
    parent := ← parent.digest?
    merkleRoot := ← merkleRoot.digest?
    timestamp := ← timestamp.word64?
    bits := ← bits.word32?
    nonce := ← nonce.word64? }

end Header

namespace Block

def toJson (b : Block) : Json :=
  .record [
    ("header", b.header.toJson),
    ("transactions", .array (b.transactions.map Transaction.toJson)),
    ("height", .ofWord64 b.height)]

def ofJson? (j : Json) : Option Block := do
  let [header, transactions, height] ← j.record? ["header", "transactions", "height"] | none
  return {
    header := ← Header.ofJson? header
    transactions := ← transactions.list? Transaction.ofJson?
    height := ← height.word64? }

end Block

namespace Checkpoint

def toJson (c : Checkpoint) : Json :=
  .record [("height", .ofWord64 c.height), ("hash", c.digest.toJson)]

def ofJson? (j : Json) : Option Checkpoint := do
  let [height, digest] ← j.record? ["height", "hash"] | none
  return { height := ← height.word64?, digest := ← digest.digest? }

end Checkpoint

end ChainCheckpoints
