import ChainCheckpoints.Digest.Basic

/-!
# Transactions

A transaction spends outputs of earlier ones and creates new ones. Its id is the digest of its byte
layout: every list and every script is preceded by its length, so the layout can be taken apart
again and the id commits to every field.

## Main definitions

* `Outpoint`, `Input`, `Output`, `Transaction`.
* `Transaction.encode`: the layout.
* `Transaction.id`: its digest.
* `Transaction.isCoinbase`: whether it creates coins instead of spending an output.
-/

namespace ChainCheckpoints

/-- The output of an earlier transaction: which transaction, and which of its outputs. -/
structure Outpoint where
  txid : Digest := .zero
  index : UInt32 := 0
deriving DecidableEq, Inhabited

namespace Outpoint

/-- The outpoint of no output, which the input of a coinbase names. -/
def null : Outpoint where
  txid := .zero
  index := 0xffffffff

def encode (o : Outpoint) : Bytes :=
  o.txid.bytes ++ Bytes.ofWord32 o.index

end Outpoint

/-- An output being spent, with the script that unlocks it. -/
structure Input where
  source : Outpoint := {}
  script : Bytes := []
  sequence : UInt32 := 0
deriving DecidableEq, Inhabited

/-- An amount, with the script that locks it. -/
structure Output where
  value : UInt64 := 0
  script : Bytes := []
deriving DecidableEq, Inhabited

structure Transaction where
  version : UInt32 := 0
  inputs : List Input := []
  outputs : List Output := []
  /-- The earliest height or time at which a block may include the transaction. -/
  lockTime : UInt32 := 0
deriving DecidableEq, Inhabited

def Input.encode (i : Input) : Bytes :=
  i.source.encode ++ Bytes.counted i.script ++ Bytes.ofWord32 i.sequence

def Output.encode (o : Output) : Bytes :=
  Bytes.ofWord64 o.value ++ Bytes.counted o.script

namespace Transaction

/-- The byte layout whose digest is the id. -/
def encode (t : Transaction) : Bytes :=
  Bytes.ofWord32 t.version
    ++ (Bytes.ofLength t.inputs.length ++ t.inputs.flatMap Input.encode)
    ++ (Bytes.ofLength t.outputs.length ++ t.outputs.flatMap Output.encode)
    ++ Bytes.ofWord32 t.lockTime

def id (t : Transaction) : Digest :=
  .ofBytes t.encode

/-- A coinbase has one input, and that names no output. -/
def isCoinbase (t : Transaction) : Bool :=
  match t.inputs with
  | [input] => input.source = .null
  | _ => false

end Transaction

end ChainCheckpoints
