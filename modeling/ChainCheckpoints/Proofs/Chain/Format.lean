import ChainCheckpoints.Chain.Format
import ChainCheckpoints.Guard.Config
import ChainCheckpoints.Proofs.Json.Record

/-!
# Chain Data Survives Its JSON Form

Each kind of chain data is read back from what is written for it, field by field: a type follows from
the types of its fields. The readers take more texts than the writers produce. There are other orders
of the fields, other names among them, records as arrays and byte strings as text; but what has been
read from such a text is a value like any other, so it is read back as well.

## Main definitions

* `Entity`: the kinds of data that have a JSON form.
* `Entity.Value`, `Entity.toText`, `Entity.ofText?`: the data of a kind, its text, and reading it.

## Theorems

* `Outpoint.roundTrips` and so on: the types, one by one.
* `Entity.text_faithful`: what is written is read back, and what is read can be written and read again.
-/

namespace ChainCheckpoints

theorem Digest.roundTrips : Json.RoundTrips toJson Json.digest? where
  textual d := Json.roundTrips_bytes.textual d.bytes
  read d := by
    have hbytes : d.toJson.list? Json.byte? = some d.bytes := Json.roundTrips_byte.list.read d.bytes
    rw [Json.digest?, hbytes]
    exact dif_pos d.length_bytes

theorem Outpoint.roundTrips : Json.RoundTrips toJson ofJson? where
  textual o := by
    refine .record ?_
    simp only [List.forall_mem_cons]
    exact ⟨Digest.roundTrips.textual _, Json.roundTrips_word32.textual _, List.forall_mem_nil _⟩
  read o := by
    have hrecord : o.toJson.record? ["txid", "index"] = some [o.txid.toJson, .ofWord32 o.index] :=
      Json.record?_record rfl (by decide)
    rw [ofJson?, hrecord]
    simp only [Option.bind_eq_bind, Option.bind_some, Digest.roundTrips.read,
      Json.roundTrips_word32.read, Option.pure_def]

theorem Input.roundTrips : Json.RoundTrips toJson ofJson? where
  textual i := by
    refine .record ?_
    simp only [List.forall_mem_cons]
    exact ⟨Outpoint.roundTrips.textual _, Json.roundTrips_bytes.textual _,
      Json.roundTrips_word32.textual _, List.forall_mem_nil _⟩
  read i := by
    have hrecord : i.toJson.record? ["previous_output", "signature_script", "sequence"] =
        some [i.source.toJson, .ofBytes i.script, .ofWord32 i.sequence] :=
      Json.record?_record rfl (by decide)
    rw [ofJson?, hrecord]
    simp only [Option.bind_eq_bind, Option.bind_some, Outpoint.roundTrips.read,
      Json.roundTrips_bytes.read, Json.roundTrips_word32.read, Option.pure_def]

theorem Output.roundTrips : Json.RoundTrips toJson ofJson? where
  textual o := by
    refine .record ?_
    simp only [List.forall_mem_cons]
    exact ⟨Json.roundTrips_word64.textual _, Json.roundTrips_bytes.textual _, List.forall_mem_nil _⟩
  read o := by
    have hrecord : o.toJson.record? ["value", "pk_script"] =
        some [.ofWord64 o.value, .ofBytes o.script] :=
      Json.record?_record rfl (by decide)
    rw [ofJson?, hrecord]
    simp only [Option.bind_eq_bind, Option.bind_some, Json.roundTrips_word64.read,
      Json.roundTrips_bytes.read, Option.pure_def]

theorem Transaction.roundTrips : Json.RoundTrips toJson ofJson? where
  textual t := by
    refine .record ?_
    simp only [List.forall_mem_cons]
    exact ⟨Json.roundTrips_word32.textual _, Input.roundTrips.list.textual _,
      Output.roundTrips.list.textual _, Json.roundTrips_word32.textual _, List.forall_mem_nil _⟩
  read t := by
    have hrecord : t.toJson.record? ["version", "inputs", "outputs", "lock_time"] =
        some [.ofWord32 t.version, .array (t.inputs.map Input.toJson),
          .array (t.outputs.map Output.toJson), .ofWord32 t.lockTime] :=
      Json.record?_record rfl (by decide)
    rw [ofJson?, hrecord]
    simp only [Option.bind_eq_bind, Option.bind_some, Json.roundTrips_word32.read,
      Input.roundTrips.list.read, Output.roundTrips.list.read, Option.pure_def]

theorem Header.roundTrips : Json.RoundTrips toJson ofJson? where
  textual h := by
    refine .record ?_
    simp only [List.forall_mem_cons]
    exact ⟨Json.roundTrips_word32.textual _, Digest.roundTrips.textual _,
      Digest.roundTrips.textual _, Json.roundTrips_word64.textual _,
      Json.roundTrips_word32.textual _, Json.roundTrips_word64.textual _, List.forall_mem_nil _⟩
  read h := by
    have hrecord : h.toJson.record?
          ["version", "parent_hash", "merkle_root", "timestamp", "bits", "nonce"] =
        some [.ofWord32 h.version, h.parent.toJson, h.merkleRoot.toJson, .ofWord64 h.timestamp,
          .ofWord32 h.bits, .ofWord64 h.nonce] :=
      Json.record?_record rfl (by decide)
    rw [ofJson?, hrecord]
    simp only [Option.bind_eq_bind, Option.bind_some, Json.roundTrips_word32.read,
      Json.roundTrips_word64.read, Digest.roundTrips.read, Option.pure_def]

theorem Block.roundTrips : Json.RoundTrips toJson ofJson? where
  textual b := by
    refine .record ?_
    simp only [List.forall_mem_cons]
    exact ⟨Header.roundTrips.textual _, Transaction.roundTrips.list.textual _,
      Json.roundTrips_word64.textual _, List.forall_mem_nil _⟩
  read b := by
    have hrecord : b.toJson.record? ["header", "transactions", "height"] =
        some [b.header.toJson, .array (b.transactions.map Transaction.toJson), .ofWord64 b.height] :=
      Json.record?_record rfl (by decide)
    rw [ofJson?, hrecord]
    simp only [Option.bind_eq_bind, Option.bind_some, Header.roundTrips.read,
      Transaction.roundTrips.list.read, Json.roundTrips_word64.read, Option.pure_def]

theorem Checkpoint.roundTrips : Json.RoundTrips toJson ofJson? where
  textual c := by
    refine .record ?_
    simp only [List.forall_mem_cons]
    exact ⟨Json.roundTrips_word64.textual _, Digest.roundTrips.textual _, List.forall_mem_nil _⟩
  read c := by
    have hrecord : c.toJson.record? ["height", "hash"] =
        some [.ofWord64 c.height, c.digest.toJson] :=
      Json.record?_record rfl (by decide)
    rw [ofJson?, hrecord]
    simp only [Option.bind_eq_bind, Option.bind_some, Json.roundTrips_word64.read,
      Digest.roundTrips.read, Option.pure_def]

theorem Config.Entry.roundTrips : Json.RoundTrips toJson ofJson? where
  textual e := by
    refine .record ?_
    simp only [List.forall_mem_cons]
    exact ⟨Json.roundTrips_word64.textual _, Json.roundTrips_text.textual _, List.forall_mem_nil _⟩
  read e := by
    have hrecord : e.toJson.record? ["height", "hash"] = some [.ofWord64 e.height, .text e.digest] :=
      Json.record?_record rfl (by decide)
    rw [ofJson?, hrecord]
    simp only [Option.bind_eq_bind, Option.bind_some, Json.roundTrips_word64.read,
      Json.roundTrips_text.read, Option.pure_def]

/-- The kinds of data that have a JSON form. -/
inductive Entity
  | block
  | header
  | transaction
  | input
  | output
  | outpoint
  | checkpoint
  /-- A checkpoint in a configuration, with its digest as text. -/
  | entry

namespace Entity

/-- The data of a kind. -/
def Value : Entity → Type
  | .block => Block
  | .header => Header
  | .transaction => Transaction
  | .input => Input
  | .output => Output
  | .outpoint => Outpoint
  | .checkpoint => Checkpoint
  | .entry => Config.Entry

def toJson : (e : Entity) → e.Value → Json
  | .block => Block.toJson
  | .header => Header.toJson
  | .transaction => Transaction.toJson
  | .input => Input.toJson
  | .output => Output.toJson
  | .outpoint => Outpoint.toJson
  | .checkpoint => Checkpoint.toJson
  | .entry => Config.Entry.toJson

def ofJson? : (e : Entity) → Json → Option e.Value
  | .block => Block.ofJson?
  | .header => Header.ofJson?
  | .transaction => Transaction.ofJson?
  | .input => Input.ofJson?
  | .output => Output.ofJson?
  | .outpoint => Outpoint.ofJson?
  | .checkpoint => Checkpoint.ofJson?
  | .entry => Config.Entry.ofJson?

/-- The compact text of a value. -/
def toText (e : Entity) (x : e.Value) : String :=
  (e.toJson x).toText

/-- The value of a kind that a text stands for. -/
def ofText? (e : Entity) (text : String) : Option e.Value :=
  (Json.ofText? text).bind e.ofJson?

theorem roundTrips (e : Entity) : Json.RoundTrips e.toJson e.ofJson? := by
  cases e with
  | block => exact Block.roundTrips
  | header => exact Header.roundTrips
  | transaction => exact Transaction.roundTrips
  | input => exact Input.roundTrips
  | output => exact Output.roundTrips
  | outpoint => exact Outpoint.roundTrips
  | checkpoint => exact Checkpoint.roundTrips
  | entry => exact Config.Entry.roundTrips

/-- What is written is read back. So what was read from any text can be written and read again. -/
theorem text_faithful (e : Entity) :
    (∀ x, e.ofText? (e.toText x) = some x) ∧
      ∀ text x, e.ofText? text = some x → e.ofText? (e.toText x) = some x :=
  ⟨e.roundTrips.ofText?_toText, fun _ x _ => e.roundTrips.ofText?_toText x⟩

/-- A record read from an array, with blanks, and a script in it read from text with an escape. All of
    this is written in another way. -/
theorem text_faithful_of_other_form :
    ofText? .output "[7, \x22A\\u00e9\x22]" =
        some ({ value := 7, script := [0x41, 0xc3, 0xa9] } : Output) ∧
      ofText? .output (toText .output ({ value := 7, script := [0x41, 0xc3, 0xa9] } : Output)) =
        some ({ value := 7, script := [0x41, 0xc3, 0xa9] } : Output) := by
  have hread : (Json.ofText? "[7, \x22A\\u00e9\x22]").bind Output.ofJson? =
      some { value := 7, script := [0x41, 0xc3, 0xa9] } := by
    decide +kernel
  exact ⟨hread, (text_faithful .output).2 _ _ hread⟩

end Entity

end ChainCheckpoints
