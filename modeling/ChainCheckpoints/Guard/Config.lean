import ChainCheckpoints.Guard.Event
import ChainCheckpoints.Json.Reader
import ChainCheckpoints.Json.Record

/-!
# Configuration

What a network gives a guard to start from: its checkpoints, with the digests as text, and how deep a
candidate must lie. The digests are read when the table is built and not before, so a configuration
may hold text that is no digest.

## Main definitions

* `Config`, `Config.Entry`: the configuration and its checkpoints.
* `Config.toJson`, `Config.ofText?`: its JSON form.
* `Config.validate`: whether the depth makes sense.
* `Config.table?`: the table of the checkpoints.
-/

namespace ChainCheckpoints

/-- A checkpoint with its digest as text. -/
structure Config.Entry where
  height : UInt64
  digest : String
deriving DecidableEq

structure Config where
  /-- The checkpoints, lowest first. -/
  checkpoints : List Config.Entry := []
  /-- How many blocks must lie on top of a candidate: two weeks of them, unless said otherwise. -/
  confirmations : UInt64 := 2016
deriving DecidableEq

namespace Config

namespace Entry

def ofCheckpoint (c : Checkpoint) : Entry where
  height := c.height
  digest := c.digest.toHex

def toJson (e : Entry) : Json :=
  .record [("height", .ofWord64 e.height), ("hash", .text e.digest)]

def ofJson? (j : Json) : Option Entry := do
  let [height, digest] ← j.record? ["height", "hash"] | none
  return { height := ← height.word64?, digest := ← digest.text? }

/-- The checkpoint, if the text is a digest. -/
def checkpoint? (e : Entry) : Except Fault Checkpoint :=
  match Digest.ofHex? e.digest with
  | .ok digest => .ok { height := e.height, digest }
  | .error cause => .error (.invalidDigest e.digest cause)

end Entry

/-- A configuration for trials, where candidates need not lie deep. -/
def trial : Config where
  confirmations := 10

/-- A further checkpoint at the end. -/
def add (config : Config) (e : Entry) : Config :=
  { config with checkpoints := config.checkpoints ++ [e] }

def toJson (config : Config) : Json :=
  .record [
    ("checkpoints", .array (config.checkpoints.map Entry.toJson)),
    ("confirmations", .ofWord64 config.confirmations)]

/-- A field that takes the value of an empty configuration if it is missing. -/
def orDefault {α : Type} (default : α) (read? : Json → Option α) : Option Json → Option α
  | none => some default
  | some j => read? j

def ofJson? (j : Json) : Option Config := do
  let [checkpoints, confirmations] ← j.fields? ["checkpoints", "confirmations"] | none
  let empty : Config := {}
  return {
    checkpoints := ← orDefault empty.checkpoints (Json.list? Entry.ofJson?) checkpoints
    confirmations := ← orDefault empty.confirmations Json.word64? confirmations }

/-- A candidate needs at least its successor on top of it. -/
def validate (config : Config) : Except Fault Unit :=
  if config.confirmations = 0 then .error (.configuration .noConfirmations) else .ok ()

/-- Reads a configuration, which must make sense. -/
def ofText? (text : String) : Except Fault Config :=
  match (Json.ofText? text).bind ofJson? with
  | none => .error (.configuration .malformed)
  | some config => config.validate.map fun _ => config

/-- The table of the checkpoints. All digests are read before the order is looked at. -/
def table? (config : Config) : Except Fault Table := do
  -- So a text that is no digest is reported even if two heights before it are out of order.
  let entries ← config.checkpoints.mapM Entry.checkpoint?
  (Table.ofList? entries).mapError .invalidTable

end Config

end ChainCheckpoints
