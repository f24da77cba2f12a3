import ChainCheckpoints.Chain.Block
import ChainCheckpoints.Digest.Hex

/-!
# Snapshots

What a reader sees of a block store: five questions, each of which may fail. All answers of one
snapshot come from one state of the store, whatever is written meanwhile.

A snapshot is nothing but its answers, so any way of answering is a snapshot, be it sound or not.
`Outages` makes use of that: it takes a snapshot and lets chosen questions fail before the store is
asked.

A miss is told from a failure. A block that is absent or off the main chain is something to be
expected; a failing backend is not.

## Main definitions

* `ReadError`: why a question has no answer.
* `Snapshot`: the five questions.
* `Outages`: errors injected by question.
-/

namespace ChainCheckpoints

/-- What a reader was looking for. -/
inductive Subject
  | block (id : Digest)
  | checkpointBlock (id : Digest)
  | previousHeader (id : Digest)
  | headerAt (height : UInt64)
  /-- Something described in words. -/
  | described (words : String)
deriving DecidableEq

namespace Subject

def text : Subject → String
  | .block id => s!"block {id.toHex}"
  | .checkpointBlock id => s!"checkpoint block {id.toHex}"
  | .previousHeader id => s!"previous header {id.toHex}"
  | .headerAt height => s!"header at height {height}"
  | .described words => words

end Subject

/-- Why a question to the store has no answer. -/
inductive ReadError
  /-- The store does not hold it. -/
  | notFound (what : Subject)
  /-- The store holds the block, but the main chain does not run through it. -/
  | offMainChain (id : Digest)
  /-- The store itself failed. -/
  | backend (reason : String)
deriving DecidableEq

namespace ReadError

/-- The error of a store that cannot be read at all. -/
def unavailable : ReadError :=
  .backend "store unavailable"

/-- The item is absent or off the main chain, and the store is sound. -/
def isMiss : ReadError → Bool
  | .notFound _ | .offMainChain _ => true
  | .backend _ => false

def message : ReadError → String
  | .notFound what => s!"Not found: {what.text}"
  | .offMainChain id => s!"Block {id.toHex} is not in the main chain"
  | .backend reason => s!"Store backend error: {reason}"

end ReadError

/-- The answers of a block store in one state. -/
structure Snapshot where
  /-- Whether the main chain runs through the block. -/
  isMain : Digest → Except ReadError Bool
  /-- The height of the block in the main chain. -/
  heightOf : Digest → Except ReadError UInt64
  block : Digest → Except ReadError Block
  header : Digest → Except ReadError Header
  /-- The header at a height of the main chain. -/
  headerAt : UInt64 → Except ReadError Header

/-- The questions, by name. -/
inductive Query
  | isMain
  | heightOf
  | block
  | header
  | headerAt
deriving DecidableEq

/-- The error that each question fails with, if it is to fail. -/
abbrev Outages := Query → Option ReadError

namespace Outages

/-- No question fails. -/
def none : Outages := fun _ => Option.none

/-- From now on the question fails with the given error, or no more if there is none. -/
def set (o : Outages) (query : Query) (error : Option ReadError) : Outages :=
  fun q => if q = query then error else o q

/-- An answer, unless its question is to fail. -/
def guard {α : Type} (o : Outages) (query : Query) (answer : Except ReadError α) :
    Except ReadError α :=
  match o query with
  | some error => .error error
  | Option.none => answer

end Outages

namespace Snapshot

/-- The same answers, but for the questions that are to fail. -/
def under (s : Snapshot) (o : Outages) : Snapshot where
  isMain id := o.guard .isMain (s.isMain id)
  heightOf id := o.guard .heightOf (s.heightOf id)
  block id := o.guard .block (s.block id)
  header id := o.guard .header (s.header id)
  headerAt height := o.guard .headerAt (s.headerAt height)

end Snapshot

end ChainCheckpoints
