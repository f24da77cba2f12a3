import ChainCheckpoints.Guard.Event

/-!
# The Tracker

The tracker remembers the highest checkpoint that the main chain is known to run through, the
anchor, and the position of the next one. What has been locked in stays locked in: the anchor only
ever moves up, one checkpoint at a time.

A tracker starts cold. The first call scans the table from the top for the first checkpoint that the
main chain runs through, whatever the best height is. From then on it is warm, and a call compares
heights only: it opens the store when the next checkpoint is due, and then a checkpoint that cannot
be locked in is a contradiction, since the chain is past it.

A warm call that fails keeps the checkpoints that it locked in before the failure.

## Main definitions

* `Tracker`: the anchor and the position awaited.
* `Tracker.confirm`: the block of a checkpoint, if the main chain runs through it in its place.
* `Tracker.lockIn`: making the checkpoint at a position the anchor.
* `Tracker.scan`, `Tracker.advance`: the cold and the warm way to an answer.
* `Tracker.follow`: the anchor for a best height.
-/

namespace ChainCheckpoints

/-- A checkpoint that is locked in: its position in the table, and its block. -/
structure Anchor where
  index : Nat
  block : Block
deriving DecidableEq

structure Tracker where
  /-- The highest checkpoint locked in. -/
  anchor : Option Anchor
  /-- The position of the checkpoint that is awaited. -/
  next : Option Nat
deriving DecidableEq

namespace Tracker

/-- Nothing has been looked at yet. -/
def cold : Tracker where
  anchor := none
  next := none

/-- The chain has been looked at and is below the first checkpoint. -/
def waiting : Tracker where
  anchor := none
  next := some 0

/-- The checkpoint at a position is locked in, and the one after it, if any, is awaited. -/
def anchored (table : Table) (index : Nat) (block : Block) : Tracker where
  anchor := some { index, block }
  next := if index + 1 < table.size then some (index + 1) else none

def isCold (t : Tracker) : Bool :=
  t.anchor.isNone ∧ t.next.isNone

def block? (t : Tracker) : Option Block :=
  t.anchor.map Anchor.block

def height? (t : Tracker) : Option UInt64 :=
  t.block?.map Block.height

def index? (t : Tracker) : Option Nat :=
  t.anchor.map Anchor.index

/-- The checkpoint awaited. -/
def awaited? (t : Tracker) (table : Table) : Option Checkpoint :=
  t.next.bind table.get?

/-- The answer of a tracker that has nothing to do. -/
def settled (t : Tracker) : Outcome Tracker (Option Block) where
  answer := .ok t.block?
  state := t

/-- A call that ends in a fault and leaves the tracker as it is. -/
def failed (t : Tracker) (fault : Fault) (events : List Event) : Outcome Tracker (Option Block) where
  answer := .error fault
  state := t
  events := events

/-- The block of a checkpoint, if the main chain runs through it at the checkpoint's height. -/
def confirm (view : Snapshot) (c : Checkpoint) : Except Inconsistency Block :=
  match view.isMain c.digest with
  | .error e => .error (.unread e)
  | .ok false => .error (.offMainChain c)
  | .ok true =>
    match view.block c.digest with
    | .error e => .error (.missing (.checkpointBlock c.digest) e)
    | .ok b => if b.height = c.height then .ok b else .error (.misplaced c b.height)

/-- What the log says of a checkpoint that cannot be locked in. A failing store speaks for itself. -/
def alarms (c : Checkpoint) : Inconsistency → List Event
  | .unread _ => []
  | .missing _ cause => [.blockMissing c cause]
  | .offMainChain _ => [.passedBy c]
  | .misplaced _ height => [.misplaced c height]

/-- Makes the checkpoint at a position the anchor. -/
def lockIn (table : Table) (view : Snapshot) (index : Nat) : Except Fault Tracker × List Event :=
  match table.get? index with
  | none => (.error (.invalidTable (.noEntry index)), [])
  | some c =>
    match confirm view c with
    | .ok b => (.ok (anchored table index b), [.lockedIn c])
    | .error cause => (.error (.inconsistentStore cause), alarms c cause)

/-- Looks for the highest of the first `count` checkpoints that the main chain runs through, and
    locks it in. If there is none, the tracker waits for the first. -/
def scan (table : Table) (view : Snapshot) (t : Tracker) :
    (count : Nat) → Outcome Tracker (Option Block)
  | 0 => waiting.settled
  | index + 1 =>
    match table.get? index with
    | none => scan table view t index
    | some c =>
      match view.isMain c.digest with
      | .error e => t.failed (.unread e) []
      | .ok false => (scan table view t index).after [.notReached c]
      | .ok true =>
        -- The highest match decides. If it cannot be locked in, no lower one takes its place.
        match lockIn table view index with
        | (.ok locked, events) => locked.settled.after events
        | (.error fault, events) => t.failed fault events

/-- Locks in the pending checkpoints, the first of which stands at position `index`, as long as the
    best height has reached them. -/
def advance (table : Table) (view : Snapshot) (best : UInt64) :
    (pending : List Checkpoint) → (index : Nat) → Tracker → Outcome Tracker (Option Block)
  | [], _, t => t.settled
  | c :: pending, index, t =>
    if c.height ≤ best then
      match lockIn table view index with
      | (.ok locked, events) => (advance table view best pending (index + 1) locked).after events
      -- What was locked in on the way here stays.
      | (.error fault, events) => t.failed fault events
    else t.settled

/-- The checkpoints from the awaited one on, with the position of the first. -/
def pending (t : Tracker) (table : Table) : List Checkpoint × Nat :=
  match t.next with
  | none => ([], 0)
  | some index => (table.entries.drop index, index)

/-- The anchor for a best height, or none while the chain is below the first checkpoint. The store is
    opened only if there is something to find out. -/
def follow (t : Tracker) (table : Table) (source : Except ReadError Snapshot) (best : UInt64) :
    Outcome Tracker (Option Block) :=
  if table.isEmpty then { answer := .ok none, state := t }
  else if t.isCold then
    match source with
    | .error e => t.failed (.unread e) []
    | .ok view => scan table view t table.size
  else if (t.awaited? table).any (·.height ≤ best) then
    match source with
    | .error e => t.failed (.unread e) []
    | .ok view =>
      let (pending, index) := t.pending table
      advance table view best pending index t
  else t.settled

end Tracker

end ChainCheckpoints
