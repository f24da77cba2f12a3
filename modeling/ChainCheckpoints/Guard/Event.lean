import ChainCheckpoints.Guard.Verdict

/-!
# Events

What a call did besides answering, in the order in which it happened. Calls give their events back
along with the answer, so that nothing is hidden in an output channel and a fault does not lose what
happened before it.

## Main definitions

* `Event`: something worth a line in the log.
* `Event.level`, `Event.text`, `Event.line`: that line.
* `Outcome`: the answer of a call, the state it leaves, and its events.
-/

namespace ChainCheckpoints

/-- How much an event matters. -/
inductive Level
  | debug
  | info
  | warn
  | error
deriving DecidableEq

namespace Level

def label : Level → String
  | .debug => "DEBUG"
  | .info => "INFO"
  | .warn => "WARN"
  | .error => "ERROR"

end Level

/-- Something worth a line in the log. -/
inductive Event
  /-- A guard was set up from a configuration. -/
  | loaded (checkpoints : Nat) (confirmations : UInt64)
  /-- The main chain does not run through the checkpoint so far. -/
  | notReached (checkpoint : Checkpoint)
  /-- The main chain is past the checkpoint without running through it. -/
  | passedBy (checkpoint : Checkpoint)
  | blockMissing (checkpoint : Checkpoint) (cause : ReadError)
  /-- The block of the checkpoint stands at another height. -/
  | misplaced (checkpoint : Checkpoint) (height : UInt64)
  | lockedIn (checkpoint : Checkpoint)
  | judged (block : Digest) (height : UInt64) (verdict : Verdict)
  | forkRejected (fork checkpoint : UInt64)
  /-- A block is the one that a checkpoint pins. -/
  | verified (checkpoint : Checkpoint)
  /-- A block stands where a checkpoint pins another one. -/
  | conflicting (block : Digest) (height : UInt64) (checkpoint : Checkpoint)
  | disconnected (blocks : Nat) (height : UInt64)
deriving DecidableEq

namespace Event

def level : Event → Level
  | .loaded _ _ | .lockedIn _ | .verified _ | .judged _ _ .candidate => .info
  | .notReached _ | .judged _ _ _ | .disconnected _ _ => .debug
  | .forkRejected _ _ | .conflicting _ _ _ => .warn
  | .passedBy _ | .blockMissing _ _ | .misplaced _ _ => .error

def text : Event → String
  | .loaded checkpoints confirmations =>
    s!"Loaded {checkpoints} checkpoints (confirmations: {confirmations})"
  | .notReached checkpoint => s!"Checkpoint {checkpoint.text} not in main chain yet"
  | .passedBy checkpoint =>
    s!"Chain passed checkpoint {checkpoint.text} but it is not in the main chain"
  | .blockMissing checkpoint cause =>
    s!"Checkpoint block {checkpoint.text} missing: {cause.message}"
  | .misplaced checkpoint height =>
    s!"Checkpoint block {checkpoint.text} stored at height {height}"
  | .lockedIn checkpoint => s!"🔒 Locked in checkpoint {checkpoint.text}"
  | .judged block height .candidate =>
    s!"Block {block.toHex} at height {height} is a checkpoint candidate"
  | .judged block height verdict =>
    s!"Block {block.toHex} at height {height} rejected as candidate: {verdict.text}"
  | .forkRejected fork checkpoint =>
    s!"⛔ Rejected fork at height {fork} below checkpoint at height {checkpoint}"
  | .verified checkpoint => s!"✅ Verified checkpoint {checkpoint.text}"
  | .conflicting block height checkpoint =>
    s!"Block {block.toHex} at height {height} conflicts with checkpoint {checkpoint.text}"
  | .disconnected blocks height => s!"Disconnected {blocks} blocks above {height}"

/-- The line in the log. -/
def line (e : Event) : String :=
  s!"{e.level.label} [qc-18] {e.text}"

end Event

/-- What a call gives back: its answer, the state it leaves, and what happened on the way. A call
    that ends in a fault may still have moved the state. -/
structure Outcome (σ α : Type) where
  answer : Except Fault α
  state : σ
  events : List Event := []

namespace Outcome

variable {σ τ α : Type}

/-- The same outcome after some earlier events. -/
def after (o : Outcome σ α) (events : List Event) : Outcome σ α :=
  { o with events := events ++ o.events }

/-- The same outcome, seen as part of a larger state. -/
def mapState (f : σ → τ) (o : Outcome σ α) : Outcome τ α where
  answer := o.answer
  state := f o.state
  events := o.events

end Outcome

end ChainCheckpoints
