import ChainCheckpoints.Checkpoint.Table
import ChainCheckpoints.Store.Snapshot

/-!
# Faults

Why a call has no answer. A block off the main chain and a chain that has not reached its first
checkpoint yet are answers, not faults; a fault ends the call.

A fault keeps its cause: which question failed, which checkpoint is in the wrong place, which two
heights are out of order. What is shown of it is a `Report`, where the cause has become words. The
two are kept apart so that code can go on looking at causes while every wording is in one place.

## Main definitions

* `Inconsistency`: how a store contradicts what is known of it.
* `Fault`: why a call has no answer.
* `Report`, `Report.message`: a fault in words.
-/

namespace ChainCheckpoints

/-- How a store contradicts what is known of it, or fails. -/
inductive Inconsistency
  /-- A question failed that has no reason to fail. -/
  | unread (cause : ReadError)
  /-- Something is missing that must be there. -/
  | missing (what : Subject) (cause : ReadError)
  /-- The chain is past a checkpoint that it does not run through. -/
  | offMainChain (checkpoint : Checkpoint)
  /-- The block of a checkpoint stands at another height. -/
  | misplaced (checkpoint : Checkpoint) (height : UInt64)
deriving DecidableEq

namespace Inconsistency

def message : Inconsistency → String
  | .unread cause => cause.message
  | .missing what cause => s!"{what.text} must exist: {cause.message}"
  | .offMainChain checkpoint => s!"checkpoint {checkpoint.text} is not in the main chain"
  | .misplaced checkpoint height => s!"checkpoint {checkpoint.text} stored at height {height}"

end Inconsistency

/-- What is wrong with a configuration. -/
inductive ConfigFault
  /-- A candidate needs at least its successor on top of it. -/
  | noConfirmations
  /-- The text is no configuration. -/
  | malformed
deriving DecidableEq

namespace ConfigFault

def message : ConfigFault → String
  | .noConfirmations => "confirmations must be at least 1"
  | .malformed => "the text is malformed"

end ConfigFault

/-- Why a call has no answer. -/
inductive Fault
  /-- The store failed, or contradicts what is known of it. -/
  | inconsistentStore (cause : Inconsistency)
  /-- The caller passed a block that claims another height than the main chain gives it. -/
  | heightMismatch (claimed indexed : UInt64)
  /-- Another history would branch off below the checkpoint that is locked in. -/
  | forkBelowCheckpoint (fork checkpoint : UInt64)
  | invalidTable (cause : TableFault)
  /-- The text of a configured checkpoint is no digest. -/
  | invalidDigest (text : String) (cause : HexError)
  | configuration (cause : ConfigFault)
deriving DecidableEq

/-- A fault as it is shown: its kind, and the cause in words. -/
inductive Report
  | inconsistentStore (reason : String)
  | heightMismatch (claimed indexed : UInt64)
  | forkBelowCheckpoint (fork checkpoint : UInt64)
  | invalidTable (reason : String)
  | invalidDigest (text reason : String)
  | configuration (reason : String)
deriving DecidableEq

namespace Report

def message : Report → String
  | .inconsistentStore reason => s!"Store inconsistency: {reason}"
  | .heightMismatch claimed indexed =>
    s!"Passed block height of {claimed} does not match the main chain height of {indexed}"
  | .forkBelowCheckpoint fork checkpoint =>
    s!"Fork at height {fork} is below the checkpoint at height {checkpoint}"
  | .invalidTable reason => s!"Invalid checkpoint set: {reason}"
  | .invalidDigest text reason =>
    let shown := Text.quoted '\x22' text
    s!"Invalid checkpoint hash {shown}: {reason}"
  | .configuration reason => s!"Configuration error: {reason}"

/-- The store is corrupted or a rule of the chain is broken: nothing more can be accepted. -/
def isFatal : Report → Bool
  | .inconsistentStore _ => true
  | _ => false

/-- The caller broke its side of the contract. -/
def blamesCaller : Report → Bool
  | .heightMismatch _ _ => true
  | _ => false

end Report

namespace Fault

def report : Fault → Report
  | .inconsistentStore cause => .inconsistentStore cause.message
  | .heightMismatch claimed indexed => .heightMismatch claimed indexed
  | .forkBelowCheckpoint fork checkpoint => .forkBelowCheckpoint fork checkpoint
  | .invalidTable cause => .invalidTable cause.message
  | .invalidDigest text cause => .invalidDigest text cause.message
  | .configuration cause => .configuration cause.message

/-- The fault of a question that has no reason to fail. -/
def unread (cause : ReadError) : Fault :=
  .inconsistentStore (.unread cause)

/-- The fault of something missing that must be there. -/
def missing (what : Subject) (cause : ReadError) : Fault :=
  .inconsistentStore (.missing what cause)

end Fault

end ChainCheckpoints
