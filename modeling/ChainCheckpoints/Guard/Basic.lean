import ChainCheckpoints.Guard.Config
import ChainCheckpoints.Guard.Tracker
import ChainCheckpoints.Store.Basic

/-!
# The Guard

A guard watches over a chain with a table of checkpoints. It answers where the chain is anchored,
refuses blocks that contradict a checkpoint and forks that branch off below the anchor, and looks for
blocks that would make good checkpoints.

Only the tracker changes in a guard. The store and the best tip belong to the node; a call is given
what it needs of them.

## Main definitions

* `Guard`: the table, the depth asked of candidates, and the tracker.
* `Guard.ofConfig?`: the guard of a configuration.
* `Guard.follow`: the highest checkpoint that the chain runs through.
* `Guard.verify`: whether a block may stand at a height.
* `Guard.admitFork`: whether another history may branch off at a height.
* `Guard.judge`, `Guard.candidates`: verdicts on blocks, and a survey of the chain.
-/

namespace ChainCheckpoints

structure Guard where
  table : Table
  /-- How many blocks must lie on top of a candidate. -/
  confirmations : UInt64
  tracker : Tracker := .cold

namespace Guard

/-- The guard of a configuration that makes sense. -/
def ofConfig? (config : Config) : Except Fault (Guard × List Event) := do
  config.validate
  let table ← config.table?
  let confirmations := config.confirmations
  return ({ table, confirmations }, [.loaded table.size confirmations])

/-- The highest checkpoint that the chain runs through, as its block, for a best height. -/
def follow (g : Guard) (source : Except ReadError Snapshot) (best : UInt64) :
    Outcome Guard (Option Block) :=
  (g.tracker.follow g.table source best).mapState fun tracker => { g with tracker }

/-- The anchor as it is known already. -/
def cachedAnchor (g : Guard) : Option Block :=
  g.tracker.block?

/-- Whether a block may stand at a height: at a pinned height only the pinned block may. -/
def verify (g : Guard) (height : UInt64) (block : Digest) : Bool × List Event :=
  match g.table.pinnedAt? height with
  | none => (true, [])
  | some c =>
    if c.digest = block then (true, [.verified c]) else (false, [.conflicting block height c])

/-- Whether a history may branch off whose last common block with the main chain is at `fork`. A
    fork right at the anchor keeps the anchor. -/
def admitFork (g : Guard) (source : Except ReadError Snapshot) (best fork : UInt64) :
    Outcome Guard Unit :=
  let followed := g.follow source best
  match followed.answer with
  | .error fault => { followed with answer := .error fault }
  | .ok none => { followed with answer := .ok () }
  | .ok (some anchor) =>
    if fork < anchor.height then
      { followed with
        answer := .error (.forkBelowCheckpoint fork anchor.height)
        events := followed.events ++ [.forkRejected fork anchor.height] }
    else { followed with answer := .ok () }

/-- The verdict on a block by a snapshot, and its line in the log. -/
def judgeIn (g : Guard) (view : Snapshot) (best : UInt64) (b : Block) :
    Except Fault Verdict × List Event :=
  match Verdict.judge Script.template g.confirmations view best b with
  | .ok verdict => (.ok verdict, [.judged b.digest b.height verdict])
  | .error fault => (.error fault, [])

/-- The verdict on a block. -/
def judge (g : Guard) (source : Except ReadError Snapshot) (best : UInt64) (b : Block) :
    Except Fault Verdict × List Event :=
  match source with
  | .ok view => g.judgeIn view best b
  | .error e => (.error (.unread e), [])

/-- The block of the main chain at a height, with its digest. -/
def blockAt (view : Snapshot) (height : UInt64) : Except Fault (Digest × Block) :=
  match view.headerAt height with
  | .error e => .error (.missing (.headerAt height) e)
  | .ok header =>
    match view.block header.digest with
    | .error e => .error (.missing (.block header.digest) e)
    | .ok b => .ok (header.digest, b)

/-- The highest candidates, at most `room` of them, among the `count` heights from `lowest` up. The
    walk goes down and stops at the first fault. -/
def survey (g : Guard) (view : Snapshot) (best : UInt64) (lowest : Nat) :
    (count room : Nat) → Except Fault (List Checkpoint) × List Event
  | 0, _ | _, 0 => (.ok [], [])
  | count + 1, room + 1 =>
    let height := UInt64.ofNat (lowest + count)
    match blockAt view height with
    | .error fault => (.error fault, [])
    | .ok (id, b) =>
      match g.judgeIn view best b with
      | (.error fault, events) => (.error fault, events)
      | (.ok verdict, events) =>
        if verdict.isCandidate then
          -- A fault further down loses the candidates found so far, but not their events.
          let (found, more) := survey g view best lowest count room
          (found.map ({ height, digest := id } :: ·), events ++ more)
        else
          let (found, more) := survey g view best lowest count (room + 1)
          (found, events ++ more)

/-- The lowest height to look at, right above the highest checkpoint of the table. It is a sum of
    words, so if that checkpoint is at the highest height of all, it is zero. -/
def lowestNew (g : Guard) : UInt64 :=
  match g.table.highest? with
  | none => 0
  | some c => c.height + 1

/-- How many heights there are from the lowest to look at up to the highest that is deep enough under
    the best tip. -/
def breadth (g : Guard) (best : UInt64) : Nat :=
  if g.confirmations ≤ best then (best - g.confirmations).toNat + 1 - g.lowestNew.toNat else 0

/-- Up to `max` blocks that would make good checkpoints, highest first, above the highest checkpoint
    of the table. The store is opened only if there is something to look for. -/
def candidates (g : Guard) (source : Except ReadError Snapshot) (best : UInt64) (max : Nat) :
    Except Fault (List Checkpoint) × List Event :=
  if g.breadth best = 0 ∨ max = 0 then (.ok [], [])
  else
    match source with
    | .error e => (.error (.unread e), [])
    | .ok view => g.survey view best g.lowestNew.toNat (g.breadth best) max

end Guard

end ChainCheckpoints
