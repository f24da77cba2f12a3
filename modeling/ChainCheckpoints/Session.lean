import ChainCheckpoints.Guard.Basic

/-!
# Sessions

A node under trial: a store, the best tip that the node has moved to, and a guard over both. A
session takes commands one at a time and gives a reply and the events of each. A command that fails
does not end it.

Beside the guard's own tracker a session has a free one with a table of its own, so that the tracker
can be driven alone. Snapshots can be kept under a name and asked later. Outages strike whatever the
guard, the free tracker and unnamed look-ups ask, but not the snapshots that were kept.

## Main definitions

* `Session.Command`: what a session can be told.
* `Session.Reply`, `Session.Failure`: what it answers.
* `Session.step`, `Session.run`: one command, and commands in a row.
* `Session.ofConfig?`, `Session.ofTable`: sessions to begin with.
-/

namespace ChainCheckpoints

/-- A question to a snapshot. -/
inductive Question
  | isMain (id : Digest)
  | heightOf (id : Digest)
  | block (id : Digest)
  | header (id : Digest)
  | headerAt (height : UInt64)

/-- The answer to a question. -/
inductive Finding
  | flag (value : Bool)
  | height (value : UInt64)
  | block (value : Block)
  | header (value : Header)

/-- Puts a question. -/
def Snapshot.ask (s : Snapshot) : Question → Except ReadError Finding
  | .isMain id => (s.isMain id).map .flag
  | .heightOf id => (s.heightOf id).map .height
  | .block id => (s.block id).map .block
  | .header id => (s.header id).map .header
  | .headerAt height => (s.headerAt height).map .header

structure Session where
  store : Store := .empty
  /-- The best tip that the node has moved to, which need not be the store's. -/
  best : Tip := {}
  outages : Outages := .none
  guard : Guard
  /-- The guard as it was set up, with the events of that. -/
  origin : Guard × List Event
  /-- A tracker that no guard uses. -/
  tracker : Tracker := .cold
  /-- The table that the free tracker is given. -/
  table : Table
  /-- Snapshots by name, the latest first. -/
  kept : List (String × Snapshot) := []

namespace Session

/-- What a session can be told. -/
inductive Command
  /-- Connects blocks one after the other, and moves the best tip along if asked to. -/
  | extend (blocks : List Block) (moveTip : Bool)
  | write (w : Store.Write)
  | setOutage (query : Query) (error : Option ReadError)
  | setBest (tip : Tip)
  | tips
  /-- Keeps a snapshot under a name. -/
  | keep (name : String)
  /-- Asks the snapshot of that name, or a fresh one. -/
  | ask (question : Question) (name : Option String)
  /-- Sets the guard up again over the same store and best tip. -/
  | restart
  | showGuard
  /-- The anchor for a best height, or for the best tip. -/
  | follow (best : Option UInt64)
  | cachedAnchor
  | verify (height : UInt64) (block : Digest)
  /-- The verdict on a block for a best height, or for the best tip. -/
  | judge (b : Block) (best : Option UInt64)
  /-- Whether that verdict is favourable. -/
  | isCandidate (b : Block) (best : Option UInt64)
  | admitFork (fork : UInt64)
  | candidates (max : Nat)
  | followFree (best : UInt64)
  | setTable (config : Config)
  | showFree

/-- What a session answers. -/
inductive Reply
  | done
  | storeTip (tip : Option Tip)
  | tips (store : Option Tip) (best : Tip)
  | finding (value : Finding)
  | guard (value : Guard)
  | anchor (block : Option Block)
  | flag (value : Bool)
  | verdict (value : Verdict)
  | checkpoints (values : List Checkpoint)
  | tracker (value : Tracker) (awaited : Option Checkpoint)

/-- Why a command fails: in the guard, or in the store itself. -/
inductive Failure
  | fault (value : Fault)
  | read (value : ReadError)

/-- What comes of a command. -/
structure Step where
  session : Session
  reply : Except Failure Reply
  events : List Event := []

/-- A session that starts with the guard of a configuration. -/
def ofConfig? (config : Config) : Except Fault Session :=
  (Guard.ofConfig? config).map fun (guard, events) =>
    { guard, origin := (guard, events), table := guard.table }

/-- A session that starts with a guard over a table. -/
def ofTable (table : Table) (confirmations : UInt64) : Session :=
  let guard : Guard := { table, confirmations }
  { guard, origin := (guard, []), table }

/-- What the guard and the free tracker read from. -/
def source (s : Session) : Except ReadError Snapshot :=
  s.store.source.map (·.under s.outages)

/-- Connects a block, and moves the best tip to it if asked to. -/
def connect (moveTip : Bool) (s : Session) (b : Block) : Session :=
  { s with
    store := s.store.connect b
    best := if moveTip then { height := b.height, digest := b.digest } else s.best }

/-- The step of a command whose outcome concerns the guard. -/
def ofGuard {α : Type} (s : Session) (reply : α → Reply) (o : Outcome Guard α) : Step where
  session := { s with guard := o.state }
  reply := (o.answer.map reply).mapError .fault
  events := o.events

/-- The step of a command that changes nothing. -/
def ofAnswer {α : Type} (s : Session) (reply : α → Reply) (answer : Except Fault α)
    (events : List Event) : Step where
  session := s
  reply := (answer.map reply).mapError .fault
  events := events

/-- What is to be seen in the log of a write. -/
def writeEvents (s : Session) : Store.Write → List Event
  | .cutAbove height => [.disconnected (s.store.above height).length height]
  | _ => []

/-- What a write is answered with. -/
def writeReply (store : Store) : Store.Write → Reply
  | .setReadable _ => .done
  | _ => .storeTip store.tip?

/-- The snapshot that a question is put to. A name under which nothing was kept has none. -/
def asked (s : Session) : Option String → Except ReadError Snapshot
  | none => s.source
  | some name =>
    match s.kept.lookup name with
    | some snapshot => .ok snapshot
    | none => .error (.notFound (.described name))

/-- One command. -/
def step (s : Session) : Command → Step
  | .extend blocks moveTip =>
    let session := blocks.foldl (connect moveTip) s
    { session, reply := .ok (.storeTip session.store.tip?) }
  | .write w =>
    let store := s.store.write w
    { session := { s with store }, reply := .ok (writeReply store w), events := s.writeEvents w }
  | .setOutage query error =>
    { session := { s with outages := s.outages.set query error }, reply := .ok .done }
  | .setBest best => { session := { s with best }, reply := .ok .done }
  | .tips => { session := s, reply := .ok (.tips s.store.tip? s.best) }
  | .keep name =>
    match s.store.source with
    | .ok snapshot =>
      { session := { s with kept := (name, snapshot) :: s.kept }, reply := .ok .done }
    | .error e => { session := s, reply := .error (.read e) }
  | .ask question name =>
    let finding := (s.asked name).bind (·.ask question)
    { session := s, reply := (finding.map .finding).mapError .read }
  | .restart =>
    let (guard, events) := s.origin
    { session := { s with guard }, reply := .ok .done, events }
  | .showGuard => { session := s, reply := .ok (.guard s.guard) }
  | .follow best =>
    s.ofGuard .anchor (s.guard.follow s.source (best.getD s.best.height))
  | .cachedAnchor => { session := s, reply := .ok (.anchor s.guard.cachedAnchor) }
  | .verify height block =>
    let (valid, events) := s.guard.verify height block
    { session := s, reply := .ok (.flag valid), events }
  | .judge b best =>
    let (verdict, events) := s.guard.judge s.source (best.getD s.best.height) b
    s.ofAnswer .verdict verdict events
  | .isCandidate b best =>
    let (verdict, events) := s.guard.judge s.source (best.getD s.best.height) b
    s.ofAnswer (.flag ·.isCandidate) verdict events
  | .admitFork fork =>
    s.ofGuard (fun () => .done) (s.guard.admitFork s.source s.best.height fork)
  | .candidates max =>
    let (found, events) := s.guard.candidates s.source s.best.height max
    s.ofAnswer .checkpoints found events
  | .followFree best =>
    let followed := s.tracker.follow s.table s.source best
    { session := { s with tracker := followed.state }
      reply := (followed.answer.map .anchor).mapError .fault
      events := followed.events }
  | .setTable config =>
    match config.table? with
    | .ok table => { session := { s with table }, reply := .ok .done }
    | .error fault => { session := s, reply := .error (.fault fault) }
  | .showFree => { session := s, reply := .ok (.tracker s.tracker (s.tracker.awaited? s.table)) }

/-- Commands in a row, with what comes of each. -/
def run (s : Session) : List Command → List Step
  | [] => []
  | command :: rest =>
    let step := s.step command
    step :: run step.session rest

end Session

end ChainCheckpoints
