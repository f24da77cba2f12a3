import ChainCheckpoints.Guard.Fault
import ChainCheckpoints.Script.Template

/-!
# Verdicts on Candidates

Whether a block would make a good checkpoint. It must be in the main chain, deep enough under the
best tip that no reorganisation reaches it, between neighbours whose timestamps are in order with
its own, and made of standard outputs only. The verdict names the first of these that fails. It is
advice: pinning a block is a decision that people take.

The neighbour below is found by the digest in the header and the neighbour above by its height, for
the block itself does not name it.

## Main definitions

* `Verdict`: the outcome.
* `liesDeep`: whether a block lies deep enough.
* `timesEnclosed`: whether the neighbours' timestamps enclose the block's.
* `Transaction.firstNonStandard?`, `firstNonStandard?`: the first output of a non-standard template.
* `Verdict.judge`: the verdict on a block.
-/

namespace ChainCheckpoints

/-- Whether a block would make a good checkpoint, or the first reason against it. -/
inductive Verdict
  | candidate
  /-- The main chain does not run through the block, or nobody knows it. -/
  | offMainChain
  /-- There are not enough blocks on top. -/
  | tooShallow (height best : UInt64)
  /-- The neighbours' timestamps do not enclose the block's. -/
  | timestampsOutOfOrder
  /-- An output follows none of the known templates. -/
  | nonStandardOutput (transaction output : Nat)
deriving DecidableEq

namespace Verdict

def isCandidate (v : Verdict) : Bool :=
  v = .candidate

/-- The kind of verdict, in one word. -/
def name : Verdict → String
  | .candidate => "Candidate"
  | .offMainChain => "NotInMainChain"
  | .tooShallow _ _ => "TooShallow"
  | .timestampsOutOfOrder => "TimestampsOutOfOrder"
  | .nonStandardOutput _ _ => "NonStandardOutput"

/-- The verdict with its particulars. -/
def text (v : Verdict) : String :=
  match v with
  | .tooShallow height best => s!"{v.name} \x7b height: {height}, best_height: {best} \x7d"
  | .nonStandardOutput transaction output =>
    s!"{v.name} \x7b tx_index: {transaction}, output_index: {output} \x7d"
  | _ => v.name

end Verdict

/-- Whether at least `confirmations` blocks lie on top of the one at `height`, up to `best`. A tip
    below `confirmations` buries nothing. -/
def liesDeep (height best confirmations : UInt64) : Bool :=
  confirmations ≤ best ∧ height ≤ best - confirmations

/-- Whether the timestamps do not descend from the block below, if there is one, over the block to
    the one above. The chain itself asks for less, so some valid blocks fail. -/
def timesEnclosed (below : Option UInt64) (own above : UInt64) : Bool :=
  below.all (· ≤ own) ∧ own ≤ above

section

variable (classify : Bytes → Template)

/-- The position of the first output that follows no known template. -/
def Transaction.firstNonStandard? (t : Transaction) : Option Nat :=
  t.outputs.findIdx? fun output => !(classify output.script).isStandard

/-- The first output that follows no known template: the position of its transaction, counted from
    `position`, and its own. -/
def firstNonStandard? : (position : Nat) → List Transaction → Option (Nat × Nat)
  | _, [] => none
  | position, t :: rest =>
    match t.firstNonStandard? classify with
    | some output => some (position, output)
    | none => firstNonStandard? (position + 1) rest

end

namespace Verdict

/-- The timestamp of the block below. The first block of a chain has none below it. -/
def timeBelow (view : Snapshot) (b : Block) (height : UInt64) : Except Fault (Option UInt64) :=
  if height = 0 then .ok none
  else
    match view.header b.header.parent with
    | .ok header => .ok (some header.timestamp)
    | .error e => .error (.missing (.previousHeader b.header.parent) e)

/-- The timestamp of the block above. -/
def timeAbove (view : Snapshot) (height : UInt64) : Except Fault UInt64 :=
  match view.headerAt (height + 1) with
  | .ok header => .ok header.timestamp
  | .error e => .error (.missing (.headerAt (height + 1)) e)

/-- The verdict on a block of the main chain at `height` that lies deep enough. -/
def judgeDeep (classify : Bytes → Template) (view : Snapshot) (b : Block) (height : UInt64) :
    Except Fault Verdict := do
  let below ← timeBelow view b height
  let above ← timeAbove view height
  if timesEnclosed below b.header.timestamp above then
    match firstNonStandard? classify 0 b.transactions with
    | some (transaction, output) => return .nonStandardOutput transaction output
    | none => return .candidate
  else return .timestampsOutOfOrder

/-- The verdict on a block, with the best tip at `best`. There is none if the block claims another
    height than the main chain gives it, or if the store fails. -/
def judge (classify : Bytes → Template) (confirmations : UInt64) (view : Snapshot) (best : UInt64)
    (b : Block) : Except Fault Verdict :=
  match view.heightOf b.digest with
  | .error e => if e.isMiss then .ok .offMainChain else .error (.unread e)
  | .ok height =>
    if height ≠ b.height then .error (.heightMismatch b.height height)
    -- The neighbours come last, since the one above need not exist near the tip.
    else if liesDeep height best confirmations then judgeDeep classify view b height
    else .ok (.tooShallow height best)

end Verdict

end ChainCheckpoints
