import ChainCheckpoints.Checkpoint.Basic

/-!
# Checkpoint Tables

The checkpoints of one network, in ascending order of height. The order is strict, so no height is
pinned twice; a list that breaks it is refused with the first two neighbours that do.

A table is looked up by height for every block that arrives, so it carries an index from heights to
positions in the list. The index is determined by the list, and the type says so: a table cannot
hold an index of another list.

## Main definitions

* `Table`: a strictly ascending list with its index.
* `Table.ofList?`: the table of a list, unless two neighbours are out of order.
* `Table.get?`, `Table.pinnedAt?`, `Table.highest?`: the checkpoint at a position, at a height, and
  the highest one.
* `TableFault`: what is wrong with a list, or with a position.

## Theorems

* `Table.firstDisorder?_eq_none_iff`: comparing neighbours is enough to know that a list ascends.
-/

namespace ChainCheckpoints

/-- What can be wrong with a list of checkpoints, or with a position in it. -/
inductive TableFault
  /-- The checkpoint at `height` comes right after one at `previous`, which is not lower. -/
  | outOfOrder (height previous : UInt64)
  /-- The table has no such position. -/
  | noEntry (index : Nat)
deriving DecidableEq

namespace TableFault

def message : TableFault → String
  | .outOfOrder height previous => s!"checkpoint at height {height} follows height {previous}"
  | .noEntry index => s!"no checkpoint at index {index}"

end TableFault

namespace Table

/-- Every checkpoint is higher than all before it. -/
abbrev Ascending (entries : List Checkpoint) : Prop :=
  entries.Pairwise (·.height < ·.height)

/-- The position of each height, where the first entry of the list stands at `position`. -/
def positionsFrom : (position : Nat) → List Checkpoint → Std.TreeMap UInt64 Nat
  | _, [] => ∅
  | position, c :: rest => (positionsFrom (position + 1) rest).insert c.height position

end Table

/-- A strictly ascending list of checkpoints with its index. -/
structure Table where
  entries : List Checkpoint
  ascending : Table.Ascending entries
  positions : Std.TreeMap UInt64 Nat := Table.positionsFrom 0 entries
  positions_eq : positions = Table.positionsFrom 0 entries := by rfl

namespace Table

/-- The first checkpoint that is not higher than the one before it: its height, and the height of
    the one before it. -/
def firstDisorder? : List Checkpoint → Option (UInt64 × UInt64)
  | c :: d :: rest =>
    if d.height ≤ c.height then some (d.height, c.height) else firstDisorder? (d :: rest)
  | _ => none

/-- Comparing neighbours is enough: the order is transitive, so an entry that is higher than its
    neighbour is higher than all before it. -/
theorem firstDisorder?_eq_none_iff (entries : List Checkpoint) :
    firstDisorder? entries = none ↔ Ascending entries := by
  fun_induction firstDisorder? entries with
  | case1 c d rest h =>
    simp only [reduceCtorEq, false_iff]
    intro ascending
    exact absurd (List.rel_of_pairwise_cons ascending (List.mem_cons_self ..)) (by simpa using h)
  | case2 c d rest h ih =>
    rw [ih]
    refine ⟨fun tail => List.pairwise_cons.2 ⟨fun e he => ?_, tail⟩,
      fun whole => (List.pairwise_cons.1 whole).2⟩
    have step : c.height < d.height := by simpa using h
    rcases List.mem_cons.1 he with rfl | he
    · exact step
    · exact UInt64.lt_trans step (List.rel_of_pairwise_cons tail he)
  | case3 entries h =>
    rcases entries with _ | ⟨c, _ | ⟨d, rest⟩⟩
    · simp
    · simp
    · exact absurd rfl (h c d rest)

/-- The table of a list, unless two neighbours are out of order. -/
def ofList? (entries : List Checkpoint) : Except TableFault Table :=
  match h : firstDisorder? entries with
  | some (height, previous) => .error (.outOfOrder height previous)
  | none => .ok { entries, ascending := (firstDisorder?_eq_none_iff entries).1 h }

/-- The table of a network without checkpoints. -/
def empty : Table where
  entries := []
  ascending := List.Pairwise.nil

instance : Inhabited Table := ⟨empty⟩

def size (t : Table) : Nat :=
  t.entries.length

def isEmpty (t : Table) : Bool :=
  t.entries.isEmpty

/-- The highest checkpoint. -/
def highest? (t : Table) : Option Checkpoint :=
  t.entries.getLast?

/-- The checkpoint at a position, counted from the lowest. -/
def get? (t : Table) (index : Nat) : Option Checkpoint :=
  t.entries[index]?

/-- The checkpoint at a height. -/
def pinnedAt? (t : Table) (height : UInt64) : Option Checkpoint :=
  t.positions[height]?.bind t.get?

end Table

end ChainCheckpoints
