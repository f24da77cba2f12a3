import ChainCheckpoints.Proofs.Guard
import ChainCheckpoints.Proofs.Guard.Config

/-!
# The Index Stands In for the List

A checkpoint table is looked up by height for every block that arrives, and an index from heights to
positions does the work of a search through the list. The list is what was agreed on. Whoever reads it
entry by entry, without index and without positions, must come to the same answers.

The order of the list is all it takes. Only neighbours are compared when a table is made, and yet no
height occurs twice in the whole list, so there is never a choice between two entries, and the last
entry is above all others. Every position that the index knows is a position of the list, so a
look-up never reaches beyond its end.

## Main definitions

* `Table.AgreesWith`: a table that answers as a list does.

## Theorems

* `Table.filter_height`: the entries at a height are the one that the index finds, or none.
* `Table.highest?_eq_some_iff`: the last entry is the highest.
* `Table.agreesWith_entries`: a table answers as its own list.
* `Guard.pins_agree`: a guard passes and refuses blocks as the list says.
-/

namespace ChainCheckpoints

namespace Table

variable {table : Table} {c : Checkpoint}

/-- A table answers as a list of checkpoints does. -/
structure AgreesWith (table : Table) (entries : List Checkpoint) : Prop where
  /-- The index knows the position of every entry, and no other position. -/
  positions : ∀ (height : UInt64) (i : Nat), table.positions[height]? = some i ↔
    ∃ c, entries[i]? = some c ∧ c.height = height
  /-- At a height there is the one entry that is found, or none. -/
  pinnedAt : ∀ height : UInt64,
    entries.filter (·.height = height) = (table.pinnedAt? height).toList
  highest : ∀ c, table.highest? = some c ↔ c ∈ entries ∧ ∀ d ∈ entries, d.height ≤ c.height

theorem positions_eq_some_iff {height : UInt64} {i : Nat} :
    table.positions[height]? = some i ↔ ∃ c, table.entries[i]? = some c ∧ c.height = height := by
  rw [table.positions_eq, getElem?_positionsFrom table.ascending]
  simp only [Nat.zero_add, exists_eq_left', Option.map_eq_some_iff]

/-- The entries at a height are the one that the index finds, or none. -/
theorem filter_height (table : Table) (height : UInt64) :
    table.entries.filter (·.height = height) = (table.pinnedAt? height).toList := by
  have hmem : ∀ c, c ∈ table.entries.filter (·.height = height) ↔
      table.pinnedAt? height = some c := by
    intro c
    rw [List.mem_filter, pinnedAt?_eq_some_iff, decide_eq_true_eq]
  have hascending : Ascending (table.entries.filter (·.height = height)) :=
    table.ascending.sublist List.filter_sublist
  rcases hfiltered : table.entries.filter (·.height = height) with _ | ⟨c, _ | ⟨d, rest⟩⟩
  · rw [hfiltered] at hmem ⊢
    have hnone : table.pinnedAt? height = none := by
      rw [Option.eq_none_iff_forall_ne_some]
      intro c hc
      exact List.not_mem_nil ((hmem c).2 hc)
    rw [hnone, Option.toList_none]
  · rw [hfiltered] at hmem ⊢
    rw [(hmem c).1 List.mem_cons_self, Option.toList_some]
  · -- Two entries at one height would both be found, and they ascend.
    rw [hfiltered] at hmem hascending
    have hc := pinnedAt?_eq_some_iff.1 ((hmem c).1 List.mem_cons_self)
    have hd := pinnedAt?_eq_some_iff.1 ((hmem d).1 (List.mem_cons_of_mem c List.mem_cons_self))
    have hlt : c.height < d.height := List.rel_of_pairwise_cons hascending List.mem_cons_self
    rw [hc.2, hd.2] at hlt
    exact absurd hlt (UInt64.lt_irrefl height)

theorem highest_of_highest? (h : table.highest? = some c) :
    c ∈ table.entries ∧ ∀ d ∈ table.entries, d.height ≤ c.height := by
  rw [highest?, List.getLast?_eq_getElem?] at h
  refine ⟨mem_entries h, ?_⟩
  intro d hd
  rcases mem_entries_iff.1 hd with ⟨j, hj⟩
  -- No position comes after the last.
  have hle : j ≤ table.entries.length - 1 := Nat.le_sub_one_of_lt (lt_size hj)
  exact height_le_height hle hj h

/-- The last entry is the highest, and the only one that is as high as all others. -/
theorem highest?_eq_some_iff :
    table.highest? = some c ↔ c ∈ table.entries ∧ ∀ d ∈ table.entries, d.height ≤ c.height := by
  refine ⟨highest_of_highest?, ?_⟩
  rintro ⟨hmem, hgreatest⟩
  rcases hlast : table.highest? with _ | d
  · rw [highest?, List.getLast?_eq_none_iff] at hlast
    rw [hlast] at hmem
    exact absurd hmem List.not_mem_nil
  · rcases highest_of_highest? hlast with ⟨hd, hdgreatest⟩
    have hheight : d.height = c.height :=
      UInt64.le_antisymm (hgreatest d hd) (hdgreatest c hmem)
    rw [eq_of_height_eq hd hmem hheight]

theorem agreesWith_entries (table : Table) : table.AgreesWith table.entries where
  positions _ _ := positions_eq_some_iff
  pinnedAt := table.filter_height
  highest _ := highest?_eq_some_iff

end Table

namespace Guard

variable {g : Guard} {entries : List Checkpoint}

theorem verify_eq_false_iff {height : UInt64} {id : Digest} :
    (g.verify height id).1 = false ↔ ∃ c ∈ g.table.entries, c.height = height ∧ c.digest ≠ id := by
  rw [← Bool.not_eq_true, verify_iff]
  simp only [Classical.not_forall, exists_prop, ne_eq]

/-- A guard over the table of a list answers as the list does, and refuses a block exactly if the list
    has another digest at its height. So any block passes at a height that the list leaves open, and
    at a pinned height the pinned block only. -/
theorem pins_agree (hlist : Table.ofList? entries = .ok g.table) :
    g.table.AgreesWith entries ∧
    (∀ height id, (g.verify height id).1 = false ↔
      ∃ c ∈ entries, c.height = height ∧ c.digest ≠ id) ∧
    (∀ height, (∀ c ∈ entries, c.height ≠ height) → ∀ id, (g.verify height id).1 = true) ∧
    ∀ c ∈ entries, ∀ id, (g.verify c.height id).1 = true ↔ id = c.digest := by
  obtain rfl : g.table.entries = entries := Table.ofList?_eq_ok_iff.1 hlist
  refine ⟨g.table.agreesWith_entries, fun _ _ => verify_eq_false_iff, ?_, ?_⟩
  · intro height hopen id
    refine verify_iff.2 ?_
    intro c hc hheight
    exact absurd hheight (hopen c hc)
  · intro c hc id
    rw [verify_iff]
    constructor
    · intro hall
      exact (hall c hc rfl).symm
    · rintro rfl d hd hheight
      rw [Table.eq_of_height_eq hd hc hheight]

/-- The middle one of three checkpoints, the height below it, and the highest one. -/
theorem pins_agree_of_three :
    let pinned : Digest := ⟨List.replicate 32 1, rfl⟩
    let table : Table := { entries := [⟨1, pinned⟩, ⟨5, pinned⟩, ⟨9, .zero⟩], ascending := by decide }
    let g : Guard := { table, confirmations := 1 }
    Table.ofList? table.entries = .ok g.table ∧ (g.verify 5 .zero).1 = false ∧
      (g.verify 5 pinned).1 = true ∧ (g.verify 4 .zero).1 = true ∧
      g.table.highest? = some ⟨9, .zero⟩ := by
  intro pinned table g
  have hlist : Table.ofList? table.entries = .ok g.table := Table.ofList?_entries table
  rcases pins_agree hlist with ⟨hagrees, hrefused, hopen, hpinned⟩
  refine ⟨hlist, ?_, ?_, ?_, ?_⟩
  · exact (hrefused 5 .zero).2 ⟨⟨5, pinned⟩, by decide, rfl, by decide⟩
  · exact (hpinned ⟨5, pinned⟩ (by decide) pinned).2 rfl
  · exact hopen 4 (by decide) .zero
  · exact (hagrees.highest _).2 (by decide)

end Guard

end ChainCheckpoints
