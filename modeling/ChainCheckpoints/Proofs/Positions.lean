import ChainCheckpoints.Checkpoint.Table

/-!
# Positions in a Table

A table ascends, so the order of positions and the order of heights are the same order. That is what
makes a position a measure of how far a chain has come: everything below a position has been passed
once the checkpoint at it has been.

`Table.reached?` is the plain meaning of an anchor, with no tracker in it: of the checkpoints that a
best height has come to, the highest. It is what the answer of a tracker is measured by.

## Main definitions

* `Table.reached?`: the highest checkpoint up to a height.

## Theorems

* `Table.mem_entries_iff`: the entries are what stands at the positions.
* `Table.height_lt_height`: a later position is a higher one.
* `Table.reached?_eq_some_iff`, `Table.reached?_eq_none_iff`: the highest checkpoint up to a height
  is greatest among those up to it.
* `Table.reached?_of_next`, `Table.reached?_of_first`: it is found by looking at two neighbours.
* `Table.pinnedAt?_eq_some_iff`: the index finds the entry at a height.
-/

namespace ChainCheckpoints

namespace Table

variable {table : Table} {best : UInt64} {i j : Nat} {c d : Checkpoint}

theorem mem_entries_iff : c ∈ table.entries ↔ ∃ i, table.get? i = some c :=
  List.mem_iff_getElem?

theorem mem_entries (hc : table.get? i = some c) : c ∈ table.entries :=
  mem_entries_iff.2 ⟨i, hc⟩

theorem lt_size (hc : table.get? i = some c) : i < table.size :=
  (List.getElem?_eq_some_iff.1 hc).1

theorem get?_eq_none_iff : table.get? i = none ↔ table.size ≤ i :=
  List.getElem?_eq_none_iff

theorem exists_get? (hi : i < table.size) : ∃ c, table.get? i = some c :=
  ⟨_, List.getElem?_eq_getElem hi⟩

theorem isEmpty_iff_size : table.isEmpty = true ↔ table.size = 0 := by
  simp only [isEmpty, size, List.isEmpty_iff, List.length_eq_zero_iff]

theorem isEmpty_eq_false (hc : table.get? i = some c) : table.isEmpty = false := by
  refine Bool.eq_false_iff.2 fun hempty => ?_
  have hlt := lt_size hc
  rw [isEmpty_iff_size.1 hempty] at hlt
  exact Nat.not_lt_zero i hlt

theorem size_pos (hne : table.isEmpty = false) : 0 < table.size := by
  refine Nat.pos_of_ne_zero fun hzero => ?_
  rw [isEmpty_iff_size.2 hzero] at hne
  exact absurd hne (by decide)

theorem drop_eq_cons (hc : table.get? i = some c) :
    table.entries.drop i = c :: table.entries.drop (i + 1) :=
  List.drop_eq_getElem?_toList_append.trans (by rw [show table.entries[i]? = some c from hc]; rfl)

/-- A later position is a higher one. -/
theorem height_lt_height (hij : i < j) (hc : table.get? i = some c) (hd : table.get? j = some d) :
    c.height < d.height := by
  rcases List.getElem?_eq_some_iff.1 hc with ⟨hi, rfl⟩
  rcases List.getElem?_eq_some_iff.1 hd with ⟨hj, rfl⟩
  exact List.pairwise_iff_getElem.1 table.ascending i j hi hj hij

theorem height_le_height (hij : i ≤ j) (hc : table.get? i = some c) (hd : table.get? j = some d) :
    c.height ≤ d.height := by
  rcases Nat.lt_or_eq_of_le hij with hlt | rfl
  · exact UInt64.le_of_lt (height_lt_height hlt hc hd)
  · rw [hc, Option.some.injEq] at hd
    rw [hd]
    exact UInt64.le_refl _

/-- The highest checkpoint up to a height. -/
def reached? (table : Table) (best : UInt64) : Option Checkpoint :=
  table.entries.reverse.find? (·.height ≤ best)

theorem reached?_eq_none_iff :
    table.reached? best = none ↔ ∀ c ∈ table.entries, best < c.height := by
  simp only [reached?, List.find?_eq_none, List.mem_reverse, decide_eq_true_eq, UInt64.not_le]

/-- No height is pinned twice. -/
theorem eq_of_height_eq (hc : c ∈ table.entries) (hd : d ∈ table.entries)
    (heq : c.height = d.height) : c = d := by
  rcases mem_entries_iff.1 hc with ⟨i, hi⟩
  rcases mem_entries_iff.1 hd with ⟨j, hj⟩
  rcases Nat.lt_trichotomy i j with hij | rfl | hji
  · exact absurd heq (UInt64.ne_of_lt (height_lt_height hij hi hj))
  · rw [hi, Option.some.injEq] at hj
    exact hj
  · exact absurd heq.symm (UInt64.ne_of_lt (height_lt_height hji hj hi))

theorem greatest_of_reached? (h : table.reached? best = some c) :
    c ∈ table.entries ∧ c.height ≤ best ∧
      ∀ d ∈ table.entries, d.height ≤ best → d.height ≤ c.height := by
  -- The search goes from the top, so the list splits around the entry that is found.
  rcases List.find?_eq_some_iff_append.1 h with ⟨hc, after, before, hsplit, hafter⟩
  have hentries : table.entries = before.reverse ++ c :: after.reverse := by
    have h := congrArg List.reverse hsplit
    simpa only [List.reverse_reverse, List.reverse_append, List.reverse_cons, List.append_assoc,
      List.singleton_append] using h
  refine ⟨by simp only [hentries, List.mem_append, List.mem_cons, true_or, or_true],
    of_decide_eq_true hc, fun d hd hdue => ?_⟩
  have hascending := table.ascending
  rw [hentries] at hd hascending
  rcases List.mem_append.1 hd with hd | hd
  -- Before the entry: lower, because the table ascends.
  · exact UInt64.le_of_lt
      ((List.pairwise_append.1 hascending).2.2 d hd c (List.mem_cons_self ..))
  rcases List.mem_cons.1 hd with rfl | hd
  · exact UInt64.le_refl _
  -- After the entry: looked at before it, and passed over for being too high.
  · have hnot := hafter d (List.mem_reverse.1 hd)
    simp only [hdue, decide_true, Bool.not_true, Bool.false_eq_true] at hnot

theorem reached?_eq_some_iff :
    table.reached? best = some c ↔
      c ∈ table.entries ∧ c.height ≤ best ∧
        ∀ d ∈ table.entries, d.height ≤ best → d.height ≤ c.height := by
  refine ⟨greatest_of_reached?, fun ⟨hmem, hdue, hgreatest⟩ => ?_⟩
  cases hfound : table.reached? best with
  | none => exact absurd (reached?_eq_none_iff.1 hfound c hmem) (UInt64.not_lt.2 hdue)
  | some d =>
    rcases greatest_of_reached? hfound with ⟨hd, hddue, hdgreatest⟩
    rw [eq_of_height_eq hd hmem
      (UInt64.le_antisymm (hgreatest d hd hddue) (hdgreatest c hmem hdue))]

/-- A checkpoint is the highest one up to a height as soon as its successor is above that height. -/
theorem reached?_of_next (hc : table.get? i = some c) (hdue : c.height ≤ best)
    (hnext : ∀ d, table.get? (i + 1) = some d → best < d.height) :
    table.reached? best = some c := by
  refine reached?_eq_some_iff.2 ⟨mem_entries hc, hdue, fun d hd hddue => ?_⟩
  rcases mem_entries_iff.1 hd with ⟨j, hj⟩
  -- From the successor on everything is above the height, so `d` stands no later than `c`.
  rcases Nat.lt_or_ge i j with hij | hji
  · rcases exists_get? (Nat.lt_of_le_of_lt hij (lt_size hj)) with ⟨e, he⟩
    exact absurd (UInt64.le_trans (height_le_height hij he hj) hddue)
      (UInt64.not_le.2 (hnext e he))
  · exact height_le_height hji hj hc

/-- Nothing is reached as long as the first checkpoint is above the height. -/
theorem reached?_of_first (hfirst : ∀ d, table.get? 0 = some d → best < d.height) :
    table.reached? best = none := by
  refine reached?_eq_none_iff.2 fun d hd => ?_
  rcases mem_entries_iff.1 hd with ⟨j, hj⟩
  rcases exists_get? (Nat.lt_of_le_of_lt (Nat.zero_le j) (lt_size hj)) with ⟨e, he⟩
  exact UInt64.lt_of_lt_of_le (hfirst e he) (height_le_height (Nat.zero_le j) he hj)

theorem getElem?_positionsFrom {entries : List Checkpoint} (hascending : Ascending entries)
    (position : Nat) (height : UInt64) (i : Nat) :
    (positionsFrom position entries)[height]? = some i ↔
      ∃ j, i = position + j ∧ (entries[j]?).map Checkpoint.height = some height := by
  induction entries generalizing position with
  | nil =>
    simp only [positionsFrom, Std.TreeMap.getElem?_emptyc, List.getElem?_nil, Option.map_none,
      reduceCtorEq, and_false, exists_false]
  | cons c rest ih =>
    have hrest : Ascending rest := (List.pairwise_cons.1 hascending).2
    rw [positionsFrom, Std.TreeMap.getElem?_insert]
    simp only [Std.compare_eq_iff_eq]
    by_cases hc : c.height = height
    · rw [if_pos hc, Option.some.injEq]
      refine ⟨fun h => ⟨0, h.symm, congrArg some hc⟩, fun ⟨j, hi, hj⟩ => ?_⟩
      rcases j with _ | j
      · exact hi.symm
      · -- The entries after the first are higher than it.
        rw [List.getElem?_cons_succ] at hj
        rcases Option.map_eq_some_iff.1 hj with ⟨d, hd, hdheight⟩
        have hlt : c.height < d.height :=
          List.rel_of_pairwise_cons hascending (List.mem_of_getElem? hd)
        rw [hc, hdheight] at hlt
        exact absurd hlt (UInt64.lt_irrefl _)
    · rw [if_neg hc, ih hrest]
      constructor
      · rintro ⟨j, hi, hj⟩
        exact ⟨j + 1, by omega, by rw [List.getElem?_cons_succ, hj]⟩
      · rintro ⟨j, hi, hj⟩
        rcases j with _ | j
        · exact absurd (Option.some.inj hj) hc
        · exact ⟨j, by omega, by rw [← hj, List.getElem?_cons_succ]⟩

/-- The index finds the entry at a height, which is the only one at that height. -/
theorem pinnedAt?_eq_some_iff {height : UInt64} :
    table.pinnedAt? height = some c ↔ c ∈ table.entries ∧ c.height = height := by
  rw [pinnedAt?, table.positions_eq, Option.bind_eq_some_iff]
  simp only [getElem?_positionsFrom table.ascending, Nat.zero_add]
  constructor
  · rintro ⟨i, ⟨j, hij, hj⟩, hc⟩
    rw [← hij, show table.entries[i]? = some c from hc, Option.map_some, Option.some.injEq] at hj
    exact ⟨mem_entries hc, hj⟩
  · rintro ⟨hmem, rfl⟩
    rcases mem_entries_iff.1 hmem with ⟨i, hi⟩
    exact ⟨i, ⟨i, rfl, by rw [show table.entries[i]? = some c from hi, Option.map_some]⟩, hi⟩

end Table

end ChainCheckpoints
