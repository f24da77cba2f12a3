import ChainCheckpoints.Proofs.Store.Keyed

/-!
# What a Store Answers

The answers of a store in terms of its three look-ups: which of them an answer needs, and which
error there is where one of them finds nothing. Every statement about snapshots goes through these,
so none of them opens an answer again.

## Theorems

* `Store.isMain_iff`, `Store.isMain_of_none`: whether the main chain runs through a block.
* `Store.heightOf_eq_ok_iff`, `Store.heightOf_of_none`: the height of a block.
* `Store.header_eq_ok_iff`, `Store.header_of_none`: the header of a block.
* `Store.headerAt_eq`, `Store.headerAt_eq_ok_iff`: the header at a height.
* `Store.exists_block_iff`, `Store.block_of_none`: a block is read if it is held.
* `Store.header_eq_map_block`: a header is that of the block that is read.
* `Store.isMain_connect`, `Store.block_connect`: a block that has just been connected.
-/

namespace ChainCheckpoints

namespace Store

variable {s : Store} {x : Digest} {h : UInt64} {header : Header}

theorem isMain_iff : s.snapshot.isMain x = .ok true ↔ ∃ h, s.heights[x]? = some h := by
  have hcontains : s.snapshot.isMain x = .ok (s.heights.contains x) := rfl
  rw [hcontains, Except.ok.injEq, Std.TreeMap.contains_eq_isSome_getElem?,
    Option.isSome_iff_exists]

theorem isMain_of_none (hx : s.heights[x]? = none) : s.snapshot.isMain x = .ok false := by
  have hcontains : s.snapshot.isMain x = .ok (s.heights.contains x) := rfl
  rw [hcontains, Std.TreeMap.contains_eq_isSome_getElem?, hx, Option.isSome_none]

theorem heightOf_of_none (hx : s.heights[x]? = none) :
    s.heightOf x = .error (if s.blocks.contains x then .offMainChain x else .notFound (.block x)) := by
  simp only [heightOf, hx]
  split <;> rfl

theorem heightOf_eq_ok_iff : s.heightOf x = .ok h ↔ s.heights[x]? = some h := by
  rcases hx : s.heights[x]? with _ | k
  · rw [heightOf_of_none hx]
    simp only [reduceCtorEq]
  · simp only [heightOf, hx, Except.ok.injEq, Option.some.injEq]

theorem header_of_none (hx : s.blocks[x]? = none) : s.header x = .error (.notFound (.block x)) := by
  simp only [Store.header, stored, hx, Except.map]

theorem header_eq_ok_iff : s.header x = .ok header ↔ ∃ b, s.blocks[x]? = some b ∧ b.header = header := by
  rcases hx : s.blocks[x]? with _ | b
  · rw [header_of_none hx]
    simp only [reduceCtorEq, false_and, exists_false]
  · simp only [Store.header, stored, hx, Except.map, Except.ok.injEq, Option.some.injEq,
      exists_eq_left']

/-- At a height of the main chain there is the header of the block that stands there, or the error
    of a block that has been lost. -/
theorem headerAt_eq (hx : s.mainAt[h]? = some x) : s.headerAt h = s.header x := by
  simp only [headerAt, hx]

theorem headerAt_eq_ok_iff : s.headerAt h = .ok header ↔
    ∃ x b, s.mainAt[h]? = some x ∧ s.blocks[x]? = some b ∧ b.header = header := by
  rcases hx : s.mainAt[h]? with _ | x
  · simp only [headerAt, hx, reduceCtorEq, false_and, exists_false]
  · rw [headerAt_eq hx, header_eq_ok_iff]
    simp only [Option.some.injEq, exists_and_left, exists_eq_left']

theorem block_of_none (hx : s.blocks[x]? = none) : s.block x = .error (.notFound (.block x)) := by
  simp only [block, stored, hx, Except.map]

theorem header_eq_map_block (s : Store) (x : Digest) : s.header x = (s.block x).map Block.header := by
  unfold header block
  rcases s.stored x with e | d
  · rfl
  · rfl

theorem exists_block_iff : (∃ b, s.block x = .ok b) ↔ s.blocks.contains x = true := by
  rw [Std.TreeMap.contains_eq_isSome_getElem?, Option.isSome_iff_exists]
  constructor
  · rintro ⟨b, hb⟩
    rcases block_eq_ok_iff.1 hb with ⟨d, hd, _⟩
    exact ⟨d, hd⟩
  · rintro ⟨d, hd⟩
    exact ⟨_, block_eq_ok_iff.2 ⟨d, hd, rfl⟩⟩

theorem isMain_connect (s : Store) (b : Block) :
    (s.connect b).snapshot.isMain b.digest = .ok true :=
  isMain_iff.2 ⟨b.height, by rw [heights_connect, if_pos rfl]⟩

theorem block_connect (s : Store) (b : Block) : (s.connect b).block b.digest = .ok b :=
  block_eq_ok_iff.2 ⟨b, by rw [blocks_connect, if_pos rfl],
    by rw [heights_connect, if_pos rfl, Option.getD_some]⟩

end Store

end ChainCheckpoints
