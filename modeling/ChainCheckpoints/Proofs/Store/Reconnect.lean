import ChainCheckpoints.Proofs.Store.Index
import Mathlib.Data.Set.List

/-!
# Cut and Connected Again

A node that has cut its main chain off may want to have it back. It has read the blocks above the cut
before, and connects them again, in whatever order they come. The store is then the same to every
reader, as long as no block has ever been put at a second height.

The block that is connected again is the one that was read, and that has the height of the index and
not the one that was stored with it. So the map of all blocks need not be the same as before. What is
the same is the block with the height that the index gives it, and no reader sees more than that.

On the way back the store is described by the blocks that have been connected so far. What is not
above the cut is there from the start, and what is above it comes back with its block. A block has one
height and a height has one block, so none of them ever takes the place of another, and the order
does not matter. Nor would it matter if a block came twice.

## Main definitions

* `Store.Alike`: stores that no reader can tell apart.
* `Store.answersAbove`: what is read of the blocks above a cut.
* `Store.Returning`: a store on the way back.

## Theorems

* `Store.Alike.tip?_eq`, `Store.Alike.snapshot_eq`, `Store.Alike.source_eq`: what no reader can tell
  apart.
* `Store.mem_answersAbove`, `Store.exists_readAbove`: the blocks that are read above a cut.
* `Store.Returning.connect`, `Store.Returning.connects`: one block, and blocks in a row.
* `Store.Returning.alike`: the way back is complete with the last block.
* `Store.reconnect_restores`: the blocks above a cut, connected again in any order.
-/

namespace ChainCheckpoints

namespace Store

variable {s t : Store} {k : UInt64} {x : Digest} {b : Block}
  {read back blocks : List Block}

/-- No reader can tell the two stores apart. -/
structure Alike (t s : Store) : Prop where
  mainAt : ∀ h : UInt64, t.mainAt[h]? = s.mainAt[h]?
  heights : ∀ x : Digest, t.heights[x]? = s.heights[x]?
  block : ∀ x, t.block x = s.block x
  readable : t.readable = s.readable

/-- There is only one error for a block that is missing. -/
theorem block_eq_of_iff (h : ∀ b, t.block x = .ok b ↔ s.block x = .ok b) : t.block x = s.block x := by
  rcases hs : s.blocks[x]? with _ | d
  · rcases ht : t.blocks[x]? with _ | e
    · rw [block_of_none hs, block_of_none ht]
    · have hread := (h _).1 (block_eq_ok_iff.2 ⟨e, ht, rfl⟩)
      rw [block_of_none hs] at hread
      cases hread
  · have hread := block_eq_ok_iff.2 ⟨d, hs, rfl⟩
    exact ((h _).2 hread).trans hread.symm

theorem Alike.tip?_eq (h : t.Alike s) : t.tip? = s.tip? := by
  refine Option.ext ?_
  intro tip
  simp only [tip?_eq_some_iff, h.mainAt]

theorem Alike.contains_eq (h : t.Alike s) (x : Digest) : t.blocks.contains x = s.blocks.contains x := by
  rw [Bool.eq_iff_iff, ← exists_block_iff, ← exists_block_iff, h.block]

theorem Alike.header_eq (h : t.Alike s) (x : Digest) : t.header x = s.header x := by
  rw [header_eq_map_block, header_eq_map_block, h.block]

/-- All five answers are the same, for every argument. -/
theorem Alike.snapshot_eq (h : t.Alike s) : t.snapshot = s.snapshot := by
  have hmain : t.snapshot.isMain = s.snapshot.isMain := by
    funext x
    show Except.ok (t.heights.contains x) = Except.ok (s.heights.contains x)
    rw [Std.TreeMap.contains_eq_isSome_getElem?, Std.TreeMap.contains_eq_isSome_getElem?, h.heights]
  have hheight : t.heightOf = s.heightOf := by
    funext x
    unfold heightOf
    rw [h.heights, h.contains_eq]
  have hblock : t.block = s.block := funext h.block
  have hheader : t.header = s.header := funext h.header_eq
  have hat : t.headerAt = s.headerAt := by
    funext height
    unfold headerAt
    rw [h.mainAt, hheader]
  rw [Snapshot.mk.injEq]
  exact ⟨hmain, hheight, hblock, hheader, hat⟩

theorem Alike.source_eq (h : t.Alike s) : t.source = s.source := by
  unfold source
  rw [h.readable, h.snapshot_eq]

/-- The answers that a reader gets who asks for the blocks of the main chain above a height, lowest
    first. -/
def answersAbove (s : Store) (k : UInt64) : List (Except ReadError Block) :=
  (s.above k).map fun entry => s.snapshot.block entry.2

theorem mem_answersAbove {answer : Except ReadError Block} : answer ∈ s.answersAbove k ↔
    ∃ (h : UInt64) (x : Digest), k + 1 ≤ h ∧ s.mainAt[h]? = some x ∧ s.block x = answer := by
  unfold answersAbove
  rw [List.mem_map]
  constructor
  · rintro ⟨⟨h, x⟩, hentry, hx⟩
    rcases mem_above.1 hentry with ⟨hk, hat⟩
    exact ⟨h, x, hk, hat, hx⟩
  · rintro ⟨h, x, hk, hat, hx⟩
    exact ⟨(h, x), mem_above.2 ⟨hk, hat⟩, hx⟩

/-- If no block above the cut is lost, all of them can be read. -/
theorem exists_readAbove (hheld : ∀ (h : UInt64) (x : Digest), k + 1 ≤ h →
    s.mainAt[h]? = some x → ∃ d, s.blocks[x]? = some d) :
    ∃ read : List Block, s.answersAbove k = read.map .ok := by
  have hall : s.answersAbove k ∈ Set.range (List.map (Except.ok : Block → Except ReadError Block)) := by
    rw [Set.range_list_map]
    intro answer hanswer
    rcases mem_answersAbove.1 hanswer with ⟨h, x, hk, hat, rfl⟩
    rcases hheld h x hk hat with ⟨d, hd⟩
    exact ⟨_, (block_eq_ok_iff.2 ⟨d, hd, rfl⟩).symm⟩
  rcases hall with ⟨read, hread⟩
  exact ⟨read, hread.symm⟩

/-- A block that is read above the cut stands at the height that it is read with. -/
theorem placed_of_readAbove (hkeyed : s.Keyed) (hmirrors : ∀ x, s.Mirrors x)
    (hread : s.answersAbove k = read.map .ok) (hb : b ∈ read) :
    s.mainAt[b.height]? = some b.digest ∧ s.block b.digest = .ok b := by
  have hanswer : .ok b ∈ s.answersAbove k := by
    rw [hread]
    exact List.mem_map_of_mem hb
  rcases mem_answersAbove.1 hanswer with ⟨h, x, _, hat, hx⟩
  obtain rfl : b.digest = x := hkeyed.digest_of_block hx
  have hheight : b.height = h := height_of_block hx (hmirrors b.digest h hat)
  exact ⟨hheight ▸ hat, hx⟩

/-- Every block of the main chain above the cut is among those that are read. -/
theorem mem_readAbove (hkeyed : s.Keyed) {j : UInt64} (hread : s.answersAbove k = read.map .ok)
    (hj : k + 1 ≤ j) (hx : s.mainAt[j]? = some x) : ∃ b ∈ read, b.digest = x := by
  have hanswer : s.block x ∈ read.map .ok := by
    rw [← hread]
    exact mem_answersAbove.2 ⟨j, x, hj, hx, rfl⟩
  rcases List.mem_map.1 hanswer with ⟨b, hb, hok⟩
  exact ⟨b, hb, hkeyed.digest_of_block hok.symm⟩

/-- A store on the way back from a cut. Of what is above the cut it has what belongs to the blocks that
    are back. A block that is read is the one that was read before, since the height that is stored
    with it does not count where the index of the old store has one. -/
structure Returning (s : Store) (k : UInt64) (back : List Block) (t : Store) : Prop where
  mainAt : ∀ (h : UInt64) (x : Digest), t.mainAt[h]? = some x ↔
    s.mainAt[h]? = some x ∧ (h < k + 1 ∨ ∃ b ∈ back, b.digest = x)
  heights : ∀ (x : Digest) (h : UInt64), t.heights[x]? = some h ↔
    s.heights[x]? = some h ∧ (h < k + 1 ∨ ∃ b ∈ back, b.digest = x)
  block : ∀ (x : Digest) (b : Block), s.block x = .ok b ↔
    ∃ d, t.blocks[x]? = some d ∧ b = { d with height := (s.heights[x]?).getD d.height }
  readable : t.readable = s.readable

/-- Right after the cut nothing is back. -/
theorem returning_cutAbove (hbacked : s.Backed) (hmirrors : ∀ x, s.Mirrors x) (k : UInt64) :
    s.Returning k [] (s.cutAbove k) where
  mainAt h x := by
    rw [mainAt_cutAbove, Option.ite_none_right_eq_some]
    simp only [List.not_mem_nil, false_and, exists_false, or_false, and_comm]
  heights x h := by
    rw [heights_cutAbove_eq_some_iff]
    simp only [List.not_mem_nil, false_and, exists_false, or_false]
    constructor
    · rintro ⟨hall, hx⟩
      exact ⟨hx, hall h (hbacked x h hx)⟩
    · rintro ⟨hx, hle⟩
      refine ⟨?_, hx⟩
      -- The block has no entry but the one at its height.
      intro j hj
      have hsame := hmirrors x j hj
      rw [hx, Option.some.injEq] at hsame
      exact hsame ▸ hle
  block x b := block_eq_ok_iff
  readable := rfl

/-- A block that stands in the main chain of the old store comes back as it was read there. -/
theorem Returning.connect (h : s.Returning k back t) (hmirrors : ∀ x, s.Mirrors x)
    (hat : s.mainAt[b.height]? = some b.digest) (hread : s.block b.digest = .ok b) :
    s.Returning k (back ++ [b]) (t.connect b) := by
  have hheight : s.heights[b.digest]? = some b.height := hmirrors b.digest b.height hat
  -- What is back with one more block: the block itself, and what was back before.
  have hback (y : Digest) : (∃ c ∈ back ++ [b], c.digest = y) ↔
      b.digest = y ∨ ∃ c ∈ back, c.digest = y := by
    simp only [List.mem_append, List.mem_singleton, or_and_right, exists_or, exists_eq_left, or_comm]
  constructor
  · intro j y
    rw [mainAt_connect, hback]
    by_cases hj : b.height = j
    · rw [if_pos hj, ← hj, hat]
      simp only [Option.some.injEq]
      constructor
      · intro hy
        exact ⟨hy, .inr (.inl hy)⟩
      · exact And.left
    · rw [if_neg hj, h.mainAt]
      refine and_congr_right ?_
      intro hy
      -- At another height there is another block, since this one has one height only.
      have hne : b.digest ≠ y := by
        rintro rfl
        have hsame := hmirrors b.digest j hy
        rw [hheight, Option.some.injEq] at hsame
        exact hj hsame
      simp only [hne, false_or]
  · intro y j
    rw [heights_connect, hback]
    by_cases hy : b.digest = y
    · rw [if_pos hy, ← hy, hheight]
      simp only [true_or, or_true, and_true]
    · -- The place that the block takes is empty, or it has been there before.
      have hfree : t.mainAt[b.height]? ≠ some y := by
        intro hother
        have hsame := ((h.mainAt b.height y).1 hother).1
        rw [hat, Option.some.injEq] at hsame
        exact hy hsame
      rw [if_neg hy, if_neg hfree, h.heights]
      simp only [hy, false_or]
  · intro y e
    rw [blocks_connect]
    by_cases hy : b.digest = y
    · rw [if_pos hy, ← hy, hread, hheight]
      simp only [Except.ok.injEq, Option.some.injEq, Option.getD_some, exists_eq_left']
      exact eq_comm
    · rw [if_neg hy]
      exact h.block y e
  · exact h.readable

theorem Returning.connects (h : s.Returning k back t) (hmirrors : ∀ x, s.Mirrors x)
    (hblocks : ∀ b ∈ blocks, s.mainAt[b.height]? = some b.digest ∧ s.block b.digest = .ok b) :
    s.Returning k (back ++ blocks) (blocks.foldl Store.connect t) := by
  induction blocks generalizing back t with
  | nil =>
    rw [List.append_nil]
    exact h
  | cons b blocks ih =>
    rcases hblocks b List.mem_cons_self with ⟨hat, hread⟩
    have hrest : ∀ c ∈ blocks, s.mainAt[c.height]? = some c.digest ∧ s.block c.digest = .ok c := by
      intro c hc
      exact hblocks c (List.mem_cons_of_mem b hc)
    have hnext := ih (h.connect hmirrors hat hread) hrest
    rw [List.append_assoc, List.singleton_append] at hnext
    exact hnext

/-- The way back is complete with the last block above the cut. -/
theorem Returning.alike (h : s.Returning k back t) (hbacked : s.Backed)
    (hall : ∀ (j : UInt64) (x : Digest), k + 1 ≤ j → s.mainAt[j]? = some x →
      ∃ b ∈ back, b.digest = x) : t.Alike s := by
  have hreturned : ∀ (j : UInt64) (x : Digest), s.mainAt[j]? = some x →
      j < k + 1 ∨ ∃ b ∈ back, b.digest = x := by
    intro j x hx
    by_cases hlt : j < k + 1
    · exact .inl hlt
    · exact .inr (hall j x (UInt64.not_lt.1 hlt) hx)
  have hheights : ∀ x : Digest, t.heights[x]? = s.heights[x]? := by
    intro x
    refine Option.ext ?_
    intro j
    rw [h.heights]
    refine and_iff_left_of_imp ?_
    intro hx
    exact hreturned j x (hbacked x j hx)
  refine ⟨?_, hheights, ?_, h.readable⟩
  · intro j
    refine Option.ext ?_
    intro x
    rw [h.mainAt]
    exact and_iff_left_of_imp (hreturned j x)
  · intro x
    refine block_eq_of_iff ?_
    intro b
    rw [h.block, block_eq_ok_iff, hheights]

/-- The main chain above a height is cut off, after its blocks have been read, and they are connected
    again in any order. If no block has ever been put at a second height, and none of them has been
    lost, all of them can be read, and the tip, whether a snapshot can be taken, and all its answers
    are as before. A cut at the highest height of all takes away more than what is above it. -/
theorem reconnect_restores (writes : List Write) (k : UInt64) (hsingle : ∀ x, Single x empty writes)
    (hbound : k.toNat + 1 < UInt64.size) :
    let s := writes.foldl write empty
    (∀ (h : UInt64) (x : Digest), k < h → s.mainAt[h]? = some x → ∃ d, s.blocks[x]? = some d) →
      ∃ read : List Block, s.answersAbove k = read.map .ok ∧
        ∀ blocks : List Block, blocks.Perm read →
          let after := blocks.foldl Store.connect (s.cutAbove k)
          after.tip? = s.tip? ∧ after.source = s.source ∧ after.snapshot = s.snapshot := by
  intro s hheld
  have hkeyed : s.Keyed := keyed_empty.writes writes
  have hbacked : s.Backed := backed_empty.writes writes
  have hmirrors : ∀ x, s.Mirrors x := fun x => (mirrors_empty x).writes (hsingle x)
  have hcut : ∀ (h : UInt64) (x : Digest), k + 1 ≤ h → s.mainAt[h]? = some x →
      ∃ d, s.blocks[x]? = some d := by
    intro h x hle
    exact hheld h x ((next_le_iff hbound).1 hle)
  rcases exists_readAbove hcut with ⟨read, hread⟩
  refine ⟨read, hread, ?_⟩
  intro blocks hperm after
  have hreturning : s.Returning k ([] ++ blocks) after := by
    refine (returning_cutAbove hbacked hmirrors k).connects hmirrors ?_
    intro b hb
    exact placed_of_readAbove hkeyed hmirrors hread (hperm.mem_iff.1 hb)
  have halike : after.Alike s := by
    refine hreturning.alike hbacked ?_
    intro j x hj hx
    rcases mem_readAbove hkeyed hread hj hx with ⟨b, hb, hdigest⟩
    exact ⟨b, hperm.mem_iff.2 hb, hdigest⟩
  exact ⟨halike.tip?_eq, halike.source_eq, halike.snapshot_eq⟩

/-- Two blocks are connected, and then a block with the header of the second one is kept aside that
    claims to stand far above. The second one is read at its height nevertheless, and connected again
    before the first. -/
theorem reconnect_restores_backwards :
    let first : Block := { height := 1 }
    let second : Block := { header := { nonce := 1 }, height := 2 }
    let writes : List Write := [.connect first, .connect second, .addSide { second with height := 9 }]
    let s := writes.foldl write empty
    (∀ x, Single x empty writes) ∧
      (∀ (h : UInt64) (x : Digest), 0 < h → s.mainAt[h]? = some x → ∃ d, s.blocks[x]? = some d) ∧
      (0 : UInt64).toNat + 1 < UInt64.size ∧
      ∃ read : List Block, s.answersAbove 0 = read.map .ok ∧
        (read.reverse.foldl Store.connect (s.cutAbove 0)).tip? = s.tip? ∧
        (read.reverse.foldl Store.connect (s.cutAbove 0)).source = s.source ∧
        (read.reverse.foldl Store.connect (s.cutAbove 0)).snapshot = s.snapshot := by
  intro first second writes s
  have hdistinct : first.digest ≠ second.digest := by decide +kernel
  have hsingle : ∀ x, Single x empty writes := by
    intro x
    refine ⟨?_, ?_, not_false, trivial⟩
    · rintro ⟨_, h, hx, _⟩
      rw [mainAt_empty] at hx
      cases hx
    · rintro ⟨rfl, h, hx, _⟩
      -- Only the first block stands anywhere so far.
      rw [write, mainAt_connect, mainAt_empty, Option.ite_none_right_eq_some,
        Option.some.injEq] at hx
      exact hdistinct hx.2
  have hheld : ∀ (h : UInt64) (x : Digest), 0 < h → s.mainAt[h]? = some x →
      ∃ d, s.blocks[x]? = some d := by
    intro h x _ hx
    have hx : ((empty.connect first).connect second).mainAt[h]? = some x := hx
    rw [mainAt_connect, mainAt_connect, mainAt_empty] at hx
    by_cases hsecond : second.digest = x
    · exact ⟨_, (blocks_addSide _ _ x).trans (if_pos hsecond)⟩
    · have hfirst : first.digest = x := by
        split at hx
        · exact absurd (Option.some.inj hx) hsecond
        · exact Option.some.inj (Option.ite_none_right_eq_some.1 hx).2
      refine ⟨first, ?_⟩
      refine (blocks_addSide _ _ x).trans ((if_neg hsecond).trans ?_)
      rw [write, write, blocks_connect, if_neg hsecond, blocks_connect, if_pos hfirst]
  rcases reconnect_restores writes 0 hsingle (by decide) hheld with ⟨read, hread, hrestored⟩
  exact ⟨hsingle, hheld, by decide, read, hread, hrestored read.reverse (List.reverse_perm read)⟩

end Store

end ChainCheckpoints
