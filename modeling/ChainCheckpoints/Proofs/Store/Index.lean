import ChainCheckpoints.Proofs.Store.Answers
import ChainCheckpoints.Proofs.Store.Keyed

/-!
# Two Indexes of One Main Chain

A store keeps its main chain twice, by height and by digest, and the two are meant to be inverse to
each other. In one direction they always are. A digest never has a height at which the main chain
does not run through it: whoever takes an entry away by height takes the digest away as well.

In the other direction they need not be. The height is no part of a digest, so a block may be
connected again at another height. Its old entry by height stays, and the index by digest knows the
new one only. From then on the main chain runs through the block at a height that its digest does
not have; and if the new entry is taken over by another block or cut off, the digest has no height
at all, while the old entry is still there and may even be the tip.

Nothing else can do this. A block is safe through any history that never puts it at a second height,
whatever happens to the other blocks, and it is at odds right after the first write that does.

## Main definitions

* `Store.Backed`: what the index by digest says, the one by height says too.
* `Store.Mirrors`: what the index by height says of a block, the one by digest says too.
* `Store.Consistent`: the same as a reader sees it.
* `Store.Doubles`, `Store.Single`: a write, and a history without one, that puts a block at a second
  height.

## Theorems

* `Store.Backed.write`, `Store.Backed.writes`: writes keep the index by digest backed.
* `Store.Mirrors.write`, `Store.Mirrors.writes`: writes that do not double a block keep its mirror.
* `Store.Mirrors.consistent`: a reader finds the indexes consistent about a mirrored block.
* `Store.Doubles.not_consistent`: and at odds right after a write that doubles it.
* `Store.consistent_throughout_iff`: the histories without such a moment.
-/

namespace ChainCheckpoints

namespace Store

variable {s : Store} {x : Digest} {b : Block}

/-- Every height by digest is backed by the entry at that height. -/
def Backed (s : Store) : Prop :=
  ∀ (x : Digest) (h : UInt64), s.heights[x]? = some h → s.mainAt[h]? = some x

theorem backed_empty : empty.Backed := by
  intro x h hx
  rw [heights_empty] at hx
  cases hx

theorem Backed.connect (h : s.Backed) (b : Block) : (s.connect b).Backed := by
  intro x k hx
  rw [heights_connect] at hx
  rw [mainAt_connect]
  by_cases hb : b.digest = x
  · rw [if_pos hb, Option.some.injEq] at hx
    rw [if_pos hx, hb]
  · rw [if_neg hb, Option.ite_none_left_eq_some] at hx
    -- The block keeps its height, so it is not the one that had to give way.
    have hk : b.height ≠ k := fun heq => hx.1 (heq ▸ h x k hx.2)
    rw [if_neg hk]
    exact h x k hx.2

theorem Backed.cutAbove (h : s.Backed) (k : UInt64) : (s.cutAbove k).Backed := by
  intro x j hx
  rcases heights_cutAbove_eq_some_iff.1 hx with ⟨hall, hj⟩
  have hat : s.mainAt[j]? = some x := h x j hj
  rw [mainAt_cutAbove, if_pos (hall j hat)]
  exact hat

theorem Backed.write (h : s.Backed) (w : Write) : (s.write w).Backed := by
  -- The other writes leave both indexes alone.
  cases w with
  | connect b => exact h.connect b
  | cutAbove k => exact h.cutAbove k
  | addSide _ => exact h
  | drop _ => exact h
  | setReadable _ => exact h

theorem Backed.writes (h : s.Backed) (writes : List Write) : (writes.foldl Store.write s).Backed :=
  writes.foldlRecOn Store.write h fun _ hbacked w _ => hbacked.write w

/-- Every entry of a block by height is mirrored by its height by digest. -/
def Mirrors (s : Store) (x : Digest) : Prop :=
  ∀ h : UInt64, s.mainAt[h]? = some x → s.heights[x]? = some h

theorem mirrors_empty (x : Digest) : empty.Mirrors x := by
  intro h hx
  rw [mainAt_empty] at hx
  cases hx

/-- A write that lets the main chain run through a block at a second height. -/
def Doubles (s : Store) (x : Digest) : Write → Prop
  | .connect b => b.digest = x ∧ ∃ h, s.mainAt[h]? = some x ∧ h ≠ b.height
  | _ => False

/-- No write of a history lets the main chain run through the block at a second height. -/
def Single (x : Digest) : Store → List Write → Prop
  | _, [] => True
  | s, w :: writes => ¬ s.Doubles x w ∧ Single x (s.write w) writes

theorem Mirrors.connect (h : s.Mirrors x) (hb : ¬ s.Doubles x (.connect b)) :
    (s.connect b).Mirrors x := by
  intro k hk
  rw [mainAt_connect] at hk
  rw [heights_connect]
  by_cases hheight : b.height = k
  · rw [if_pos hheight, Option.some.injEq] at hk
    rw [if_pos hk, hheight]
  rw [if_neg hheight] at hk
  by_cases hx : b.digest = x
  -- The block itself is connected, and it stands at another height already.
  · exact absurd ⟨hx, k, hk, fun heq => hheight heq.symm⟩ hb
  -- Another block is connected, and it does not take the place of this one.
  · have hother : s.mainAt[b.height]? ≠ some x := by
      intro hat
      have heq := h b.height hat
      rw [h k hk, Option.some.injEq] at heq
      exact hheight heq.symm
    rw [if_neg hx, if_neg hother]
    exact h k hk

theorem Mirrors.cutAbove (h : s.Mirrors x) (k : UInt64) : (s.cutAbove k).Mirrors x := by
  intro j hj
  rw [mainAt_cutAbove] at hj
  by_cases hle : j < k + 1
  · rw [if_pos hle] at hj
    refine heights_cutAbove_eq_some_iff.2 ⟨fun i hi => ?_, h j hj⟩
    -- The block has one height only, so all its entries are the one below the cut.
    have heq := h i hi
    rw [h j hj, Option.some.injEq] at heq
    exact heq ▸ hle
  · rw [if_neg hle] at hj
    cases hj

theorem Mirrors.write {w : Write} (h : s.Mirrors x) (hw : ¬ s.Doubles x w) :
    (s.write w).Mirrors x := by
  cases w with
  | connect b => exact h.connect hw
  | cutAbove k => exact h.cutAbove k
  | addSide _ => exact h
  | drop _ => exact h
  | setReadable _ => exact h

theorem Mirrors.writes {writes : List Write} (h : s.Mirrors x) (hsingle : Single x s writes) :
    (writes.foldl Store.write s).Mirrors x := by
  induction writes generalizing s with
  | nil => exact h
  | cons w writes ih => exact ih (h.write hsingle.1) hsingle.2

/-- A reader finds that what the index by height says of a block, the one by digest does not
    deny. -/
structure Consistent (s : Store) (x : Digest) : Prop where
  /-- A header that is read at a height is in the main chain, and has that height. -/
  named : ∀ (h : UInt64) (header : Header), s.snapshot.headerAt h = .ok header → header.digest = x →
    s.snapshot.isMain x = .ok true ∧ s.snapshot.heightOf x = .ok h
  once : ∀ h k : UInt64, s.mainAt[h]? = some x → s.mainAt[k]? = some x → h = k
  /-- A cut does not reach below its height. At the highest height of all it would wrap around. -/
  spared : ∀ h k : UInt64, s.mainAt[h]? = some x → h ≤ k → k.toNat + 1 < UInt64.size →
    (s.cutAbove k).snapshot.isMain x = .ok true
  topmost : ∀ tip, s.tip? = some tip → tip.digest = x → s.snapshot.isMain x = .ok true

theorem Mirrors.consistent (h : s.Mirrors x) (hkeyed : s.Keyed) : s.Consistent x where
  named k header hread hdigest := by
    rcases headerAt_eq_ok_iff.1 hread with ⟨y, d, hat, hd, rfl⟩
    -- The block at the height is stored under its own digest.
    have hy : y = x := (hkeyed y d hd).symm.trans hdigest
    have hx : s.heights[x]? = some k := h k (hy ▸ hat)
    exact ⟨isMain_iff.2 ⟨k, hx⟩, heightOf_eq_ok_iff.2 hx⟩
  once j k hj hk := by
    have heq := h j hj
    rw [h k hk, Option.some.injEq] at heq
    exact heq.symm
  spared j k hj hle hbound := by
    have hat : (s.cutAbove k).mainAt[j]? = some x := by
      rw [mainAt_cutAbove, if_pos ((lt_next_iff hbound).2 hle)]
      exact hj
    exact isMain_iff.2 ⟨j, h.cutAbove k j hat⟩
  topmost tip htip hdigest := by
    have hat : s.mainAt[tip.height]? = some x := hdigest ▸ (tip?_eq_some_iff.1 htip).1
    exact isMain_iff.2 ⟨tip.height, h tip.height hat⟩

/-- Right after it has been put at a second height, a block can be read at the first one, where its
    digest does not have it. -/
theorem Doubles.not_consistent {w : Write} (hw : s.Doubles x w) : ¬ (s.write w).Consistent x := by
  cases w with
  | connect b =>
    rcases hw with ⟨rfl, k, hk, hne⟩
    intro hconsistent
    have hat : (s.connect b).mainAt[k]? = some b.digest := by
      rw [mainAt_connect, if_neg hne.symm]
      exact hk
    have hblock : (s.connect b).blocks[b.digest]? = some b := by
      rw [blocks_connect, if_pos rfl]
    have hread : (s.connect b).headerAt k = .ok b.header :=
      headerAt_eq_ok_iff.2 ⟨b.digest, b, hat, hblock, rfl⟩
    have hheight := heightOf_eq_ok_iff.1 (hconsistent.named k b.header hread rfl).2
    rw [write, heights_connect, if_pos rfl, Option.some.injEq] at hheight
    exact hne hheight.symm
  | addSide _ => exact hw.elim
  | cutAbove _ => exact hw.elim
  | drop _ => exact hw.elim
  | setReadable _ => exact hw.elim

theorem Mirrors.throughout_iff (h : s.Mirrors x) (hkeyed : s.Keyed) (writes : List Write) :
    (∀ earlier, earlier <+: writes → (earlier.foldl Store.write s).Consistent x) ↔
      Single x s writes := by
  -- The induction is on the writes that follow, for every store that mirrors the block.
  induction writes generalizing s with
  | nil =>
    simp only [List.prefix_nil, forall_eq, List.foldl_nil, Single, iff_true]
    exact h.consistent hkeyed
  | cons w writes ih =>
    rw [Single]
    constructor
    · intro hall
      have hfirst : (s.write w).Consistent x := hall [w] (List.prefix_append [w] writes)
      have hw : ¬ s.Doubles x w := fun hdoubles => hdoubles.not_consistent hfirst
      refine ⟨hw, (ih (h.write hw) (hkeyed.write w)).1 fun earlier hearlier => ?_⟩
      exact hall (w :: earlier) (List.cons_prefix_cons.2 ⟨rfl, hearlier⟩)
    · rintro ⟨hw, hrest⟩ earlier hearlier
      rcases earlier with _ | ⟨first, earlier⟩
      · exact h.consistent hkeyed
      · rcases List.cons_prefix_cons.1 hearlier with ⟨rfl, htail⟩
        exact (ih (h.write hw) (hkeyed.write first)).2 hrest earlier htail

/-- Throughout a history, the index by digest never denies what the index by height says of a block,
    exactly if no write of it puts the block at a second height. -/
theorem consistent_throughout_iff (writes : List Write) (x : Digest) :
    (∀ earlier, earlier <+: writes → (earlier.foldl write empty).Consistent x) ↔
      Single x empty writes :=
  (mirrors_empty x).throughout_iff keyed_empty writes

/-- A block is connected at heights one and two, and the chain is cut off above one. At height one
    there is still its header, which is not in the main chain then. -/
theorem inconsistent_after_second_height :
    ¬ ∀ (writes : List Write) (h : UInt64) (header : Header),
      let s := writes.foldl write empty
      s.snapshot.headerAt h = .ok header →
        s.snapshot.isMain header.digest = .ok true ∧ s.snapshot.heightOf header.digest = .ok h := by
  intro hall
  let b : Block := { height := 1 }
  let again : Block := { height := 2 }
  let doubled := (empty.connect b).connect again
  have hone : doubled.mainAt[(1 : UInt64)]? = some b.digest := by
    rw [mainAt_connect, if_neg (by decide), mainAt_connect, if_pos rfl]
  have htwo : doubled.mainAt[(2 : UInt64)]? = some b.digest := by
    rw [mainAt_connect, if_pos rfl]
    rfl
  have hread : (doubled.cutAbove 1).headerAt 1 = .ok again.header := by
    refine headerAt_eq_ok_iff.2 ⟨b.digest, again, ?_, ?_, rfl⟩
    · rw [mainAt_cutAbove, if_pos (by decide)]
      exact hone
    · exact (blocks_connect _ again b.digest).trans (if_pos rfl)
  have hmain := (hall [.connect b, .connect again, .cutAbove 1] 1 again.header hread).1
  rcases isMain_iff.1 hmain with ⟨k, hk⟩
  -- The entry at height two is above the cut, and it has taken the digest with it.
  exact absurd ((heights_cutAbove_eq_some_iff.1 hk).1 2 htwo) (by decide)

end Store

end ChainCheckpoints
