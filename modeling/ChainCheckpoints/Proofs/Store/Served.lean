import ChainCheckpoints.Blueprint
import ChainCheckpoints.Proofs.Store.Answers

/-!
# What Was Connected Is Served

A writer who connects blocks of different heights and different digests takes nothing away. A block
gives way only to another one at its height, and is moved only by a block with its own digest, so
each new block finds its place empty and its digest unknown. What has been connected is then all
that there is: the main chain runs through these blocks, in whatever order they came, and through no
others.

A list that starts at height zero and leaves no height out is served by position. The height that is
asked for is the position in the list, and above the last block there is nothing.

## Main definitions

* `Store.RunsThrough`: a store whose main chain is made of the given blocks.
* `Store.Serves`: a store that answers by the positions of a list.

## Theorems

* `Store.RunsThrough.connect`: a block at a new height and with a new digest.
* `Store.runsThrough_ofChain`: blocks of different heights and digests.
* `Store.RunsThrough.serves`: the answers about a list without gaps.
-/

namespace ChainCheckpoints

namespace Store

variable {s : Store} {front blocks : List Block} {b : Block} {n : Nat}

/-- The main chain runs through these blocks and no others, each at the height that it claims, and
    each is held as it is. -/
structure RunsThrough (s : Store) (blocks : List Block) : Prop where
  mainAt : ∀ (h : UInt64) (x : Digest),
    s.mainAt[h]? = some x ↔ ∃ b ∈ blocks, b.height = h ∧ b.digest = x
  heights : ∀ (x : Digest) (h : UInt64),
    s.heights[x]? = some h ↔ ∃ b ∈ blocks, b.height = h ∧ b.digest = x
  held : ∀ b ∈ blocks, s.blocks[b.digest]? = some b
  readable : s.readable = true

theorem runsThrough_empty : empty.RunsThrough [] where
  mainAt h x := by simp only [mainAt_empty, reduceCtorEq, List.not_mem_nil, false_and, exists_false]
  heights x h := by
    simp only [heights_empty, reduceCtorEq, List.not_mem_nil, false_and, exists_false]
  held b hb := absurd hb List.not_mem_nil
  readable := rfl

/-- Of a block at the end of a list, and of the blocks before it. -/
theorem exists_mem_concat {P : Block → Prop} :
    (∃ c ∈ blocks ++ [b], P c) ↔ P b ∨ ∃ c ∈ blocks, P c := by
  simp only [List.mem_append, List.mem_singleton, or_and_right, exists_or, exists_eq_left, or_comm]

/-- A block at a new height and with a new digest takes nothing away. -/
theorem RunsThrough.connect (h : s.RunsThrough blocks)
    (hheight : ∀ c ∈ blocks, c.height ≠ b.height) (hdigest : ∀ c ∈ blocks, c.digest ≠ b.digest) :
    (s.connect b).RunsThrough (blocks ++ [b]) where
  mainAt k x := by
    rw [mainAt_connect, exists_mem_concat]
    by_cases hk : b.height = k
    · -- There was nothing at this height.
      have hnone : ¬ ∃ c ∈ blocks, c.height = k ∧ c.digest = x := by
        rintro ⟨c, hc, hck, _⟩
        exact hheight c hc (hck.trans hk.symm)
      rw [if_pos hk, Option.some.injEq]
      simp only [hk, true_and, hnone, or_false]
    · rw [if_neg hk, h.mainAt]
      simp only [hk, false_and, false_or]
  heights x k := by
    rw [heights_connect, exists_mem_concat]
    by_cases hx : b.digest = x
    · have hnone : ¬ ∃ c ∈ blocks, c.height = k ∧ c.digest = x := by
        rintro ⟨c, hc, _, hcx⟩
        exact hdigest c hc (hcx.trans hx.symm)
      rw [if_pos hx, Option.some.injEq]
      simp only [hx, and_true, hnone, or_false]
    · have hfree : s.mainAt[b.height]? ≠ some x := by
        intro hat
        rcases (h.mainAt _ _).1 hat with ⟨c, hc, hcheight, _⟩
        exact hheight c hc hcheight
      rw [if_neg hx, if_neg hfree, h.heights]
      simp only [hx, and_false, false_or]
  held c hc := by
    rw [blocks_connect]
    rcases List.mem_append.1 hc with hold | hnew
    · rw [if_neg (hdigest c hold).symm]
      exact h.held c hold
    · rw [List.mem_singleton.1 hnew, if_pos rfl]
  readable := h.readable

theorem RunsThrough.connects (h : s.RunsThrough front)
    (hheights : (front ++ blocks).Pairwise (·.height ≠ ·.height))
    (hdigests : (front ++ blocks).Pairwise (·.digest ≠ ·.digest)) :
    (blocks.foldl Store.connect s).RunsThrough (front ++ blocks) := by
  induction blocks generalizing front s with
  | nil =>
    rw [List.append_nil]
    exact h
  | cons b blocks ih =>
    have hnext : front ++ b :: blocks = (front ++ [b]) ++ blocks := by
      rw [List.append_assoc, List.singleton_append]
    have hheight : ∀ c ∈ front, c.height ≠ b.height := by
      intro c hc
      exact (List.pairwise_append.1 hheights).2.2 c hc b List.mem_cons_self
    have hdigest : ∀ c ∈ front, c.digest ≠ b.digest := by
      intro c hc
      exact (List.pairwise_append.1 hdigests).2.2 c hc b List.mem_cons_self
    rw [hnext] at hheights hdigests ⊢
    exact ih (h.connect hheight hdigest) hheights hdigests

/-- Blocks of different heights and different digests are all in the main chain in the end. -/
theorem runsThrough_ofChain (hheights : blocks.Pairwise (·.height ≠ ·.height))
    (hdigests : blocks.Pairwise (·.digest ≠ ·.digest)) : (ofChain blocks).RunsThrough blocks :=
  runsThrough_empty.connects hheights hdigests

/-- A snapshot can be taken, and answers by the positions in the list: the block at a height is the
    one at that position, and above the list there is none. The last block is the tip. -/
structure Serves (s : Store) (blocks : List Block) : Prop where
  source : s.source = .ok s.snapshot
  headerAt : ∀ h : UInt64, s.snapshot.headerAt h =
    (blocks[h.toNat]?).elim (.error (.notFound (.headerAt h))) fun b => .ok b.header
  heightOf : ∀ n (hn : n < blocks.length), s.snapshot.heightOf blocks[n].digest = .ok (.ofNat n)
  block : ∀ n (hn : n < blocks.length), s.snapshot.block blocks[n].digest = .ok blocks[n]
  /-- Nothing else is in the main chain. -/
  isMain : ∀ x, s.snapshot.isMain x = .ok (blocks.any (·.digest = x))
  tip : s.tip? = blocks.getLast?.map fun b => { height := b.height, digest := b.digest }

theorem RunsThrough.mainAt_of_mem (h : s.RunsThrough blocks) (hb : b ∈ blocks) :
    s.mainAt[b.height]? = some b.digest :=
  (h.mainAt b.height b.digest).2 ⟨b, hb, rfl, rfl⟩

theorem RunsThrough.heights_of_mem (h : s.RunsThrough blocks) (hb : b ∈ blocks) :
    s.heights[b.digest]? = some b.height :=
  (h.heights b.digest b.height).2 ⟨b, hb, rfl, rfl⟩

theorem RunsThrough.block_of_mem (h : s.RunsThrough blocks) (hb : b ∈ blocks) :
    s.block b.digest = .ok b := by
  refine block_eq_ok_iff.2 ⟨b, h.held b hb, ?_⟩
  rw [h.heights_of_mem hb, Option.getD_some]

theorem RunsThrough.isMain (h : s.RunsThrough blocks) (x : Digest) :
    s.snapshot.isMain x = .ok (blocks.any (·.digest = x)) := by
  by_cases hx : ∃ b ∈ blocks, b.digest = x
  · have hany : blocks.any (·.digest = x) = true := by
      rcases hx with ⟨b, hb, hbx⟩
      exact List.any_eq_true.2 ⟨b, hb, decide_eq_true hbx⟩
    rcases hx with ⟨b, hb, rfl⟩
    rw [hany]
    exact isMain_iff.2 ⟨b.height, h.heights_of_mem hb⟩
  · have hany : blocks.any (·.digest = x) = false := by
      rw [List.any_eq_false]
      intro b hb hbx
      exact hx ⟨b, hb, of_decide_eq_true hbx⟩
    have hnone : s.heights[x]? = none := by
      rw [Option.eq_none_iff_forall_ne_some]
      intro k hk
      rcases (h.heights x k).1 hk with ⟨b, hb, _, hbx⟩
      exact hx ⟨b, hb, hbx⟩
    rw [hany]
    exact isMain_of_none hnone

section Positions

-- No height is left out: the blocks stand at the positions of their heights.
variable (hheight : ∀ n (hn : n < blocks.length), blocks[n].height.toNat = n)

include hheight

theorem getElem?_height (hb : b ∈ blocks) : blocks[b.height.toNat]? = some b := by
  rcases List.mem_iff_getElem.1 hb with ⟨n, hn, rfl⟩
  rw [hheight n hn]
  exact List.getElem?_eq_getElem hn

theorem height_le_getLast (hne : blocks ≠ []) (hb : b ∈ blocks) :
    b.height ≤ (blocks.getLast hne).height := by
  rcases List.mem_iff_getElem.1 hb with ⟨n, hn, rfl⟩
  rw [UInt64.le_iff_toNat_le, List.getLast_eq_getElem, hheight, hheight]
  omega

theorem RunsThrough.headerAt (h : s.RunsThrough blocks) (k : UInt64) :
    s.headerAt k = (blocks[k.toNat]?).elim (.error (.notFound (.headerAt k))) fun b =>
      .ok b.header := by
  rcases hat : s.mainAt[k]? with _ | x
  · have hnone : blocks[k.toNat]? = none := by
      rcases hk : blocks[k.toNat]? with _ | b
      · rfl
      · rcases List.getElem?_eq_some_iff.1 hk with ⟨hn, rfl⟩
        have hmain := h.mainAt_of_mem (List.getElem_mem hn)
        rw [UInt64.toNat_inj.1 (hheight _ hn), hat] at hmain
        cases hmain
    rw [hnone]
    simp only [Store.headerAt, hat, Option.elim_none]
  · rcases (h.mainAt k x).1 hat with ⟨b, hb, rfl, rfl⟩
    rw [getElem?_height hheight hb, Option.elim_some]
    exact headerAt_eq_ok_iff.2 ⟨b.digest, b, hat, h.held b hb, rfl⟩

theorem RunsThrough.tip?_eq (h : s.RunsThrough blocks) :
    s.tip? = blocks.getLast?.map fun b => { height := b.height, digest := b.digest } := by
  refine Option.ext ?_
  intro t
  rw [tip?_eq_some_iff, h.mainAt, Option.map_eq_some_iff]
  constructor
  · rintro ⟨⟨b, hb, hbheight, hbdigest⟩, hhighest⟩
    have hne : blocks ≠ [] := List.ne_nil_of_mem hb
    have hlast : blocks.getLast hne ∈ blocks := List.getLast_mem hne
    have hle : (blocks.getLast hne).height ≤ t.height := by
      refine hhighest _ ?_
      rw [h.mainAt_of_mem hlast, Option.isSome_some]
    -- Neither is above the other, and there is one block at a height.
    have hsame : b.height = (blocks.getLast hne).height :=
      UInt64.le_antisymm (height_le_getLast hheight hne hb) (hbheight ▸ hle)
    have hat := getElem?_height hheight hb
    rw [hsame, getElem?_height hheight hlast, Option.some.injEq] at hat
    refine ⟨b, ?_, ?_⟩
    · rw [← hat]
      exact List.getLast?_eq_some_getLast hne
    · rw [hbheight, hbdigest]
  · rintro ⟨b, hlast, rfl⟩
    have hne : blocks ≠ [] := List.ne_nil_of_mem (List.mem_of_getLast? hlast)
    rw [List.getLast?_eq_some_getLast hne, Option.some.injEq] at hlast
    rw [← hlast]
    refine ⟨⟨_, List.getLast_mem hne, rfl, rfl⟩, ?_⟩
    intro k hk
    rcases Option.isSome_iff_exists.1 hk with ⟨x, hx⟩
    rcases (h.mainAt k x).1 hx with ⟨c, hc, rfl, _⟩
    exact height_le_getLast hheight hne hc

theorem RunsThrough.serves (h : s.RunsThrough blocks) : s.Serves blocks where
  source := by
    rw [Store.source, h.readable, if_pos rfl]
  headerAt := h.headerAt hheight
  heightOf n hn := by
    have hmem : blocks[n] ∈ blocks := List.getElem_mem hn
    have hn' : UInt64.ofNat n = blocks[n].height := by
      rw [← UInt64.ofNat_toNat (x := blocks[n].height), hheight n hn]
    rw [hn']
    exact heightOf_eq_ok_iff.2 (h.heights_of_mem hmem)
  block n hn := h.block_of_mem (List.getElem_mem hn)
  isMain := h.isMain
  tip := h.tip?_eq hheight

end Positions

end Store

end ChainCheckpoints
