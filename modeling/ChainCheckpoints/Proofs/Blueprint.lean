import ChainCheckpoints.Proofs.Chain.Ancestors
import ChainCheckpoints.Proofs.Store.Served

/-!
# Chains Made to Order

A blueprint may order any timestamps and any transactions, the same ones for all heights if it
likes. Still no two headers of a chain are alike: the nonce is the height mixed with something that
does not depend on it, so it can be unmixed again, and different heights have different nonces. A
store takes blocks by the digests of their headers, so it keeps two blocks of a chain apart unless
the hash does not, and then two layouts of this chain break the hash.

So a chain that is connected from the first block to the last is in the store as it was built. None
of its blocks gives way to a later one, and the store answers by the positions in the chain.

## Main definitions

* `Blueprint.Built`: a chain as a blueprint has it built.

## Theorems

* `Blueprint.nonceAt_inj`: heights are told apart by their nonces.
* `Blueprint.exists_blockAt`: the block at a position.
* `Blueprint.nonce_eq`: the nonce of a block comes from its height.
* `Blueprint.built_build`: what is built.
* `Blueprint.collides_or_apart`: the digests of a chain are different, or the hash is broken.
* `Blueprint.build_served`: what a store serves that has been given a chain.
-/

namespace ChainCheckpoints

namespace Blueprint

variable {p : Blueprint} {count tip i n : Nat}

/-- Heights are told apart by their nonces, whatever the salt is. -/
theorem nonceAt_inj {h h' : UInt64} (heq : p.nonceAt h = p.nonceAt h') : h = h' := by
  unfold nonceAt at heq
  exact (UInt64.xor_left_inj _).1 heq

theorem length_extend (p : Blueprint) (parent : Digest) (height count : Nat) :
    (p.extend parent height count).length = count := by
  induction count generalizing parent height with
  | zero => rfl
  | succ count ih => rw [extend, List.length_cons, ih]

theorem length_build (p : Blueprint) (tip : Nat) : (p.build tip).length = tip + 1 :=
  p.length_extend .zero 0 (tip + 1)

theorem exists_blockAt_extend (p : Blueprint) (parent : Digest) (height : Nat) (hi : i < count) :
    ∃ below : Digest,
      (p.extend parent height count)[i]? = some (p.blockAt below (.ofNat (height + i))) := by
  induction count generalizing parent height i with
  | zero => omega
  | succ count ih =>
    unfold extend
    cases i with
    | zero => exact ⟨parent, rfl⟩
    | succ i =>
      rcases ih (p.blockAt parent (.ofNat height)).digest (height + 1)
        (Nat.lt_of_succ_lt_succ hi) with ⟨below, hbelow⟩
      refine ⟨below, ?_⟩
      rw [List.getElem?_cons_succ, hbelow, Nat.add_right_comm, Nat.add_assoc]

/-- The block at a position is the one for that height, on top of some block. -/
theorem exists_blockAt (hn : n < (p.build tip).length) :
    ∃ below : Digest, (p.build tip)[n] = p.blockAt below (.ofNat n) := by
  have hlt : n < tip + 1 := by
    rw [← p.length_build tip]
    exact hn
  rcases p.exists_blockAt_extend .zero 0 hlt with ⟨below, hbelow⟩
  refine ⟨below, ?_⟩
  rw [Nat.zero_add] at hbelow
  exact (List.getElem?_eq_some_iff.1 hbelow).2

theorem nonce_eq (hn : n < (p.build tip).length) :
    (p.build tip)[n].header.nonce = p.nonceAt (p.build tip)[n].height := by
  rcases exists_blockAt hn with ⟨below, hblock⟩
  rw [hblock]
  rfl

/-- A chain as a blueprint has it built. Where nothing is ordered, the timestamps are evenly spaced
    and none of them wraps around. -/
structure Built (p : Blueprint) (tip : Nat) (blocks : List Block) : Prop where
  length : blocks.length = tip + 1
  height : ∀ n (hn : n < blocks.length), blocks[n].height.toNat = n
  first : ∀ b ∈ blocks.head?, b.header.parent = .zero
  linked : Block.Linked blocks
  merkleRoot : ∀ b ∈ blocks, b.header.merkleRoot = b.merkleRoot
  timestamp : ∀ n (hn : n < blocks.length), ordered? p.timestamps (.ofNat n) = none →
    blocks[n].header.timestamp.toNat = startTime.toNat + n * spacing.toNat

theorem Built.position_eq {blocks : List Block} (hbuilt : p.Built tip blocks) {j : Nat}
    (hi : i < blocks.length) (hj : j < blocks.length) (h : blocks[i].height = blocks[j].height) :
    i = j := by
  have hposition := congrArg UInt64.toNat h
  rw [hbuilt.height i hi, hbuilt.height j hj] at hposition
  exact hposition

/-- If the time of the last block fits into a word, so do the times and the heights below it. -/
theorem time_lt (h : startTime.toNat + tip * spacing.toNat < UInt64.size) (hn : n ≤ tip) :
    startTime.toNat + n * spacing.toNat < UInt64.size ∧ n < UInt64.size := by
  have hspacing : spacing.toNat = 600 := rfl
  rw [hspacing] at h ⊢
  omega

theorem toNat_evenTime (h : startTime.toNat + n * spacing.toNat < UInt64.size)
    (hn : n < UInt64.size) :
    (startTime + .ofNat n * spacing).toNat = startTime.toNat + n * spacing.toNat := by
  have hword : (UInt64.ofNat n).toNat = n := UInt64.toNat_ofNat_of_lt' hn
  have hspaced : n * spacing.toNat < UInt64.size := by omega
  have hproduct : (UInt64.ofNat n * spacing).toNat = n * spacing.toNat := by
    rw [UInt64.toNat_mul, hword]
    exact Nat.mod_eq_of_lt hspaced
  rw [UInt64.toNat_add, hproduct]
  exact Nat.mod_eq_of_lt h

theorem built_build (p : Blueprint) (h : startTime.toNat + tip * spacing.toNat < UInt64.size) :
    p.Built tip (p.build tip) where
  length := p.length_build tip
  height n hn := by
    rcases exists_blockAt hn with ⟨below, hblock⟩
    rw [length_build] at hn
    rw [hblock]
    exact UInt64.toNat_ofNat_of_lt' (time_lt h (Nat.le_of_lt_succ hn)).2
  first b hb := by
    rw [build, extend, List.head?_cons, Option.mem_some] at hb
    rw [← hb]
    rfl
  linked := p.linked_build tip
  merkleRoot b hb := by
    rcases List.mem_iff_getElem.1 hb with ⟨n, hn, rfl⟩
    rcases exists_blockAt hn with ⟨below, hblock⟩
    rw [hblock]
    rfl
  timestamp n hn hnone := by
    rcases exists_blockAt hn with ⟨below, hblock⟩
    rw [length_build] at hn
    rcases time_lt h (Nat.le_of_lt_succ hn) with ⟨htime, hword⟩
    have hunordered : p.timestampAt (.ofNat n) = startTime + .ofNat n * spacing := by
      rw [timestampAt, hnone, Option.getD_none]
    rw [hblock, ← toNat_evenTime htime hword, ← hunordered]
    rfl

/-- Two headers of a chain are different, since their nonces are. -/
theorem header_ne (hbuilt : p.Built tip (p.build tip)) {j : Nat} (hi : i < (p.build tip).length)
    (hj : j < (p.build tip).length) (hij : i ≠ j) :
    (p.build tip)[i].header ≠ (p.build tip)[j].header := by
  intro hsame
  have hnonce := congrArg Header.nonce hsame
  rw [nonce_eq hi, nonce_eq hj] at hnonce
  exact hij (hbuilt.position_eq hi hj (nonceAt_inj hnonce))

/-- The digests of a chain are different, or two of its headers break the hash. -/
theorem collides_or_apart (hbuilt : p.Built tip (p.build tip)) :
    (∃ (i j : Nat) (hi : i < (p.build tip).length) (hj : j < (p.build tip).length), i < j ∧
        (p.build tip)[i].header.Collides (p.build tip)[j].header) ∨
      (p.build tip).Pairwise (·.digest ≠ ·.digest) := by
  by_cases hcollision : ∃ (i j : Nat) (hi : i < (p.build tip).length)
      (hj : j < (p.build tip).length), i < j ∧
        (p.build tip)[i].header.Collides (p.build tip)[j].header
  · exact .inl hcollision
  · right
    rw [List.pairwise_iff_getElem]
    intro i j hi hj hij hdigest
    rcases Header.eq_or_collides hdigest with hsame | hcollides
    · exact header_ne hbuilt hi hj (Nat.ne_of_lt hij) hsame
    · exact hcollision ⟨i, j, hi, hj, hij, hcollides⟩

/-- A chain is built as ordered, and two of its headers break the hash or a store that it is
    connected to, block by block, serves it by position and serves nothing else. -/
theorem build_served (p : Blueprint) (h : startTime.toNat + tip * spacing.toNat < UInt64.size) :
    let blocks := p.build tip
    p.Built tip blocks ∧
      ((∃ (i j : Nat) (hi : i < blocks.length) (hj : j < blocks.length), i < j ∧
          blocks[i].header.Collides blocks[j].header) ∨
        (Store.ofChain blocks).Serves blocks) := by
  intro blocks
  have hbuilt : p.Built tip blocks := p.built_build h
  refine ⟨hbuilt, (collides_or_apart hbuilt).imp_right ?_⟩
  intro hdigests
  have hheights : blocks.Pairwise (·.height ≠ ·.height) := by
    rw [List.pairwise_iff_getElem]
    intro i j hi hj hij hheight
    exact Nat.ne_of_lt hij (hbuilt.position_eq hi hj hheight)
  exact (Store.runsThrough_ofChain hheights hdigests).serves hbuilt.height

/-- Two blocks are ordered without transactions and at the same time. -/
theorem build_served_of_same_orders :
    let p : Blueprint := {
      salt := 7
      timestamps := [(0, 5), (1, 5)]
      transactions := [(0, []), (1, [])] }
    startTime.toNat + 1 * spacing.toNat < UInt64.size ∧ p.Built 1 (p.build 1) ∧
      (Store.ofChain (p.build 1)).Serves (p.build 1) := by
  intro p
  have htime : startTime.toNat + 1 * spacing.toNat < UInt64.size := by decide
  have hdistinct : (p.build 1).Pairwise (·.digest ≠ ·.digest) := by decide +kernel
  rcases build_served p htime with ⟨hbuilt, ⟨i, j, hi, hj, hij, hcollides⟩ | hserves⟩
  · exact absurd hcollides.digest (List.pairwise_iff_getElem.1 hdistinct i j hi hj hij)
  · exact ⟨htime, hbuilt, hserves⟩

end Blueprint

end ChainCheckpoints
