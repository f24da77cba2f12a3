import ChainCheckpoints.Proofs.Chain.Ancestors
import ChainCheckpoints.Proofs.Store.Answers

/-!
# Blocks Beside the Main Chain

A block that is kept aside goes into the one map of all blocks and into no index. So the main chain
runs where it ran before, and its tip and the heights of its blocks are the same.

The map is keyed by the digest of the header, and the store takes what its writer gives. Neither the
transactions nor the claimed height go into that digest, and nobody compares the transactions with
the root in the header. So a block with the header of a block of the main chain and other
transactions takes that one's place in the map. The main chain then has the new body at the old
height. All other blocks of the main chain are read as before, and so is this one if the header
and the transactions are the ones that were held.

## Theorems

* `Store.block_addSide`: what is read under a digest after a block has been kept aside.
* `Store.readAgain_addSide`: what becomes of a block of the main chain.
* `Store.addSide_keeps_main_chain`: what a block beside the main chain leaves alone.
* `Store.body_changes_beside`: and what it does not.
-/

namespace ChainCheckpoints

namespace Store

variable {s : Store} {d : Block} {x : Digest}

theorem block_addSide (s : Store) (b : Block) (x : Digest) : (s.addSide b).block x =
    if b.digest = x then .ok { b with height := (s.heights[x]?).getD b.height } else s.block x := by
  unfold block stored
  rw [blocks_addSide]
  by_cases hx : b.digest = x
  · rw [if_pos hx, if_pos hx]
    rfl
  · rw [if_neg hx, if_neg hx]
    rfl

/-- What becomes of a block `d` that is read before another block `b` is kept aside: `e` is read
    afterwards. The height stays, and so does the header unless the hash is broken. All of it stays
    unless the two have one digest and different contents. -/
structure ReadAgain (b d e : Block) : Prop where
  height : e.height = d.height
  header : e.header = d.header ∨ d.header.Collides e.header
  same_iff : e = d ↔ (b.digest = d.digest → b.header = d.header ∧ b.transactions = d.transactions)

/-- A block of the main chain is still read. -/
theorem readAgain_addSide (hkeyed : s.Keyed) (hmain : s.snapshot.isMain x = .ok true)
    (hd : s.block x = .ok d) (b : Block) :
    ∃ e, (s.addSide b).block x = .ok e ∧ ReadAgain b d e := by
  have hdigest : d.digest = x := hkeyed.digest_of_block hd
  rcases isMain_iff.1 hmain with ⟨h, hh⟩
  by_cases hx : b.digest = x
  · -- The new block is read, at the height that the index has for both.
    have hheight : d.height = h := height_of_block hd hh
    refine ⟨{ b with height := h }, ?_, ⟨hheight.symm, ?_, ?_⟩⟩
    · rw [block_addSide, if_pos hx, hh, Option.getD_some]
    · have hsame : d.header.digest = b.header.digest := hdigest.trans hx.symm
      exact (Header.eq_or_collides hsame).imp_left Eq.symm
    · rcases d with ⟨header, transactions, height⟩
      obtain rfl : height = h := hheight
      rw [hx, hdigest, Block.mk.injEq]
      simp only [and_true, forall_const]
  · refine ⟨d, ?_, ⟨rfl, .inl rfl, ?_⟩⟩
    · rw [block_addSide, if_neg hx]
      exact hd
    · refine iff_of_true rfl ?_
      intro hsame
      exact absurd (hsame.trans hdigest) hx

/-- A block that is kept aside leaves alone the tip, the answers about where the main chain runs, and
    the blocks of the main chain, but for the body of a block that has its digest. -/
theorem addSide_keeps_main_chain (writes : List Write) (b : Block) :
    let s := writes.foldl write empty
    let after := s.addSide b
    after.tip? = s.tip? ∧
    (∀ x, after.snapshot.isMain x = s.snapshot.isMain x) ∧
    (∀ x, s.snapshot.isMain x = .ok true →
      after.snapshot.heightOf x = s.snapshot.heightOf x) ∧
    ∀ x d, s.snapshot.isMain x = .ok true → s.snapshot.block x = .ok d →
      ∃ e, after.snapshot.block x = .ok e ∧ ReadAgain b d e := by
  intro s after
  have hkeyed : s.Keyed := keyed_empty.writes writes
  -- The tip and the heights are read from the indexes, which are the same two.
  refine ⟨rfl, fun _ => rfl, ?_, ?_⟩
  · intro x hmain
    rcases isMain_iff.1 hmain with ⟨h, hh⟩
    have hbefore : s.heightOf x = .ok h := heightOf_eq_ok_iff.2 hh
    have hafter : after.heightOf x = .ok h := heightOf_eq_ok_iff.2 hh
    exact hafter.trans hbefore.symm
  · intro x d hmain hd
    exact readAgain_addSide hkeyed hmain hd b

/-- A block with the header of a block of the main chain is kept aside, which has another body and
    claims another height. -/
theorem addSide_keeps_main_chain_under_rival :
    let first : Block := {}
    let rival : Block := { transactions := [{}], height := 7 }
    let s := empty.connect first
    let after := s.addSide rival
    s.snapshot.isMain first.digest = .ok true ∧ s.snapshot.block first.digest = .ok first ∧
      after.tip? = s.tip? ∧
      after.snapshot.heightOf first.digest = s.snapshot.heightOf first.digest ∧
      ∃ e, after.snapshot.block first.digest = .ok e ∧ e.height = 0 ∧ e ≠ first := by
  intro first rival s after
  have hmain : s.snapshot.isMain first.digest = .ok true := isMain_connect empty first
  have hread : s.snapshot.block first.digest = .ok first := block_connect empty first
  rcases addSide_keeps_main_chain [.connect first] rival with ⟨htip, _, hheights, hblocks⟩
  rcases hblocks first.digest first hmain hread with ⟨e, he, hagain⟩
  refine ⟨hmain, hread, htip, hheights first.digest hmain, e, he, hagain.height, ?_⟩
  intro hsame
  have hbodies := (hagain.same_iff.1 hsame rfl).2
  exact absurd hbodies (List.cons_ne_nil _ _)

/-- A block without transactions is connected, and one with the same header and a transaction is kept
    aside. The main chain then has the transaction. -/
theorem body_changes_beside :
    ¬ ∀ (writes : List Write) (b : Block),
      let s := writes.foldl write empty
      let after := s.addSide b
      after.tip? = s.tip? ∧
      (∀ x, after.snapshot.isMain x = s.snapshot.isMain x) ∧
      (∀ x, s.snapshot.isMain x = .ok true →
        after.snapshot.heightOf x = s.snapshot.heightOf x) ∧
      ∀ x d, s.snapshot.isMain x = .ok true → s.snapshot.block x = .ok d →
        after.snapshot.block x = .ok d := by
  intro hall
  let first : Block := {}
  let other : Block := { transactions := [{}] }
  let s := empty.connect first
  have hmain : s.snapshot.isMain first.digest = .ok true := isMain_connect empty first
  have hread : s.snapshot.block first.digest = .ok first := block_connect empty first
  have hsame := (hall [.connect first] other).2.2.2 first.digest first hmain hread
  -- The two have one digest, so the other body is read now.
  have hdigest : other.digest = first.digest := rfl
  have hheight : s.heights[first.digest]? = some 0 :=
    (heights_connect empty first first.digest).trans (if_pos rfl)
  have hchanged : (s.addSide other).snapshot.block first.digest = .ok other := by
    refine (block_addSide s other first.digest).trans ?_
    rw [if_pos hdigest, hheight]
    rfl
  have hbodies : other = first := Except.ok.inj (hchanged.symm.trans hsame)
  exact absurd (congrArg Block.transactions hbodies) (List.cons_ne_nil _ _)

end Store

end ChainCheckpoints
