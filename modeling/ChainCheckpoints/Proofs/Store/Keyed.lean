import ChainCheckpoints.Store.Lemmas

/-!
# Blocks Under Their Own Digests

A store hands out what was put under a digest, and every write puts a block under the digest of its
own header. So a block that is read has the digest that was asked for, whatever was written before
and whichever questions fail meanwhile. Its height is another matter: that is what the main chain
says, and a writer may say anything.

## Main definitions

* `Store.Keyed`: every block stands under its own digest.

## Theorems

* `Store.Keyed.write`, `Store.Keyed.writes`: writes keep it so.
* `Store.Keyed.digest_of_block`: a block that is read has the digest that was asked for.
* `Store.height_of_block`: and the height that the index gives it.
-/

namespace ChainCheckpoints

namespace Store

variable {s : Store} {b : Block} {x : Digest}

/-- Every block stands under its own digest. -/
def Keyed (s : Store) : Prop :=
  ∀ (x : Digest) (b : Block), s.blocks[x]? = some b → b.digest = x

theorem keyed_empty : empty.Keyed := by
  intro x b hb
  rw [blocks_empty] at hb
  cases hb

theorem Keyed.insert {after : Store} (h : s.Keyed) (b : Block)
    (hblocks : ∀ x : Digest, after.blocks[x]? = if b.digest = x then some b else s.blocks[x]?) :
    after.Keyed := by
  intro x d hd
  rw [hblocks] at hd
  by_cases hx : b.digest = x
  · rw [if_pos hx, Option.some.injEq] at hd
    rw [← hd, hx]
  · rw [if_neg hx] at hd
    exact h x d hd

theorem Keyed.drop (h : s.Keyed) (id : Digest) : (s.drop id).Keyed := by
  intro x d hd
  rw [blocks_drop] at hd
  by_cases hx : id = x
  · rw [if_pos hx] at hd
    cases hd
  · rw [if_neg hx] at hd
    exact h x d hd

theorem Keyed.write (h : s.Keyed) (w : Write) : (s.write w).Keyed := by
  -- A cut leaves the blocks alone, and so does a store that becomes unreadable.
  cases w with
  | connect b => exact h.insert b (blocks_connect s b)
  | addSide b => exact h.insert b (blocks_addSide s b)
  | cutAbove _ => exact h
  | drop id => exact h.drop id
  | setReadable _ => exact h

theorem Keyed.writes (h : s.Keyed) (writes : List Write) : (writes.foldl Store.write s).Keyed :=
  writes.foldlRecOn Store.write h fun _ hkeyed w _ => hkeyed.write w

theorem block_eq_ok_iff : s.block x = .ok b ↔
    ∃ d, s.blocks[x]? = some d ∧ b = { d with height := (s.heights[x]?).getD d.height } := by
  unfold block stored
  rcases s.blocks[x]? with _ | d
  · simp only [Except.map, reduceCtorEq, false_and, exists_false]
  · simp only [Except.map, Except.ok.injEq, Option.some.injEq, exists_eq_left', eq_comm]

theorem Keyed.digest_of_block (h : s.Keyed) (hb : s.block x = .ok b) : b.digest = x := by
  rcases block_eq_ok_iff.1 hb with ⟨d, hd, rfl⟩
  -- The height is no part of the header, so giving it anew does not change the digest.
  exact h x d hd

/-- A block that is read has the height that the index gives it, whatever was stored with it. -/
theorem height_of_block {h : UInt64} (hb : s.block x = .ok b) (hx : s.heights[x]? = some h) :
    b.height = h := by
  rcases block_eq_ok_iff.1 hb with ⟨d, _, rfl⟩
  rw [hx, Option.getD_some]

end Store

namespace Outages

variable {α : Type} {o : Outages} {query : Query} {answer : Except ReadError α} {a : α}

theorem guard_eq_ok_iff : o.guard query answer = .ok a ↔ o query = Option.none ∧ answer = .ok a := by
  unfold guard
  rcases o query with _ | error
  · simp only [true_and]
  · simp only [reduceCtorEq, false_and]

end Outages

namespace Store

variable {s : Store} {o : Outages} {view : Snapshot} {b : Block} {x : Digest}

/-- A view is opened of a store that can be read, and gives its answers or fails. -/
theorem source_under_eq_ok_iff :
    s.source.map (·.under o) = .ok view ↔ s.readable = true ∧ view = s.snapshot.under o := by
  unfold source
  cases s.readable with
  | false =>
    simp only [Bool.false_eq_true, ↓reduceIte, Except.map, reduceCtorEq, false_and]
  | true => simp only [↓reduceIte, Except.map, Except.ok.injEq, true_and, eq_comm]

/-- A block that is read has the digest that was asked for, whichever questions fail. -/
theorem Keyed.digest_of_view (h : s.Keyed) (hview : s.source.map (·.under o) = .ok view)
    (hb : view.block x = .ok b) : b.digest = x := by
  rcases source_under_eq_ok_iff.1 hview with ⟨_, rfl⟩
  exact h.digest_of_block (Outages.guard_eq_ok_iff.1 hb).2

end Store

end ChainCheckpoints
