import ChainCheckpoints.Chain.Block
import Mathlib.Data.Nat.Log

/-!
# A Root Commits to a List of Known Length

A root is reached by joining pairs, level by level, until one digest is left. A level has half as many
digests as the one below, rounded up, so the number of levels is known from the length of the list
alone: it is the logarithm of the length, rounded up as well. Two lists of the same length are climbed
in step.

That is what makes a root a commitment. If two climbs in step meet in one level, they have met in the
level below already, or two of the pairs that were hashed in between are told apart by their bytes
but not by the hash. Going down from a common root, either the two lists at the bottom are the same
or such pairs come up on the way. Nothing is used of the hash but that it is a function.

The length has to be known. A digest without a partner is paired with itself, so the same root is
reached if it is given itself as a partner in the list.

## Main definitions

* `Merkle.pairs`, `Merkle.layout`: the pairs of a level, and what is hashed for a pair.
* `Merkle.Climbs`: how many rounds a climb takes, and where it ends.
* `Merkle.Joined`: the pairs that are hashed on the way to a root.
* `Merkle.Collides`: pairs with different layouts and the same digest.
* `Block.ids`: the ids that the root of a block is about.

## Theorems

* `Merkle.length_rounds_le_one_iff`: when a climb is over.
* `Merkle.climbs_root`: every climb is over in time, and the root is where it ends.
* `Merkle.eq_or_collides_of_pairUp`: one level down.
* `Merkle.eq_or_collides`: down from a common root.
* `Merkle.root_append_last`: lists of different lengths with the same root.
* `Block.merkleRoot_commits`: the root of a block ends a climb, and commits to the ids.
-/

namespace ChainCheckpoints

namespace Merkle

variable {level xs ys : List Digest} {left right left' right' last : Digest} {n : Nat}

/-- The pairs that a level is joined in. A digest without a partner is its own. -/
def pairs : List Digest → List (Digest × Digest)
  | left :: right :: rest => (left, right) :: pairs rest
  | [last] => [(last, last)]
  | [] => []

/-- What is hashed for a pair: the two digests side by side. -/
def layout (p : Digest × Digest) : Bytes :=
  p.1.bytes ++ p.2.bytes

theorem length_layout (p : Digest × Digest) : (layout p).length = 64 := by
  rw [layout, List.length_append, Digest.length_bytes, Digest.length_bytes]

theorem pairUp_eq_map : ∀ level : List Digest,
    pairUp level = (pairs level).map fun p => Digest.ofBytes (layout p)
  | [] => rfl
  | [_] => rfl
  | left :: right :: rest => by
    rw [pairUp, pairs, List.map_cons, pairUp_eq_map rest]
    rfl

/-- A climb goes on while there is more than one digest, for exactly this many rounds, and ends at
    this one. -/
structure Climbs (level : List Digest) (rounds : Nat) (top : Digest) : Prop where
  goesOn : ∀ n < rounds, 1 < (Nat.iterate pairUp n level).length
  ends : Nat.iterate pairUp rounds level = [top]

/-- A pair that is hashed on the way from a level to its root, in some round of the climb. A level
    with one digest is the root already, and its one pair is not hashed. -/
def Joined (level : List Digest) (p : Digest × Digest) : Prop :=
  ∃ n, 1 < (Nat.iterate pairUp n level).length ∧ p ∈ pairs (Nat.iterate pairUp n level)

/-- Two pairs break the hash: their layouts are different, each has 64 bytes, and both have the same
    digest. -/
structure Collides (p q : Digest × Digest) : Prop where
  ne : layout p ≠ layout q
  length_left : (layout p).length = 64
  length_right : (layout q).length = 64
  digest : Digest.ofBytes (layout p) = Digest.ofBytes (layout q)

/-- The climb is over, with a single digest or none, once there have been as many rounds as the
    length can be halved, rounding up. -/
theorem length_rounds_le_one_iff (n : Nat) (level : List Digest) :
    (Nat.iterate pairUp n level).length ≤ 1 ↔ Nat.clog 2 level.length ≤ n := by
  rw [Nat.clog_le_iff_le_pow Nat.one_lt_two]
  induction n generalizing level with
  | zero => exact Iff.rfl
  | succ n ih =>
    -- The first of the rounds leads to the level from which the others start.
    have hfirst : Nat.iterate pairUp (n + 1) level = Nat.iterate pairUp n (pairUp level) := rfl
    rw [hfirst, ih, length_pairUp, Nat.pow_succ]
    omega

theorem rounds_ne_nil (n : Nat) (hne : level ≠ []) : Nat.iterate pairUp n level ≠ [] := by
  induction n generalizing level with
  | zero => exact hne
  | succ n ih =>
    have hnext : pairUp level ≠ [] := by
      intro hnil
      have hlength := length_pairUp level
      have hpos := List.length_pos_iff.2 hne
      rw [hnil, List.length_nil] at hlength
      omega
    exact ih hnext

theorem root_pairUp (hmany : 1 < level.length) : root (pairUp level) = root level := by
  rcases level with _ | ⟨left, _ | ⟨right, rest⟩⟩
  · exact absurd hmany (by decide)
  · exact absurd hmany (Nat.lt_irrefl 1)
  · conv_rhs => rw [root]

theorem root_rounds (hmany : ∀ k < n, 1 < (Nat.iterate pairUp k level).length) :
    root (Nat.iterate pairUp n level) = root level := by
  induction n generalizing level with
  | zero => rfl
  | succ n ih =>
    have hfirst : 1 < level.length := hmany 0 (Nat.succ_pos n)
    have hothers : ∀ k < n, 1 < (Nat.iterate pairUp k (pairUp level)).length := by
      intro k hk
      exact hmany (k + 1) (Nat.succ_lt_succ hk)
    exact (ih hothers).trans (root_pairUp hfirst)

/-- The climb from any level takes as many rounds as the length can be halved, rounding up, and the
    root is where it ends. -/
theorem climbs_root (hne : level ≠ []) : Climbs level (Nat.clog 2 level.length) (root level) := by
  have hmany : ∀ n < Nat.clog 2 level.length, 1 < (Nat.iterate pairUp n level).length := by
    intro n hn
    have hover := length_rounds_le_one_iff n level
    omega
  refine ⟨hmany, ?_⟩
  -- At most one digest is left then, and since no level is empty there is one.
  have hone : (Nat.iterate pairUp (Nat.clog 2 level.length) level).length = 1 := by
    have hle := (length_rounds_le_one_iff _ level).2 (Nat.le_refl _)
    have hpos := List.length_pos_iff.2 (rounds_ne_nil (Nat.clog 2 level.length) hne)
    omega
  rcases List.length_eq_one_iff.1 hone with ⟨top, htop⟩
  have hroot := root_rounds hmany
  rw [htop, root] at hroot
  rw [htop, hroot]

/-- Two digests that are joined to one are the same two, or their layouts break the hash. -/
theorem join_eq_or_collides (h : join left right = join left' right') :
    (left = left' ∧ right = right') ∨ Collides (left, right) (left', right') := by
  by_cases heq : layout (left, right) = layout (left', right')
  · have hwidth : left.bytes.length = left'.bytes.length := by
      rw [Digest.length_bytes, Digest.length_bytes]
    rcases List.append_inj heq hwidth with ⟨hleft, hright⟩
    exact .inl ⟨Digest.ext hleft, Digest.ext hright⟩
  · exact .inr ⟨heq, length_layout _, length_layout _, h⟩

/-- One level down: lists of the same length with the same level above them are the same, or two of
    their pairs collide. -/
theorem eq_or_collides_of_pairUp (hlength : xs.length = ys.length) (h : pairUp xs = pairUp ys) :
    xs = ys ∨ ∃ p ∈ pairs xs, ∃ q ∈ pairs ys, Collides p q := by
  -- The induction takes two digests at a time, as the pairs are made. The lengths are equal, so both
  -- lists run out in the same case.
  fun_induction pairs xs generalizing ys with
  | case1 left right rest ih =>
    rcases ys with _ | ⟨left', _ | ⟨right', rest'⟩⟩
    · cases hlength
    · cases hlength
    simp only [pairUp, List.cons.injEq] at h
    simp only [List.length_cons, Nat.add_right_cancel_iff] at hlength
    rcases join_eq_or_collides h.1 with ⟨rfl, rfl⟩ | hcollides
    · rcases ih hlength h.2 with rfl | ⟨p, hp, q, hq, hcollides⟩
      · exact .inl rfl
      · exact .inr ⟨p, List.mem_cons_of_mem _ hp, q, List.mem_cons_of_mem _ hq, hcollides⟩
    · exact .inr ⟨_, List.mem_cons_self, _, List.mem_cons_self, hcollides⟩
  | case2 last =>
    rcases List.length_eq_one_iff.1 hlength.symm with ⟨last', rfl⟩
    simp only [pairUp, List.cons.injEq, and_true] at h
    rcases join_eq_or_collides h with ⟨rfl, _⟩ | hcollides
    · exact .inl rfl
    · exact .inr ⟨_, List.mem_cons_self, _, List.mem_cons_self, hcollides⟩
  | case3 =>
    exact .inl (List.length_eq_zero_iff.1 hlength.symm).symm

/-- Down from a common root: lists of the same length are the same, or two of the pairs that are hashed
    on the way collide. -/
theorem eq_or_collides (hlength : xs.length = ys.length) (hroot : root xs = root ys) :
    xs = ys ∨ ∃ p q, Joined xs p ∧ Joined ys q ∧ Collides p q := by
  -- The induction is on the climb from the first list; the second keeps step with it.
  fun_induction root xs generalizing ys with
  | case1 =>
    exact .inl (List.length_eq_zero_iff.1 hlength.symm).symm
  | case2 top =>
    rcases List.length_eq_one_iff.1 hlength.symm with ⟨top', rfl⟩
    rw [root] at hroot
    rw [hroot]
    exact .inl rfl
  | case3 left right rest ih =>
    have hxs : 1 < (left :: right :: rest).length := Nat.one_lt_succ_succ rest.length
    have hys : 1 < ys.length := hlength ▸ hxs
    have hlevel : (pairUp (left :: right :: rest)).length = (pairUp ys).length := by
      rw [length_pairUp, length_pairUp, hlength]
    rcases ih hlevel (hroot.trans (root_pairUp hys).symm) with hsame | ⟨p, q, hp, hq, hcollides⟩
    · rcases eq_or_collides_of_pairUp hlength hsame with heq | ⟨p, hp, q, hq, hcollides⟩
      · exact .inl heq
      · exact .inr ⟨p, q, ⟨0, hxs, hp⟩, ⟨0, hys, hq⟩, hcollides⟩
    · -- What is hashed above this level is hashed one round later on the way from it.
      rcases hp with ⟨m, hp⟩
      rcases hq with ⟨n, hq⟩
      exact .inr ⟨p, q, ⟨m + 1, hp⟩, ⟨n + 1, hq⟩, hcollides⟩

theorem pairUp_append_last (hodd : level.length % 2 = 1) (hlast : level.getLast? = some last) :
    pairUp (level ++ [last]) = pairUp level := by
  fun_induction pairs level with
  | case1 left right rest ih =>
    rw [List.length_cons, List.length_cons, Nat.add_assoc, Nat.add_mod_right] at hodd
    -- An odd number of digests is left, so the last one is among them.
    have hne : rest ≠ [] := by
      rintro rfl
      cases hodd
    rw [List.getLast?_cons_of_ne_nil (List.cons_ne_nil right rest),
      List.getLast?_cons_of_ne_nil hne] at hlast
    rw [List.cons_append, List.cons_append, pairUp, pairUp, ih hodd hlast]
  | case2 =>
    cases hlast
    rfl
  | case3 => cases hodd

/-- The length has to be known: a list of odd length has the same root with its last digest repeated. -/
theorem root_append_last (hmany : 1 < level.length) (hodd : level.length % 2 = 1)
    (hlast : level.getLast? = some last) : root (level ++ [last]) = root level := by
  have hmore : 1 < (level ++ [last]).length := by
    rw [List.length_append]
    omega
  rw [← root_pairUp hmore, pairUp_append_last hodd hlast, root_pairUp hmany]

end Merkle

namespace Block

/-- The ids of the transactions, in order. -/
def ids (b : Block) : List Digest :=
  b.transactions.map Transaction.id

/-- The root of a block ends a climb from its ids that takes a known number of rounds, whatever their
    number. Blocks with as many transactions and the same root have the same ids, or two of the pairs
    that are hashed for the two roots collide. -/
theorem merkleRoot_commits (b c : Block) :
    (b.transactions ≠ [] →
      Merkle.Climbs b.ids (Nat.clog 2 b.transactions.length) b.merkleRoot) ∧
    (b.transactions.length = c.transactions.length → b.merkleRoot = c.merkleRoot →
      b.ids = c.ids ∨
        ∃ p q, Merkle.Joined b.ids p ∧ Merkle.Joined c.ids q ∧ Merkle.Collides p q) := by
  have hlength (d : Block) : d.ids.length = d.transactions.length := List.length_map ..
  constructor
  · intro hne
    have hids : b.ids ≠ [] := by
      intro hnil
      exact hne (List.map_eq_nil_iff.1 hnil)
    rw [← hlength b]
    exact Merkle.climbs_root hids
  · intro hcount hroot
    have hsame : b.ids.length = c.ids.length := by
      rw [hlength b, hlength c, hcount]
    exact Merkle.eq_or_collides hsame hroot

/-- Three transactions, so that there is one without a partner, in two blocks with different
    headers. -/
theorem merkleRoot_commits_of_three :
    let b : Block := { transactions := [{}, { version := 1 }, { version := 2 }] }
    let c : Block := { b with header := { nonce := 1 } }
    b.transactions ≠ [] ∧ b.transactions.length = c.transactions.length ∧
      b.merkleRoot = c.merkleRoot ∧ Merkle.Climbs b.ids 2 b.merkleRoot ∧
      (b.ids = c.ids ∨
        ∃ p q, Merkle.Joined b.ids p ∧ Merkle.Joined c.ids q ∧ Merkle.Collides p q) := by
  intro b c
  have hne : b.transactions ≠ [] := List.cons_ne_nil _ _
  have hrounds : Nat.clog 2 b.transactions.length = 2 := by decide
  have hcommits := merkleRoot_commits b c
  have hclimbs := hcommits.1 hne
  rw [hrounds] at hclimbs
  exact ⟨hne, rfl, rfl, hclimbs, hcommits.2 rfl rfl⟩

end Block

end ChainCheckpoints
