import ChainCheckpoints.Guard.Basic
import ChainCheckpoints.Proofs.Positions

/-!
# What a Guard Lets Pass

The three questions that a node asks before it changes its main chain, each by what its answer
depends on. A block passes if nothing else is pinned at its height; that is a matter of the table
alone. A fork passes if the anchor is not above it, so it passes or not by the answer to the
question for the anchor, and leaves the guard as that question would.

## Theorems

* `Guard.verify_iff`: when a block passes.
* `Guard.admitFork_state`, `Guard.admitFork_answer`: a fork by the anchor.
-/

namespace ChainCheckpoints

namespace Guard

variable {g : Guard} {source : Except ReadError Snapshot} {best : UInt64} {a : Option Block}

theorem verify_iff {height : UInt64} {id : Digest} :
    (g.verify height id).1 = true ↔ ∀ c ∈ g.table.entries, c.height = height → c.digest = id := by
  unfold verify
  rcases hpinned : g.table.pinnedAt? height with _ | c
  · refine ⟨fun _ c hc hheight => ?_, fun _ => rfl⟩
    have hsome := Table.pinnedAt?_eq_some_iff.2 ⟨hc, hheight⟩
    rw [hpinned] at hsome
    cases hsome
  · rcases Table.pinnedAt?_eq_some_iff.1 hpinned with ⟨hc, hheight⟩
    by_cases hid : c.digest = id
    -- No height is pinned twice, so `c` is the only checkpoint to be compared with.
    · simp only [if_pos hid, true_iff]
      intro d hd hdheight
      rw [Table.eq_of_height_eq hd hc (hdheight.trans hheight.symm), hid]
    · simp only [if_neg hid, Bool.false_eq_true, false_iff]
      exact fun hall => hid (hall c hc hheight)

/-- The question for a fork leaves the guard as the question for the anchor does. -/
theorem admitFork_state (g : Guard) (source : Except ReadError Snapshot) (best fork : UInt64) :
    (g.admitFork source best fork).state = (g.follow source best).state := by
  rcases hanswer : (g.follow source best).answer with fault | _ | anchor
  · simp only [admitFork, hanswer]
  · simp only [admitFork, hanswer]
  · by_cases hfork : fork < anchor.height
    · simp only [admitFork, hanswer, if_pos hfork]
    · simp only [admitFork, hanswer, if_neg hfork]

theorem admitFork_answer (h : (g.follow source best).answer = .ok a) (fork : UInt64) :
    (g.admitFork source best fork).answer =
      match a.filter (fork < ·.height) with
      | none => .ok ()
      | some anchor => .error (.forkBelowCheckpoint fork anchor.height) := by
  simp only [admitFork, h]
  rcases a with _ | anchor
  · rfl
  · by_cases hfork : fork < anchor.height
    · simp only [Option.filter_some, hfork, decide_true, ↓reduceIte]
    · simp only [Option.filter_some, hfork, decide_false, Bool.false_eq_true,
        ↓reduceIte]

end Guard

end ChainCheckpoints
