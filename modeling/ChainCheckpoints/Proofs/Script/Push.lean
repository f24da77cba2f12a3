import ChainCheckpoints.Script.Push

/-!
# Reading Back What Was Pushed

The form of a push can be told from its first bytes, so what follows a push does not matter for
reading it. That carries over to any number of pushes: a script that holds nothing else is read back
as the pushes that it was made of, and only such a script is read at all.

## Theorems

* `Push.next?_encode`: the push at the front is read, whatever follows it.
* `Push.readAll?_of_next?`, `Push.readAll?_of_stuck`: the pushes of a script by the one at its front.
* `Push.next_induction`: induction over what follows the push at the front.
* `Push.readAll?_eq_some_iff`: the scripts that hold the given pushes and nothing else.
-/

namespace ChainCheckpoints

namespace Push

variable {s rest : Bytes} {p : Push} {ps : List Push}

theorem next?_encode (h : p.Fits) (rest : Bytes) : next? (p.encode ++ rest) = some (p, rest) := by
  have hcut (item : Bytes) : cut? item.length (item ++ rest) = some (item, rest) :=
    cut?_eq_some_iff.2 ⟨rfl, rfl⟩
  cases p with
  | empty => rfl
  | direct item =>
    rcases h with ⟨hpos, hmax⟩
    have hsize : (UInt8.ofNat item.length).toNat = item.length :=
      UInt8.toNat_ofNat_of_lt' (Nat.lt_of_le_of_lt hmax (by decide))
    have hzero : UInt8.ofNat item.length ≠ 0 := by
      intro hzero
      rw [hzero] at hsize
      exact Nat.ne_of_gt hpos hsize.symm
    simp only [encode, List.cons_append, next?, if_neg hzero, hsize, if_pos hmax, hcut,
      Option.map_some]
  | counted item =>
    have hsize : (UInt8.ofNat item.length).toNat = item.length :=
      UInt8.toNat_ofNat_of_lt' (Nat.lt_succ_of_le h)
    have hzero : marker ≠ 0 := by decide
    have hmax : ¬ marker.toNat ≤ maxDirect := by decide
    simp only [encode, List.cons_append, next?, if_neg hzero, if_neg hmax, if_true, hsize, hcut,
      Option.map_some]

theorem readAll?_nil : readAll? [] = some [] := by
  rw [readAll?, if_pos rfl]

theorem readAll?_of_next? (h : next? s = some (p, rest)) :
    readAll? s = (readAll? rest).map (p :: ·) := by
  have hne : s ≠ [] := by
    rintro rfl
    cases h
  rw [readAll?, if_neg hne]
  split
  next hnone =>
    rw [h] at hnone
    cases hnone
  next p' rest' hsome =>
    rw [h, Option.some.injEq, Prod.mk.injEq] at hsome
    rw [hsome.1, hsome.2]

theorem readAll?_of_stuck (hne : s ≠ []) (h : next? s = none) : readAll? s = none := by
  rw [readAll?, if_neg hne]
  split
  next => rfl
  next p rest hsome =>
    rw [h] at hsome
    cases hsome

theorem readAll?_flatMap_encode (h : ∀ p ∈ ps, p.Fits) : readAll? (ps.flatMap encode) = some ps := by
  induction ps with
  | nil => exact readAll?_nil
  | cons p ps ih =>
    rw [List.flatMap_cons, readAll?_of_next? (next?_encode (h p List.mem_cons_self) _),
      ih fun q hq => h q (List.mem_cons_of_mem p hq), Option.map_some]

/-- What holds of a script that is used up, of one where no push can be read, and of one with a push
    at its front if it holds of what follows, holds of every script. -/
@[elab_as_elim]
theorem next_induction {motive : Bytes → Prop} (nil : motive [])
    (stuck : ∀ s, s ≠ [] → next? s = none → motive s)
    (push : ∀ s p rest, next? s = some (p, rest) → motive rest → motive s) (s : Bytes) :
    motive s := by
  induction hlength : s.length using Nat.strongRecOn generalizing s with
  | _ length ih =>
    by_cases hne : s = []
    · exact hne ▸ nil
    rcases hnext : next? s with _ | ⟨p, rest⟩
    · exact stuck s hne hnext
    · exact push s p rest hnext (ih rest.length (hlength ▸ length_of_next? hnext) rest rfl)

theorem of_readAll?_eq_some (h : readAll? s = some ps) :
    (∀ p ∈ ps, p.Fits) ∧ s = ps.flatMap encode := by
  induction s using next_induction generalizing ps with
  | nil =>
    rw [readAll?_nil, Option.some.injEq] at h
    rw [← h]
    exact ⟨fun p hp => (List.not_mem_nil hp).elim, rfl⟩
  | stuck s hne hnext =>
    rw [readAll?_of_stuck hne hnext] at h
    cases h
  | push s p rest hnext ih =>
    rw [readAll?_of_next? hnext] at h
    rcases Option.map_eq_some_iff.1 h with ⟨qs, hqs, rfl⟩
    rcases of_next?_eq_some hnext with ⟨hfits, hs⟩
    rcases ih hqs with ⟨hall, hrest⟩
    refine ⟨fun q hq => ?_, by rw [hs, hrest, List.flatMap_cons]⟩
    rcases List.mem_cons.1 hq with rfl | hq
    · exact hfits
    · exact hall q hq

/-- The scripts that hold the given pushes and nothing else. There is one such script, and a script
    holds the pushes of one list only. -/
theorem readAll?_eq_some_iff :
    readAll? s = some ps ↔ (∀ p ∈ ps, p.Fits) ∧ s = ps.flatMap encode := by
  constructor
  · exact of_readAll?_eq_some
  · rintro ⟨hfits, rfl⟩
    exact readAll?_flatMap_encode hfits

theorem readAll?_eq_singleton_iff : readAll? s = some [p] ↔ p.Fits ∧ s = p.encode := by
  rw [readAll?_eq_some_iff, List.forall_mem_singleton, List.flatMap_singleton]

end Push

end ChainCheckpoints
