import ChainCheckpoints.Proofs.Script.Positions

/-!
# Scripts of Pushes and Nothing Else

Whoever made a script of pushes must get its items back, and a script that holds anything else must
not pass for one. A push can be told from the bytes at its front, so a script is read from the left
without a choice: either it is used up, and the pushes that were read are the only ones that fill
it, or the reading comes to bytes where no push can be read.

There are four kinds of such bytes. The operation may be no push at all; the script may end within
the item, whether its length stands in the operation or behind the marker; and the marker may be the
last byte, so that there is no length. Each of them asks for bytes that are not there, and none of
them is read: what is left of the script is compared with the length before anything is cut out of
it.

## Main definitions

* `Push.Fills`: pushes that make up a script.
* `Push.Stuck`: bytes at whose front no push can be read.

## Theorems

* `Push.next?_eq_none_iff`: where no push can be read.
* `Push.readAll?_append`: the pushes at the front are read first.
* `Push.readAll?_eq_none_iff`: the scripts that are not read.
* `Script.ByPosition.pushes_exact`: the items of a script, by the pushes that fill it.
-/

namespace ChainCheckpoints

namespace Push

variable {s rest : Bytes} {ps qs : List Push} {n : Nat}

/-- The pushes make up the script, one after the other, each in a form that suits its item. -/
structure Fills (ps : List Push) (s : Bytes) : Prop where
  fits : ∀ p ∈ ps, p.Fits
  eq : s = ps.flatMap encode

instance : DecidablePred Fits
  | .empty => inferInstanceAs (Decidable True)
  | .direct item => inferInstanceAs (Decidable (1 ≤ item.length ∧ item.length ≤ maxDirect))
  | .counted item => inferInstanceAs (Decidable (item.length ≤ 255))

/-- No push can be read at the front of the bytes. -/
inductive Stuck : Bytes → Prop
  /-- The operation is no push. -/
  | operation {op : UInt8} {rest : Bytes} (hop : maxDirect < op.toNat) (hmarker : op ≠ marker) :
    Stuck (op :: rest)
  /-- The operation is a length, and fewer bytes follow. -/
  | direct {length : UInt8} {rest : Bytes} (hpos : 1 ≤ length.toNat)
    (hmax : length.toNat ≤ maxDirect) (hshort : rest.length < length.toNat) : Stuck (length :: rest)
  /-- No length follows the marker. -/
  | unsized : Stuck [marker]
  /-- Fewer bytes follow the length behind the marker. -/
  | counted {length : UInt8} {rest : Bytes} (hshort : rest.length < length.toNat) :
    Stuck (marker :: length :: rest)

theorem readAll?_eq_some_iff_fills : readAll? s = some ps ↔ Fills ps s := by
  rw [readAll?_eq_some_iff]
  exact ⟨fun h => ⟨h.1, h.2⟩, fun h => ⟨h.fits, h.eq⟩⟩

/-- Pushes are read in one way only, so there is one way only to make up a script. -/
theorem Fills.unique (hps : Fills ps s) (hqs : Fills qs s) : ps = qs := by
  have hread := readAll?_eq_some_iff_fills.2 hps
  rw [readAll?_eq_some_iff_fills.2 hqs, Option.some.injEq] at hread
  exact hread.symm

theorem cut?_eq_none_iff : cut? n s = none ↔ s.length < n := by
  unfold cut?
  by_cases hle : n ≤ s.length
  · rw [if_pos hle]
    simp only [reduceCtorEq, false_iff]
    omega
  · rw [if_neg hle]
    simp only [true_iff]
    omega

theorem Stuck.next?_eq_none (h : Stuck s) : next? s = none := by
  have hzero : marker ≠ 0 := by decide
  have hlong : ¬ marker.toNat ≤ maxDirect := by decide
  cases h with
  | @operation op rest hop hmarker =>
    have hne : op ≠ 0 := by
      intro h0
      rw [h0] at hop
      exact Nat.not_lt_zero _ hop
    simp only [next?, if_neg hne, if_neg (Nat.not_le.2 hop), if_neg hmarker]
  | @direct length rest hpos hmax hshort =>
    have hne : length ≠ 0 := by
      intro h0
      rw [h0] at hpos
      exact Nat.not_lt_zero _ hpos
    simp only [next?, if_neg hne, if_pos hmax, cut?_eq_none_iff.2 hshort, Option.map_none]
  | unsized => simp only [next?, if_neg hzero, if_neg hlong, if_true]
  | counted hshort =>
    simp only [next?, if_neg hzero, if_neg hlong, if_true, cut?_eq_none_iff.2 hshort,
      Option.map_none]

/-- A push can be read unless the script is used up or stuck. -/
theorem next?_eq_none_iff : next? s = none ↔ s = [] ∨ Stuck s := by
  constructor
  · intro h
    rcases s with _ | ⟨op, rest⟩
    · exact .inl rfl
    right
    by_cases hzero : op = 0
    · simp only [next?, if_pos hzero, reduceCtorEq] at h
    by_cases hdirect : op.toNat ≤ maxDirect
    · simp only [next?, if_neg hzero, if_pos hdirect, Option.map_eq_none_iff,
        cut?_eq_none_iff] at h
      have hne : op.toNat ≠ 0 := fun h0 => hzero (UInt8.toNat_inj.1 h0)
      exact .direct (by omega) hdirect h
    by_cases hmarker : op = marker
    · rcases rest with _ | ⟨length, rest⟩
      · rw [hmarker]
        exact .unsized
      · simp only [next?, if_neg hzero, if_neg hdirect, if_pos hmarker, Option.map_eq_none_iff,
          cut?_eq_none_iff] at h
        rw [hmarker]
        exact .counted h
    · exact .operation (Nat.not_le.1 hdirect) hmarker
  · intro h
    rcases h with rfl | hstuck
    · rfl
    · exact hstuck.next?_eq_none

/-- The pushes at the front are read first, and then what follows them. -/
theorem readAll?_append (hfits : ∀ p ∈ ps, p.Fits) (rest : Bytes) :
    readAll? (ps.flatMap encode ++ rest) = (readAll? rest).map (ps ++ ·) := by
  induction ps with
  | nil =>
    simp only [List.flatMap_nil, List.nil_append]
    exact Option.map_id'.symm
  | cons p ps ih =>
    have hfirst : p.Fits := hfits p List.mem_cons_self
    have hothers : ∀ q ∈ ps, q.Fits := by
      intro q hq
      exact hfits q (List.mem_cons_of_mem p hq)
    rw [List.flatMap_cons, List.append_assoc, readAll?_of_next? (next?_encode hfirst _), ih hothers,
      Option.map_map]
    rfl

/-- A script is not read if, behind the pushes at its front, no further one can be read. -/
theorem readAll?_eq_none_iff : readAll? s = none ↔
    ∃ ps front rest, Fills ps front ∧ s = front ++ rest ∧ Stuck rest := by
  constructor
  · intro h
    induction s using next_induction with
    | nil =>
      rw [readAll?_nil] at h
      cases h
    | stuck s hne hnext =>
      have hstuck : Stuck s := (next?_eq_none_iff.1 hnext).resolve_left hne
      exact ⟨[], [], s, ⟨fun p hp => absurd hp List.not_mem_nil, rfl⟩, rfl, hstuck⟩
    | push s p rest hnext ih =>
      rw [readAll?_of_next? hnext, Option.map_eq_none_iff] at h
      rcases of_next?_eq_some hnext with ⟨hfits, hs⟩
      rcases ih h with ⟨ps, front, back, hfills, hrest, hstuck⟩
      refine ⟨p :: ps, p.encode ++ front, back, ⟨?_, ?_⟩, ?_, hstuck⟩
      · intro q hq
        rcases List.mem_cons.1 hq with rfl | hq
        · exact hfits
        · exact hfills.fits q hq
      · rw [List.flatMap_cons, ← hfills.eq]
      · rw [hs, hrest, List.append_assoc]
  · intro h
    rcases h with ⟨ps, front, rest, hfills, hs, hstuck⟩
    have hne : rest ≠ [] := by
      rintro rfl
      cases hstuck
    rw [hs, hfills.eq, readAll?_append hfills.fits, readAll?_of_stuck hne hstuck.next?_eq_none,
      Option.map_none]

end Push

namespace Script

namespace ByPosition

/-- The items of a script are those of the pushes that fill it, and there is one list of pushes at
    most that does. A script has none exactly if behind some pushes no further one can be read. No
    read leaves the script, whatever its bytes are. -/
theorem pushes_exact (s : Bytes) :
    (∀ items, pushes s = .ok (some items) ↔ ∃ ps, Push.Fills ps s ∧ ps.map Push.item = items) ∧
      (∀ ps qs, Push.Fills ps s → Push.Fills qs s → ps = qs) ∧
      (pushes s = .ok none ↔
        ∃ ps front rest, Push.Fills ps front ∧ s = front ++ rest ∧ Push.Stuck rest) ∧
      pushes s = .ok ((Push.readAll? s).map (List.map Push.item)) := by
  have hpushes := pushes_eq s
  refine ⟨?_, fun ps qs => Push.Fills.unique, ?_, hpushes⟩
  · intro items
    rw [hpushes, Except.ok.injEq, Option.map_eq_some_iff]
    simp only [Push.readAll?_eq_some_iff_fills]
  · rw [hpushes, Except.ok.injEq, Option.map_eq_none_iff, Push.readAll?_eq_none_iff]

/-- The same item in each form that holds it, and the same script without its last byte. -/
theorem pushes_exact_of_three_forms :
    let ps : List Push := [.empty, .direct [7], .counted [7], .counted [], .counted [8, 9]]
    let s : Bytes := [0, 1, 7, 76, 1, 7, 76, 0, 76, 2, 8, 9]
    Push.Fills ps s ∧ pushes s = .ok (some [[], [7], [7], [], [8, 9]]) ∧
      (∀ qs, Push.Fills qs s → qs = ps) ∧ pushes s.dropLast = .ok none := by
  intro ps s
  have hfills : Push.Fills ps s := ⟨by decide, by decide⟩
  rcases pushes_exact s with ⟨hitems, hunique, _, _⟩
  refine ⟨hfills, (hitems _).2 ⟨ps, hfills, rfl⟩, ?_, ?_⟩
  · intro qs hqs
    exact hunique qs ps hqs hfills
  · -- The last item is to have two bytes, and one is left.
    have hfront : Push.Fills ps.dropLast [0, 1, 7, 76, 1, 7, 76, 0] := ⟨by decide, by decide⟩
    have hstuck : Push.Stuck [76, 2, 8] := .counted (by decide)
    exact (pushes_exact s.dropLast).2.2.1.2 ⟨_, _, _, hfront, rfl, hstuck⟩

end ByPosition

end Script

end ChainCheckpoints
