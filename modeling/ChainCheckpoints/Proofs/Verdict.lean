import ChainCheckpoints.Guard.Verdict
import ChainCheckpoints.Proofs.Store.Linked

/-!
# Verdicts on a Linked Chain

A verdict needs the neighbours of a block, and a store that has lost one of them has no verdict to
give. Where the main chain is linked, nothing of the kind can happen: the block below is the one that
the header names, and the one above is there because candidates lie deep.

`Verdict.Ruled` says which verdict a block is due, reading heights as plain numbers and blocks off
the main chain alone; it knows nothing of look-ups that may fail or of sums that may overflow. On a
linked chain the verdict that is given is the one that is due.

## Main definitions

* `Store.Disordered`: neighbours whose timestamps do not enclose a block's.
* `NonStandardAt`, `FirstNonStandardAt`: outputs that follow no known template, and the first one.
* `Verdict.Ruled`: the verdict that a block is due.

## Theorems

* `liesDeep_iff`: how deep a block lies is a sum that cannot overflow.
* `firstNonStandard?_eq_none_iff`, `first_of_firstNonStandard?`: the search for an output.
* `Store.LinkedChain.exists_times`: the neighbours of a block below the tip.
* `Verdict.Ruled.judge_eq`, `Verdict.exists_ruled`: a verdict that is due is given, and one is due.
* `Verdict.judge_eq_iff`: the verdict that is given is the one that is due, and never a fault of the
  store.
-/

namespace ChainCheckpoints

/-- Depth is a matter of plain numbers: the difference is taken only where there is one. -/
theorem liesDeep_iff {height best confirmations : UInt64} :
    liesDeep height best confirmations = true ↔
      height.toNat + confirmations.toNat ≤ best.toNat := by
  rw [liesDeep, decide_eq_true_eq, UInt64.le_iff_toNat_le, UInt64.le_iff_toNat_le]
  constructor
  · rintro ⟨hle, hdeep⟩
    rw [UInt64.toNat_sub_of_le _ _ (UInt64.le_iff_toNat_le.2 hle)] at hdeep
    omega
  · intro hdeep
    have hle : confirmations.toNat ≤ best.toNat := by omega
    rw [UInt64.toNat_sub_of_le _ _ (UInt64.le_iff_toNat_le.2 hle)]
    omega

section

variable {classify : Bytes → Template} {transactions rest : List Transaction} {t : Transaction}
  {position i j : Nat}

/-- Output `j` of transaction `i` follows no known template. -/
def NonStandardAt (classify : Bytes → Template) (transactions : List Transaction) (i j : Nat) :
    Prop :=
  ∃ t output, transactions[i]? = some t ∧ t.outputs[j]? = some output ∧
    (classify output.script).isStandard = false

/-- Output `j` of transaction `i` follows no known template, and it is the first: there is none in
    an earlier transaction, and none before it in its own. -/
structure FirstNonStandardAt (classify : Bytes → Template) (transactions : List Transaction)
    (i j : Nat) : Prop where
  nonStandard : NonStandardAt classify transactions i j
  first : ∀ i' j', NonStandardAt classify transactions i' j' → i < i' ∨ i = i' ∧ j ≤ j'

theorem nonStandardAt_cons_zero : NonStandardAt classify (t :: rest) 0 j ↔
    ∃ output, t.outputs[j]? = some output ∧ (classify output.script).isStandard = false := by
  simp only [NonStandardAt, List.getElem?_cons_zero, Option.some.injEq, exists_and_left,
    exists_eq_left']

theorem nonStandardAt_cons_succ : NonStandardAt classify (t :: rest) (i + 1) j ↔
    NonStandardAt classify rest i j := by
  simp only [NonStandardAt, List.getElem?_cons_succ]

theorem Transaction.firstNonStandard?_eq_none_iff : t.firstNonStandard? classify = none ↔
    ∀ j, ¬ NonStandardAt classify (t :: rest) 0 j := by
  simp only [Transaction.firstNonStandard?, List.findIdx?_eq_none_iff, nonStandardAt_cons_zero,
    not_exists, not_and, Bool.not_eq_false', Bool.not_eq_false, List.mem_iff_getElem?]
  exact ⟨fun h j output hj => h output ⟨j, hj⟩, fun h output ⟨j, hj⟩ => h j output hj⟩

theorem Transaction.first_of_firstNonStandard? (h : t.firstNonStandard? classify = some j) :
    FirstNonStandardAt classify (t :: rest) 0 j := by
  rcases List.findIdx?_eq_some_iff_getElem.1 h with ⟨hlt, hbad, hbefore⟩
  constructor
  · exact nonStandardAt_cons_zero.2
      ⟨_, List.getElem?_eq_getElem hlt, by simpa only [Bool.not_eq_true'] using hbad⟩
  · intro i' j' hnon
    rcases i' with _ | i'
    -- Within the transaction, the search has passed all outputs before `j`.
    · refine .inr ⟨rfl, Nat.le_of_not_lt fun hj => hbefore j' hj ?_⟩
      rcases nonStandardAt_cons_zero.1 hnon with ⟨output, houtput, hclass⟩
      rcases List.getElem?_eq_some_iff.1 houtput with ⟨_, rfl⟩
      simpa only [Bool.not_eq_true'] using hclass
    · exact .inl (Nat.succ_pos i')

theorem firstNonStandard?_eq_none_iff : firstNonStandard? classify position transactions = none ↔
    ∀ i j, ¬ NonStandardAt classify transactions i j := by
  induction transactions generalizing position with
  | nil => simp [firstNonStandard?, NonStandardAt]
  | cons t rest ih =>
    -- A search of the rest is a search of the whole list behind its first transaction.
    have hsplit : (∀ i j, ¬ NonStandardAt classify (t :: rest) i j) ↔
        (∀ j, ¬ NonStandardAt classify (t :: rest) 0 j) ∧
          ∀ i j, ¬ NonStandardAt classify rest i j := by
      refine ⟨fun h => ⟨h 0, fun i j hnon => h (i + 1) j (nonStandardAt_cons_succ.2 hnon)⟩,
        fun h i j => ?_⟩
      rcases i with _ | i
      · exact h.1 j
      · exact fun hnon => h.2 i j (nonStandardAt_cons_succ.1 hnon)
    rw [hsplit, ← Transaction.firstNonStandard?_eq_none_iff]
    rcases hfirst : t.firstNonStandard? classify with _ | output
    · simp only [firstNonStandard?, hfirst, ih, true_and]
    · simp only [firstNonStandard?, hfirst, reduceCtorEq, false_and]

/-- What the search finds is the first, counted from the position at which the list begins. -/
theorem first_of_firstNonStandard?
    (h : firstNonStandard? classify position transactions = some (i, j)) :
    ∃ k, i = position + k ∧ FirstNonStandardAt classify transactions k j := by
  induction transactions generalizing position with
  | nil => cases h
  | cons t rest ih =>
    rcases hfirst : t.firstNonStandard? classify with _ | output
    · simp only [firstNonStandard?, hfirst] at h
      rcases ih h with ⟨k, rfl, hk⟩
      refine ⟨k + 1, by omega, nonStandardAt_cons_succ.2 hk.nonStandard, fun i' j' hnon => ?_⟩
      rcases i' with _ | i'
      -- There is nothing to be found in the first transaction.
      · exact absurd hnon (Transaction.firstNonStandard?_eq_none_iff.1 hfirst j')
      · have hle := hk.first i' j' (nonStandardAt_cons_succ.1 hnon)
        omega
    · simp only [firstNonStandard?, hfirst, Option.some.injEq, Prod.mk.injEq] at h
      rcases h with ⟨rfl, rfl⟩
      exact ⟨0, rfl, Transaction.first_of_firstNonStandard? hfirst⟩

theorem FirstNonStandardAt.firstNonStandard?_eq (h : FirstNonStandardAt classify transactions i j) :
    firstNonStandard? classify 0 transactions = some (i, j) := by
  rcases hfirst : firstNonStandard? classify 0 transactions with _ | ⟨i', j'⟩
  · exact absurd h.nonStandard (firstNonStandard?_eq_none_iff.1 hfirst i j)
  · rcases first_of_firstNonStandard? hfirst with ⟨k, hk, hother⟩
    -- Neither of two first ones comes before the other.
    have hle := h.first k j' hother.nonStandard
    have hge := hother.first i j h.nonStandard
    rw [Option.some.injEq, Prod.mk.injEq]
    omega

end

namespace Store

variable {s : Store} {length : Nat} {k : UInt64} {b : Block}

/-- The timestamps of the blocks around a height do not enclose the given one. -/
def Disordered (s : Store) (height : Nat) (time : UInt64) : Prop :=
  (∃ above, s.Stands (height + 1) above ∧ above.header.timestamp < time) ∨
    ∃ n below, n + 1 = height ∧ s.Stands n below ∧ time < below.header.timestamp

/-- A block below the tip has the neighbours that a verdict asks for, and their timestamps enclose
    its own unless they are in disorder. -/
theorem Seamless.exists_times (h : s.Seamless length)
    (hheader : ∀ d, s.blocks[b.digest]? = some d → d.header = b.header)
    (hat : s.mainAt[k]? = some b.digest) (hroom : k.toNat + 1 < length) :
    ∃ below above, Verdict.timeBelow s.snapshot b k = .ok below ∧
      Verdict.timeAbove s.snapshot k = .ok above ∧
      (timesEnclosed below b.header.timestamp above = true ↔
        ¬ s.Disordered k.toNat b.header.timestamp) := by
  rcases h.stands _ hroom with ⟨above, habove⟩
  -- There is one block above and at most one below, so "some neighbour" means that one.
  have hnext : (∃ d, s.Stands (k.toNat + 1) d ∧ d.header.timestamp < b.header.timestamp) ↔
      above.header.timestamp < b.header.timestamp :=
    ⟨fun ⟨d, hd, hlt⟩ => hd.unique habove ▸ hlt, fun hlt => ⟨above, habove, hlt⟩⟩
  have htimeAbove : Verdict.timeAbove s.snapshot k = .ok above.header.timestamp := by
    simp only [Verdict.timeAbove, snapshot, headerAt_succ habove]
  rcases hk : k.toNat with _ | n
  -- The first block of the chain has none below it.
  · have hzero : k = 0 := UInt64.toNat_inj.1 hk
    refine ⟨none, above.header.timestamp, ?_, htimeAbove, ?_⟩
    · simp only [Verdict.timeBelow, if_pos hzero]
    · rw [hk] at hnext
      simp only [timesEnclosed, Option.all_none, Disordered, hnext, Nat.add_one_ne_zero, false_and,
        exists_false, or_false, UInt64.not_lt, true_and, decide_eq_true_eq]
  · rcases h.stands n (by omega) with ⟨below, hbelow⟩
    have hprevious : (∃ m d, m + 1 = n + 1 ∧ s.Stands m d ∧
        b.header.timestamp < d.header.timestamp) ↔
        b.header.timestamp < below.header.timestamp := by
      refine ⟨?_, fun hlt => ⟨n, below, rfl, hbelow, hlt⟩⟩
      rintro ⟨m, d, hm, hd, hlt⟩
      rw [Nat.succ.inj hm] at hd
      exact hd.unique hbelow ▸ hlt
    have htimeBelow : Verdict.timeBelow s.snapshot b k = .ok (some below.header.timestamp) := by
      have hne : k ≠ 0 := by
        rintro rfl
        cases hk
      have hparent := h.header_parent hheader hat hk (Nat.lt_of_succ_lt hroom) hbelow
      simp only [Verdict.timeBelow, if_neg hne, snapshot, hparent]
    refine ⟨some below.header.timestamp, above.header.timestamp, htimeBelow, htimeAbove, ?_⟩
    rw [hk] at hnext
    simp only [timesEnclosed, Option.all_some, Disordered, hnext, hprevious, not_or, UInt64.not_lt,
      decide_eq_true_eq]
    exact and_comm

end Store

namespace Verdict

variable {classify : Bytes → Template} {confirmations best height : UInt64} {s : Store}
  {length : Nat} {b : Block} {r : Except Fault Verdict}

/-- The verdict that a block is due, with the best tip at `best`. The rungs are in order: each one
    takes for granted that those before it do not hold. -/
inductive Ruled (classify : Bytes → Template) (confirmations : UInt64) (s : Store) (best : UInt64)
    (b : Block) : Except Fault Verdict → Prop
  | offMainChain (hoff : ∀ height : UInt64, s.mainAt[height]? ≠ some b.digest) :
      Ruled classify confirmations s best b (.ok .offMainChain)
  | misplaced {height : UInt64} (hat : s.mainAt[height]? = some b.digest) (hne : height ≠ b.height) :
      Ruled classify confirmations s best b (.error (.heightMismatch b.height height))
  | tooShallow (hat : s.mainAt[b.height]? = some b.digest)
      (hshallow : best.toNat < b.height.toNat + confirmations.toNat) :
      Ruled classify confirmations s best b (.ok (.tooShallow b.height best))
  | timestampsOutOfOrder (hat : s.mainAt[b.height]? = some b.digest)
      (hdeep : b.height.toNat + confirmations.toNat ≤ best.toNat)
      (hdisorder : s.Disordered b.height.toNat b.header.timestamp) :
      Ruled classify confirmations s best b (.ok .timestampsOutOfOrder)
  | nonStandardOutput {i j : Nat} (hat : s.mainAt[b.height]? = some b.digest)
      (hdeep : b.height.toNat + confirmations.toNat ≤ best.toNat)
      (horder : ¬ s.Disordered b.height.toNat b.header.timestamp)
      (hfirst : FirstNonStandardAt classify b.transactions i j) :
      Ruled classify confirmations s best b (.ok (.nonStandardOutput i j))
  | candidate (hat : s.mainAt[b.height]? = some b.digest)
      (hdeep : b.height.toNat + confirmations.toNat ≤ best.toNat)
      (horder : ¬ s.Disordered b.height.toNat b.header.timestamp)
      (hstandard : ∀ i j, ¬ NonStandardAt classify b.transactions i j) :
      Ruled classify confirmations s best b (.ok .candidate)

theorem judge_of_off (hoff : s.heights[b.digest]? = none) :
    judge classify confirmations s.snapshot best b = .ok .offMainChain := by
  simp only [judge, Store.snapshot, Store.heightOf_of_none hoff]
  split <;> rfl

theorem judge_of_on (hat : s.heights[b.digest]? = some height) :
    judge classify confirmations s.snapshot best b =
      if height ≠ b.height then .error (.heightMismatch b.height height)
      else if liesDeep height best confirmations then judgeDeep classify s.snapshot b height
      else .ok (.tooShallow height best) := by
  simp only [judge, Store.snapshot, Store.heightOf_eq_ok_iff.2 hat]

/-- Some verdict is due, whatever the store holds. -/
theorem exists_ruled (classify : Bytes → Template) (confirmations : UInt64) (s : Store)
    (best : UInt64) (b : Block) : ∃ r, Ruled classify confirmations s best b r := by
  by_cases hon : ∃ height : UInt64, s.mainAt[height]? = some b.digest
  · rcases hon with ⟨height, hat⟩
    by_cases hheight : height = b.height
    · rw [hheight] at hat
      rcases Nat.lt_or_ge best.toNat (b.height.toNat + confirmations.toNat) with hshallow | hdeep
      · exact ⟨_, .tooShallow hat hshallow⟩
      by_cases hdisorder : s.Disordered b.height.toNat b.header.timestamp
      · exact ⟨_, .timestampsOutOfOrder hat hdeep hdisorder⟩
      rcases hsearch : firstNonStandard? classify 0 b.transactions with _ | ⟨i, j⟩
      · exact ⟨_, .candidate hat hdeep hdisorder (firstNonStandard?_eq_none_iff.1 hsearch)⟩
      · rcases first_of_firstNonStandard? hsearch with ⟨k, _, hfirst⟩
        exact ⟨_, .nonStandardOutput hat hdeep hdisorder hfirst⟩
    · exact ⟨_, .misplaced hat hheight⟩
  · exact ⟨_, .offMainChain (not_exists.1 hon)⟩

section

variable (h : s.LinkedChain length) (hbest : best.toNat < length) (hconfirmations : 1 ≤ confirmations)
  (hheader : ∀ d, s.blocks[b.digest]? = some d → d.header = b.header)
include h hbest hconfirmations hheader

/-- Deep enough means below the tip, so a deep block is judged by its neighbours and its outputs. -/
theorem judge_of_deep (hat : s.mainAt[b.height]? = some b.digest)
    (hdeep : b.height.toNat + confirmations.toNat ≤ best.toNat) :
    ∃ below above,
      (timesEnclosed below b.header.timestamp above = true ↔
        ¬ s.Disordered b.height.toNat b.header.timestamp) ∧
      judge classify confirmations s.snapshot best b =
        if timesEnclosed below b.header.timestamp above then
          match firstNonStandard? classify 0 b.transactions with
          | some (i, j) => .ok (.nonStandardOutput i j)
          | none => .ok .candidate
        else .ok .timestampsOutOfOrder := by
  -- At least one block has to lie on top, so the chain goes on above this one.
  have hone : 1 ≤ confirmations.toNat := UInt64.le_iff_toNat_le.1 hconfirmations
  have hroom : b.height.toNat + 1 < length := by omega
  rcases h.seamless.exists_times hheader hat hroom with ⟨below, above, hbelow, habove, htimes⟩
  refine ⟨below, above, htimes, ?_⟩
  rw [judge_of_on ((h.mirrored _ _).1 hat), if_neg (not_not_intro rfl),
    if_pos (liesDeep_iff.2 hdeep), judgeDeep, hbelow, habove]
  rfl

/-- A verdict that is due is given. -/
theorem Ruled.judge_eq (hruled : Ruled classify confirmations s best b r) :
    judge classify confirmations s.snapshot best b = r := by
  cases hruled with
  | offMainChain hoff =>
    refine judge_of_off (Option.eq_none_iff_forall_ne_some.2 fun height hheight => ?_)
    exact hoff height ((h.mirrored _ _).2 hheight)
  | misplaced hat hne => rw [judge_of_on ((h.mirrored _ _).1 hat), if_pos hne]
  | tooShallow hat hshallow =>
    have hnot : ¬ liesDeep b.height best confirmations = true := by
      rw [liesDeep_iff]
      omega
    rw [judge_of_on ((h.mirrored _ _).1 hat), if_neg (not_not_intro rfl), if_neg hnot]
  | timestampsOutOfOrder hat hdeep hdisorder =>
    rcases judge_of_deep h hbest hconfirmations hheader hat hdeep with ⟨_, _, htimes, hjudge⟩
    rw [hjudge, if_neg fun henclosed => htimes.1 henclosed hdisorder]
  | nonStandardOutput hat hdeep horder hfirst =>
    rcases judge_of_deep h hbest hconfirmations hheader hat hdeep with ⟨_, _, htimes, hjudge⟩
    rw [hjudge, if_pos (htimes.2 horder), hfirst.firstNonStandard?_eq]
  | candidate hat hdeep horder hstandard =>
    rcases judge_of_deep h hbest hconfirmations hheader hat hdeep with ⟨_, _, htimes, hjudge⟩
    rw [hjudge, if_pos (htimes.2 horder), firstNonStandard?_eq_none_iff.2 hstandard]

end

/-- On a linked chain the verdict that is given is the one that is due. The store never fails for
    it, and the height above a block is asked for only where it is one more than the block's. -/
theorem judge_eq_iff (h : s.LinkedChain length) (hbest : best.toNat < length)
    (hconfirmations : 1 ≤ confirmations)
    (hheader : ∀ d, s.blocks[b.digest]? = some d → d.header = b.header) :
    (∀ r, judge classify confirmations s.snapshot best b = r ↔
      Ruled classify confirmations s best b r) ∧
    (∀ cause, judge classify confirmations s.snapshot best b ≠
      .error (.inconsistentStore cause)) ∧
    ∀ height : UInt64, s.mainAt[height]? = some b.digest → liesDeep height best confirmations = true →
      (height + 1).toNat = height.toNat + 1 := by
  have hgiven : ∀ r, judge classify confirmations s.snapshot best b = r ↔
      Ruled classify confirmations s best b r := by
    refine fun r => ⟨fun hjudge => ?_, Ruled.judge_eq h hbest hconfirmations hheader⟩
    rcases exists_ruled classify confirmations s best b with ⟨due, hdue⟩
    rw [← hjudge, hdue.judge_eq h hbest hconfirmations hheader]
    exact hdue
  refine ⟨hgiven, fun cause hjudge => ?_, fun height _ hdeep => ?_⟩
  -- No rung is a fault of the store.
  · cases (hgiven _).1 hjudge
  · have hone : 1 ≤ confirmations.toNat := UInt64.le_iff_toNat_le.1 hconfirmations
    have hle := liesDeep_iff.1 hdeep
    have hlt := best.toNat_lt_size
    exact toNat_next (by omega)

/-- The first of two blocks makes a good checkpoint as soon as one block on top is enough. -/
theorem judge_eq_iff_candidate :
    let first : Block := {}
    let second : Block := { header := { parent := first.digest }, height := 1 }
    let s := (Store.empty.connect first).connect second
    judge Script.template 1 s.snapshot 1 first = .ok .candidate := by
  intro first second s
  have hdigest : second.digest ≠ first.digest := by decide +kernel
  have hlow : (Store.empty.connect first).LinkedChain 1 :=
    Store.linkedChain_empty.connect rfl (Store.heights_empty _) fun k x hk _ => by cases hk
  have hlinked : s.LinkedChain 2 := by
    refine hlow.connect rfl ?_ fun k x hk hx => ?_
    · exact Store.heights_connect_eq_none hdigest.symm (Store.heights_empty _)
    · have hzero : k = 0 := UInt64.toNat_inj.1 (Nat.succ.inj hk)
      rw [hzero, Store.mainAt_connect, if_pos rfl, Option.some.injEq] at hx
      exact hx
  have hat : s.mainAt[first.height]? = some first.digest := by
    rw [Store.mainAt_connect, if_neg (by decide), Store.mainAt_connect, if_pos rfl]
  have hheader : ∀ d, s.blocks[first.digest]? = some d → d.header = first.header := by
    intro d hd
    rw [Store.blocks_connect, if_neg hdigest, Store.blocks_connect, if_pos rfl,
      Option.some.injEq] at hd
    rw [← hd]
  -- Nothing is earlier than the zero timestamps here, and there is no block below the first.
  have horder : ¬ s.Disordered first.height.toNat first.header.timestamp := by
    rintro (⟨above, _, hlt⟩ | ⟨n, _, hn, _⟩)
    · exact UInt64.not_lt_zero hlt
    · cases hn
  exact ((judge_eq_iff hlinked (by decide) (by decide) hheader).1 _).2
    (.candidate hat (by decide) horder fun i j ⟨t, _, ht, _⟩ => by cases ht)

end Verdict

end ChainCheckpoints
