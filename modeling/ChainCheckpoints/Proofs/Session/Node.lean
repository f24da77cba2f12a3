import ChainCheckpoints.Proofs.Guard
import ChainCheckpoints.Proofs.Session.Run
import ChainCheckpoints.Proofs.Tracker.Faithful

/-!
# A Node Under Its Guard

A node that asks its guard before it changes its main chain. It puts a block on top only if the
guard has nothing against it, and cuts its chain off only where the guard admits a fork. Either
change takes two writes, one to the store and one to the best tip, and anything that does not write
to them may come in between: the anchor is asked for, a fork is asked about, or the guard is set up
again.

The invariant holds at every point, also between the two writes. It is stated for a length of the
main chain, and the two facts that carry it are about that length. A checkpoint that the best height
has come to is below it, so no call fails. The anchor is below it as well, so a tracker never holds
a block that the main chain has left. Cutting is where both are at stake: the length shrinks before
the best height does. It shrinks no further than the anchor, though, and on a settled chain the
anchor is the highest checkpoint that the best height has come to.

## Main definitions

* `Session.Phase`: whether the node is between the two writes.
* `Session.Connectable`: a block that may go on top.
* `Session.Within`: a best height that the node has come to.
* `Session.Reachable`: the sessions that a node runs through.
* `Session.Sound`: the invariant.

## Theorems

* `Session.Sound.guarded`: what changes the guard only, and asks no more of it than a call does,
  keeps the invariant.
* `Session.Sound.connect`, `Session.Sound.cut`: the first write keeps it.
* `Session.Sound.admits`: a fork that no checkpoint stands against is admitted.
* `Session.Reachable.sound`: the invariant holds throughout.
* `Session.node_safe`: no call fails, and the anchor is where it belongs.
-/

namespace ChainCheckpoints

namespace Session

open Tracker (Formed Below)

variable {table : Table} {confirmations : UInt64} {length : Nat} {s : Session} {b : Block}
  {fork : UInt64}

/-- Where a node is between its two writes. -/
inductive Phase
  | settled
  /-- A block has been connected, and the best tip has not been moved to it. -/
  | extending (b : Block)
  /-- The chain has been cut off, and the best tip has not been moved to its end. -/
  | cutting (fork : UInt64)

/-- A block that may go on top: the guard has nothing against it, the main chain does not run
    through it, and it is pinned at no other height. -/
structure Connectable (s : Session) (b : Block) : Prop where
  verified : (s.step (.verify b.height b.digest)).reply = .ok (.flag true)
  fresh : s.store.heights[b.digest]? = none
  alone : ∀ c ∈ s.guard.table.entries, c.digest = b.digest → c.height = b.height

/-- A best height that the node has come to, by its best tip or by its store. -/
def Within (s : Session) (best : UInt64) : Prop :=
  best ≤ s.best.height ∨ ∃ tip, s.store.tip? = some tip ∧ best ≤ tip.height

/-- The sessions that a node runs through. -/
inductive Reachable (table : Table) (confirmations : UInt64) : Phase → Session → Prop
  /-- The first block is connected, and the best tip is moved to it. -/
  | genesis {b : Block} (hheight : b.height = 0)
      (hb : (ofTable table confirmations).Connectable b) :
      Reachable table confirmations .settled
        ((ofTable table confirmations).step (.extend [b] true)).session
  | connect {s : Session} {b : Block} (h : Reachable table confirmations .settled s)
      (hheight : b.height.toNat = s.best.height.toNat + 1) (hb : s.Connectable b) :
      Reachable table confirmations (.extending b) (s.step (.write (.connect b))).session
  | moveUp {s : Session} {b : Block} (h : Reachable table confirmations (.extending b) s) :
      Reachable table confirmations .settled
        (s.step (.setBest { height := b.height, digest := b.digest })).session
  /-- The cut is not at the highest height of all, where it would not stop at the fork. -/
  | cut {s : Session} {fork : UInt64} (h : Reachable table confirmations .settled s)
      (hfork : fork ≤ s.best.height) (hbound : fork.toNat + 1 < UInt64.size)
      (hadmitted : (s.step (.admitFork fork)).reply = .ok .done) :
      Reachable table confirmations (.cutting fork)
        ((s.step (.admitFork fork)).session.step (.write (.cutAbove fork))).session
  | moveDown {s : Session} {fork : UInt64} {id : Digest}
      (h : Reachable table confirmations (.cutting fork) s)
      (hid : s.store.mainAt[fork]? = some id) :
      Reachable table confirmations .settled
        (s.step (.setBest { height := fork, digest := id })).session
  | addSide {phase : Phase} {s : Session} (b : Block) (h : Reachable table confirmations phase s) :
      Reachable table confirmations phase (s.step (.write (.addSide b))).session
  | restart {phase : Phase} {s : Session} (h : Reachable table confirmations phase s) :
      Reachable table confirmations phase (s.step .restart).session
  /-- Any best height may be asked for, also one that the node has not come to. -/
  | follow {phase : Phase} {s : Session} (best : Option UInt64)
      (h : Reachable table confirmations phase s) :
      Reachable table confirmations phase (s.step (.follow best)).session
  | askFork {phase : Phase} {s : Session} (fork : UInt64)
      (h : Reachable table confirmations phase s) :
      Reachable table confirmations phase (s.step (.admitFork fork)).session

/-- What the best tip has to do with the length of the main chain. -/
def Phase.Agrees (s : Session) (length : Nat) : Phase → Prop
  | .settled =>
    s.best.height.toNat + 1 = length ∧ s.store.mainAt[s.best.height]? = some s.best.digest
  | .extending b =>
    s.best.height.toNat + 1 = b.height.toNat ∧ b.height.toNat + 1 = length ∧
      s.store.mainAt[b.height]? = some b.digest
  | .cutting fork => fork.toNat + 1 = length

/-- It is a matter of the best tip and of the main chain. -/
theorem Phase.Agrees.congr {phase : Phase} {u : Session} (h : phase.Agrees s length)
    (hbest : u.best = s.best) (hmain : u.store.mainAt = s.store.mainAt) :
    phase.Agrees u length := by
  cases phase with
  | settled =>
    unfold Agrees at h ⊢
    rw [hbest, hmain]
    exact h
  | extending b =>
    unfold Agrees at h ⊢
    rw [hbest, hmain]
    exact h
  | cutting fork => exact h

/-- The invariant. -/
structure Sound (table : Table) (length : Nat) (phase : Phase) (s : Session) : Prop where
  readable : s.store.readable = true
  outages_eq : s.outages = .none
  guard_table : s.guard.table = table
  /-- The guard that a restart sets up again. -/
  origin_table : s.origin.1.table = table
  origin_cold : s.origin.1.tracker = .cold
  keyed : s.store.Keyed
  honours : s.store.Honours table length
  /-- A checkpoint that the best height has come to is in the main chain. -/
  reached : ∀ c ∈ table.entries, c.height ≤ s.best.height → c.height.toNat < length
  /-- And so is the anchor. -/
  formed : Formed (Below length) table s.guard.tracker
  agrees : phase.Agrees s length

variable {phase : Phase}

namespace Sound

theorem source_eq (h : Sound table length phase s) : s.source = .ok s.store.snapshot :=
  Store.source_under_eq_ok_iff.2 ⟨h.readable, by rw [h.outages_eq]; rfl⟩

theorem faithful (h : Sound table length phase s) : s.store.snapshot.Faithful table length :=
  h.honours.faithful h.keyed

/-- The heights that the node has come to do not go beyond the main chain. -/
theorem within (h : Sound table length phase s) {best : UInt64} (hbest : s.Within best) :
    ∀ c ∈ table.entries, c.height ≤ best → c.height.toNat < length := by
  intro c hc hdue
  rcases hbest with hle | ⟨tip, htip, hle⟩
  · exact h.reached c hc (UInt64.le_trans hdue hle)
  · have hlength := (h.honours.toChain.tip?_eq_some_iff.1 htip).1
    have hcle := UInt64.le_iff_toNat_le.1 (UInt64.le_trans hdue hle)
    omega

/-- A guard with the same table and an anchor below the length is as good. -/
theorem guarded {g : Guard} (h : Sound table length phase s) (htable : g.table = table)
    (hformed : Formed (Below length) table g.tracker) :
    Sound table length phase { s with guard := g } :=
  { h with
    guard_table := htable
    formed := hformed
    agrees := h.agrees.congr rfl rfl }

theorem follow_eq (h : Sound table length phase s) (best : UInt64) :
    s.guard.follow s.source best =
      (s.guard.tracker.follow table (.ok s.store.snapshot) best).mapState
        fun tracker => { s.guard with tracker } := by
  rw [h.source_eq, ← h.guard_table]
  rfl

/-- A question for the anchor has an answer if the best height is not ahead of the main chain. -/
theorem exists_anchor (h : Sound table length phase s) {best : UInt64}
    (hbest : ∀ c ∈ table.entries, c.height ≤ best → c.height.toNat < length) :
    ∃ a, (s.guard.follow s.source best).answer = .ok a := by
  rw [h.follow_eq]
  exact Tracker.exists_answer h.faithful hbest

theorem follow (h : Sound table length phase s) (best : UInt64) :
    Sound table length phase { s with guard := (s.guard.follow s.source best).state } := by
  -- What is confirmed is below the length, whatever the best height is.
  rw [h.follow_eq]
  exact h.guarded h.guard_table (h.formed.below h.faithful)

/-- On a chain whose tip is the best tip, the anchor is the highest checkpoint that has been
    reached. -/
theorem place_eq {a : Option Block} (h : Sound table length phase s)
    (htip : s.store.tip? = some s.best)
    (hanswer : (s.guard.follow s.source s.best.height).answer = .ok a) :
    a.map Block.place = table.reached? s.best.height := by
  have hlength := (h.honours.toChain.tip?_eq_some_iff.1 htip).1
  rw [h.follow_eq] at hanswer
  refine h.formed.place_eq h.faithful (fun c _ => ?_) hanswer
  rw [UInt64.le_iff_toNat_le]
  omega

theorem tip?_eq (h : Sound table length .settled s) : s.store.tip? = some s.best :=
  h.honours.toChain.tip?_eq_some_iff.2 h.agrees

/-- The best tip may be moved to the end of the main chain. -/
theorem moveTip {tip : Tip} (h : Sound table length phase s)
    (hlength : tip.height.toNat + 1 = length) (hat : s.store.mainAt[tip.height]? = some tip.digest) :
    Sound table length .settled { s with best := tip } :=
  { h with
    reached := fun c _ hdue => by
      have hle : c.height.toNat ≤ tip.height.toNat := UInt64.le_iff_toNat_le.1 hdue
      omega
    agrees := ⟨hlength, hat⟩ }

theorem addSide (h : Sound table length phase s) (b : Block) :
    Sound table length phase { s with store := s.store.addSide b } :=
  { h with
    keyed := h.keyed.write (.addSide b)
    honours := h.honours.addSide b
    agrees := h.agrees.congr rfl rfl }

end Sound

theorem Connectable.pinned (hb : s.Connectable b) :
    ∀ c ∈ s.guard.table.entries, c.height = b.height → c.digest = b.digest := by
  have hverified := hb.verified
  rw [reply_verify, Except.ok.injEq, Reply.flag.injEq] at hverified
  exact Guard.verify_iff.1 hverified

theorem connectable_of_pinned (htable : s.guard.table = table)
    (hfresh : s.store.heights[b.digest]? = none)
    (hpinned : ∀ c ∈ table.entries, c.height = b.height ↔ c.digest = b.digest) :
    s.Connectable b where
  verified := by
    rw [reply_verify, Guard.verify_iff.2 fun c hc => (hpinned c (htable ▸ hc)).1]
  fresh := hfresh
  alone c hc := (hpinned c (htable ▸ hc)).2

theorem Sound.connect (h : Sound table length .settled s) (hb : s.Connectable b)
    (hheight : b.height.toNat = s.best.height.toNat + 1) :
    Sound table (length + 1) (.extending b) { s with store := s.store.connect b } := by
  have htable := h.guard_table
  have hlength : b.height.toNat = length := hheight.trans h.agrees.1
  have hat : (s.store.connect b).mainAt[b.height]? = some b.digest := by
    rw [Store.mainAt_connect, if_pos rfl]
  exact { h with
    keyed := h.keyed.write (.connect b)
    honours := h.honours.connect hlength hb.fresh (htable ▸ hb.pinned) (htable ▸ hb.alone)
    reached := fun c hc hdue => Nat.lt_succ_of_lt (h.reached c hc hdue)
    formed := h.formed.mono fun c d _ hbelow => ⟨hbelow.1, Nat.lt_succ_of_lt hbelow.2⟩
    agrees := ⟨hheight.symm, congrArg (· + 1) hlength, hat⟩ }

/-- A fork that is admitted on a settled chain is not below any checkpoint that the best height has
    come to, nor below the anchor that the guard is left with. -/
theorem Sound.le_fork (h : Sound table length .settled s)
    (hadmitted : (s.guard.admitFork s.source s.best.height fork).answer = .ok ()) :
    (∀ c ∈ table.entries, c.height ≤ s.best.height → c.height ≤ fork) ∧
      ∀ b, (s.guard.follow s.source s.best.height).state.tracker.block? = some b →
        b.height ≤ fork := by
  rcases h.exists_anchor h.reached with ⟨a, ha⟩
  have hplace := h.place_eq h.tip?_eq ha
  have hanchor : ∀ b, a = some b → b.height ≤ fork := by
    rintro b rfl
    rw [Guard.admitFork_answer ha] at hadmitted
    refine UInt64.not_lt.1 fun hlt => ?_
    simp only [Option.filter_some, hlt, decide_true, ↓reduceIte, reduceCtorEq] at hadmitted
  refine ⟨fun c hc hdue => ?_, fun b hb => hanchor b ?_⟩
  · -- The anchor is the highest checkpoint that has been reached, and `c` has been.
    rcases hreached : table.reached? s.best.height with _ | d
    · exact absurd (Table.reached?_eq_none_iff.1 hreached c hc) (UInt64.not_lt.2 hdue)
    · rw [hreached] at hplace
      rcases Option.map_eq_some_iff.1 hplace with ⟨b, hb, hbd⟩
      have hle := (Table.greatest_of_reached? hreached).2.2 c hc hdue
      rw [← hbd] at hle
      exact UInt64.le_trans hle (hanchor b hb)
  · have hfollow := ha
    rw [h.follow_eq] at hb hfollow
    rw [h.formed.answer_eq hfollow]
    exact hb

/-- A fork that is not below any checkpoint that the best height has come to is admitted on a settled
    chain. -/
theorem Sound.admits (h : Sound table length .settled s)
    (hfork : ∀ c ∈ table.entries, c.height ≤ s.best.height → c.height ≤ fork) :
    (s.step (.admitFork fork)).reply = .ok .done := by
  rcases h.exists_anchor h.reached with ⟨a, ha⟩
  have hplace := h.place_eq h.tip?_eq ha
  have hnone : a.filter (fork < ·.height) = none := by
    rw [Option.filter_eq_none_iff]
    rintro b rfl hlt
    -- The anchor is a checkpoint that has been reached.
    rcases Table.greatest_of_reached? hplace.symm with ⟨hc, hdue, _⟩
    exact UInt64.not_le.2 (of_decide_eq_true hlt) (hfork _ hc hdue)
  rw [reply_admitFork, Guard.admitFork_answer ha, hnone]
  rfl

/-- A cut makes the main chain shorter, but no checkpoint is cut off that the best height has come
    to, and the anchor is not either. -/
theorem Sound.cut (h : Sound table length .settled s) (hfork : fork ≤ s.best.height)
    (hbound : fork.toNat + 1 < UInt64.size)
    (hadmitted : (s.guard.admitFork s.source s.best.height fork).answer = .ok ()) :
    Sound table (fork.toNat + 1) (.cutting fork)
      { s with
        guard := (s.guard.follow s.source s.best.height).state
        store := s.store.cutAbove fork } := by
  -- The fork is a height of the main chain, since the best tip is its end.
  have hlt : fork.toNat < length := by
    have hle := UInt64.le_iff_toNat_le.1 hfork
    have hlength := h.agrees.1
    omega
  have hfollow := h.follow s.best.height
  rcases h.le_fork hadmitted with ⟨hdue, hanchor⟩
  exact { hfollow with
    honours := h.honours.cutAbove hlt hbound
    reached := fun c hc hle =>
      Nat.lt_succ_of_le (UInt64.le_iff_toNat_le.1 (hdue c hc hle))
    formed := hfollow.formed.mono fun c b hb hbelow => by
      have hle := UInt64.le_iff_toNat_le.1 (hanchor b hb)
      rw [hbelow.1.1] at hle
      exact ⟨hbelow.1, Nat.lt_succ_of_le hle⟩
    agrees := rfl }

/-- The first block makes a main chain of one block. -/
theorem sound_genesis (hheight : b.height = 0)
    (hb : (ofTable table confirmations).Connectable b) :
    Sound table 1 .settled ((ofTable table confirmations).connect true b) where
  readable := rfl
  outages_eq := rfl
  guard_table := rfl
  origin_table := rfl
  origin_cold := rfl
  keyed := Store.keyed_empty.write (.connect b)
  honours := (Store.honours_empty table).connect (congrArg UInt64.toNat hheight) hb.fresh
    hb.pinned hb.alone
  reached c _ hdue := by
    have hle : c.height.toNat ≤ b.height.toNat := UInt64.le_iff_toNat_le.1 hdue
    rw [hheight] at hle
    exact Nat.lt_succ_of_le hle
  formed := .cold
  agrees := by
    refine ⟨congrArg (fun h => h.toNat + 1) hheight, ?_⟩
    exact (Store.mainAt_connect _ b b.height).trans (if_pos rfl)

/-- A fork is admitted, or it is refused for the anchor above it. -/
theorem Sound.admitFork_cases (h : Sound table length phase s) (fork : UInt64) :
    ((s.guard.admitFork s.source s.best.height fork).answer = .ok () ∧
        (s.step (.admitFork fork)).reply = .ok .done) ∨
      ∃ height, fork < height ∧ (s.step (.admitFork fork)).reply =
        .error (.fault (.forkBelowCheckpoint fork height)) := by
  rcases h.exists_anchor h.reached with ⟨a, ha⟩
  have hanswer := Guard.admitFork_answer ha fork
  rcases hanchor : a.filter (fork < ·.height) with _ | anchor
  · rw [hanchor] at hanswer
    exact .inl ⟨hanswer, by rw [reply_admitFork, hanswer]; rfl⟩
  · have hlt : fork < anchor.height := of_decide_eq_true (Option.filter_eq_some_iff.1 hanchor).2
    rw [hanchor] at hanswer
    exact .inr ⟨anchor.height, hlt, by rw [reply_admitFork, hanswer]; rfl⟩

theorem Reachable.sound (h : Reachable table confirmations phase s) :
    ∃ length, Sound table length phase s := by
  induction h with
  | genesis hheight hb => exact ⟨1, sound_genesis hheight hb⟩
  | connect _ hheight hb ih =>
    rcases ih with ⟨length, ih⟩
    exact ⟨length + 1, ih.connect hb hheight⟩
  | moveUp _ ih =>
    -- The connected block is the end of the main chain.
    rcases ih with ⟨length, ih⟩
    exact ⟨length, ih.moveTip ih.agrees.2.1 ih.agrees.2.2⟩
  | @cut s fork _ hfork hbound hadmitted ih =>
    rcases ih with ⟨length, ih⟩
    -- The question for the fork may have moved the anchor up before the chain is cut.
    rcases ih.admitFork_cases fork with ⟨hanswer, _⟩ | ⟨_, _, hreply⟩
    · rw [step_admitFork]
      exact ⟨fork.toNat + 1, ih.cut hfork hbound hanswer⟩
    · cases hadmitted.symm.trans hreply
  | moveDown _ hid ih =>
    rcases ih with ⟨length, ih⟩
    exact ⟨length, ih.moveTip ih.agrees hid⟩
  | addSide b _ ih =>
    rcases ih with ⟨length, ih⟩
    exact ⟨length, ih.addSide b⟩
  | restart _ ih =>
    -- The guard forgets its anchor, which asks less of the main chain.
    rcases ih with ⟨length, ih⟩
    exact ⟨length, ih.guarded ih.origin_table (ih.origin_cold ▸ .cold)⟩
  | follow best _ ih =>
    rcases ih with ⟨length, ih⟩
    exact ⟨length, ih.follow _⟩
  | @askFork _ s fork _ ih =>
    rcases ih with ⟨length, ih⟩
    rw [step_admitFork]
    exact ⟨length, ih.follow _⟩

/-- Throughout the life of a node: a question for the anchor has an answer, at any best height that
    the node has come to; where the tips agree, and they do on a settled chain, the answer for the
    best tip is the highest checkpoint up to it; a fork is admitted or refused, and no question for
    it fails; the main chain runs through every checkpoint that the best height has come to; and it
    runs through the anchor that the guard holds, which is a checkpoint. -/
theorem node_safe (h : Reachable table confirmations phase s) :
    (∀ best : Option UInt64, s.Within (best.getD s.best.height) →
      ∃ a, (s.step (.follow best)).reply = .ok (.anchor a) ∧
        (s.store.tip? = some s.best → best.getD s.best.height = s.best.height →
          a.map Block.place = table.reached? s.best.height)) ∧
    (phase = .settled → s.store.tip? = some s.best) ∧
    (∀ fork, (s.step (.admitFork fork)).reply = .ok .done ∨
      ∃ height, fork < height ∧ (s.step (.admitFork fork)).reply =
        .error (.fault (.forkBelowCheckpoint fork height))) ∧
    (∀ c ∈ table.entries, c.height ≤ s.best.height →
      s.store.mainAt[c.height]? = some c.digest) ∧
    ∀ b, s.guard.cachedAnchor = some b →
      b.place ∈ table.entries ∧ s.store.mainAt[b.height]? = some b.digest := by
  rcases h.sound with ⟨length, hsound⟩
  refine ⟨fun best hbest => ?_, fun hphase => ?_, fun fork => ?_, fun c hc hdue => ?_,
    fun b hb => ?_⟩
  -- The anchor is asked for.
  · rcases hsound.exists_anchor (hsound.within hbest) with ⟨a, ha⟩
    refine ⟨a, by rw [reply_follow, ha]; rfl, fun htip hbest => ?_⟩
    rw [hbest] at ha
    exact hsound.place_eq htip ha
  · subst hphase
    exact hsound.tip?_eq
  · rcases hsound.admitFork_cases fork with ⟨_, hdone⟩ | hrefused
    · exact .inl hdone
    · exact .inr hrefused
  · exact hsound.honours.pinned c hc (hsound.reached c hc hdue)
  -- The anchor is below the length of the main chain, and there the chain honours the table.
  · rcases hsound.formed.exists_entry hb with ⟨c, hc, hpins, hlt⟩
    rw [hpins.place_eq, hpins.1, hpins.2]
    exact ⟨hc, hsound.honours.pinned c hc hlt⟩

/-- A node whose first two blocks are pinned connects a third one, asks for a fork below the second
    and for one at it, and goes back to it. The anchor is asked for between the two writes of
    either change, and the guard is set up again before the second of them. -/
theorem node_safe_after_cut :
    let first : Block := {}
    let second : Block := { header := { parent := first.digest }, height := 1 }
    let third : Block := { header := { parent := second.digest }, height := 2 }
    let table : Table := {
      entries := [⟨0, first.digest⟩, ⟨1, second.digest⟩]
      ascending := List.pairwise_pair.2 (by decide) }
    let halfway := (ofTable table 1).after [
      .extend [first] true,
      .write (.connect second), .setBest { height := 1, digest := second.digest },
      .write (.connect third), .follow none, .setBest { height := 2, digest := third.digest },
      .admitFork 0, .admitFork 1, .write (.cutAbove 1)]
    let settled := halfway.after [
      .follow none, .restart, .setBest { height := 1, digest := second.digest },
      .write (.addSide third)]
    Reachable table 1 (.cutting 1) halfway ∧
      (∃ a, (halfway.step (.follow none)).reply = .ok (.anchor a)) ∧
      Reachable table 1 .settled settled ∧
      settled.store.tip? = some { height := 1, digest := second.digest } ∧
      ∃ a, (settled.step (.follow none)).reply = .ok (.anchor a) ∧
        a.map Block.place = some ⟨1, second.digest⟩ := by
  intro first second third table halfway settled
  have hdistinct : [first.digest, second.digest, third.digest].Pairwise (· ≠ ·) := by
    decide +kernel
  simp only [List.pairwise_cons, List.mem_cons, List.not_mem_nil, or_false, forall_eq_or_imp,
    forall_eq, false_implies, implies_true, List.Pairwise.nil, and_true] at hdistinct
  obtain ⟨⟨hsecond, hthird⟩, hlater⟩ := hdistinct
  have hpins : ∀ b : Block, (0 = b.height ↔ first.digest = b.digest) →
      (1 = b.height ↔ second.digest = b.digest) →
      ∀ c ∈ table.entries, c.height = b.height ↔ c.digest = b.digest := by
    intro b hzero hone
    exact List.forall_mem_cons.2 ⟨hzero, List.forall_mem_singleton.2 hone⟩
  have hgenesis : (ofTable table 1).Connectable first :=
    connectable_of_pinned rfl (Store.heights_empty _)
      (hpins first (iff_of_true rfl rfl) (iff_of_false (by decide) hsecond.symm))
  have hstart := Reachable.genesis rfl hgenesis
  have hfresh : (Store.empty.connect first).heights[second.digest]? = none :=
    Store.heights_connect_eq_none hsecond (Store.heights_empty _)
  have hextended := hstart.connect (b := second) rfl (connectable_of_pinned rfl hfresh
    (hpins second (iff_of_false (by decide) hsecond) (iff_of_true rfl rfl)))
  have hfresh : ((Store.empty.connect first).connect second).heights[third.digest]? = none :=
    Store.heights_connect_eq_none hlater
      (Store.heights_connect_eq_none hthird (Store.heights_empty _))
  have hextended := hextended.moveUp.connect (b := third) rfl (connectable_of_pinned rfl hfresh
    (hpins third (iff_of_false (by decide) hthird) (iff_of_false (by decide) hlater)))
  have hasked := (hextended.follow none).moveUp.askFork 0
  rcases hasked.sound with ⟨length, hsound⟩
  have hlow : ∀ c ∈ table.entries, c.height ≤ 1 :=
    List.forall_mem_cons.2 ⟨by decide, List.forall_mem_singleton.2 (by decide)⟩
  have hadmitted := @Sound.admits table length _ 1 hsound fun c hc _ => hlow c hc
  have hcut : Reachable table 1 (.cutting 1) halfway :=
    hasked.cut (by decide) (by decide) hadmitted
  have hat : halfway.store.mainAt[(1 : UInt64)]? = some second.digest := by
    let whole := ((Store.empty.connect first).connect second).connect third
    have hentry : whole.mainAt[(1 : UInt64)]? = some second.digest := by
      rw [Store.mainAt_connect, if_neg (by decide), Store.mainAt_connect, if_pos rfl]
    exact (Store.mainAt_cutAbove whole 1 1).trans ((if_pos (by decide)).trans hentry)
  have hsettled : Reachable table 1 .settled settled :=
    (((hcut.follow none).restart).moveDown hat).addSide third
  refine ⟨hcut, ?_, hsettled, (node_safe hsettled).2.1 rfl, ?_⟩
  · rcases (node_safe hcut).1 none (.inl (UInt64.le_refl _)) with ⟨a, hreply, _⟩
    exact ⟨a, hreply⟩
  · rcases (node_safe hsettled).1 none (.inl (UInt64.le_refl _)) with ⟨a, hreply, hplace⟩
    exact ⟨a, hreply, hplace ((node_safe hsettled).2.1 rfl) rfl⟩

end Session

end ChainCheckpoints
