import ChainCheckpoints.Proofs.Guard.Entries
import ChainCheckpoints.Proofs.Guard.Faults
import ChainCheckpoints.Proofs.Guard.Pins

/-!
# Candidates Continue the Table

A survey walks down from the highest height that is deep enough to the lowest one above the table,
and takes the candidates that it meets. So what it finds descends and lies above the table,
whatever the store answers. Turned around it ascends from where the table ends, and that is all
that a table asks for: a configuration with the candidates at its end has a table again.

A table that ends at the highest height of all is an exception. The count of the heights above it
wraps around to zero, and the survey goes down to the first block.

## Main definitions

* `Guard.Surveyed`: how a survey comes to what it finds, height by height.
* `Guard.RoomAbove`: a guard whose table ends below the highest height of all.

## Theorems

* `Guard.surveyed_of_survey`: what a survey gives has been surveyed.
* `Guard.Surveyed.within`, `Guard.Surveyed.descends`: the heights of what is found.
* `Guard.candidates_cases`: the candidates have been surveyed, if there was anything to look for.
* `Guard.lowestNew_le_iff`: the lowest height to survey is right above the table.
* `Guard.ascending_candidates`: the candidates, lowest first, go on where the table ends.
* `Guard.candidates_extend`: a configuration can be extended by the candidates.
-/

namespace ChainCheckpoints

namespace Guard

variable {g : Guard} {source : Except ReadError Snapshot} {view : Snapshot} {best : UInt64}
  {lowest count room max : Nat} {found : List Checkpoint}

/-- How a survey of `count` heights from `lowest` up, with room for `room` candidates, comes to what it
    finds. The highest height is the first. -/
inductive Surveyed (g : Guard) (view : Snapshot) (best : UInt64) (lowest : Nat) :
    (count room : Nat) → List Checkpoint → Prop
  | exhausted (room : Nat) : Surveyed g view best lowest 0 room []
  | full (count : Nat) : Surveyed g view best lowest count 0 []
  | taken {count room : Nat} {id : Digest} {b : Block} {found : List Checkpoint}
    (hat : blockAt view (UInt64.ofNat (lowest + count)) = .ok (id, b))
    (hjudge : (g.judgeIn view best b).1 = .ok .candidate)
    (hrest : Surveyed g view best lowest count room found) :
    Surveyed g view best lowest (count + 1) (room + 1)
      ({ height := UInt64.ofNat (lowest + count), digest := id } :: found)
  | passed {count room : Nat} {id : Digest} {b : Block} {verdict : Verdict} {found : List Checkpoint}
    (hat : blockAt view (UInt64.ofNat (lowest + count)) = .ok (id, b))
    (hjudge : (g.judgeIn view best b).1 = .ok verdict) (hverdict : verdict ≠ .candidate)
    (hrest : Surveyed g view best lowest count (room + 1) found) :
    Surveyed g view best lowest (count + 1) (room + 1) found

/-- What a survey gives has been surveyed. The induction is on the heights that are left. -/
theorem surveyed_of_survey (h : (g.survey view best lowest count room).1 = .ok found) :
    Surveyed g view best lowest count room found := by
  induction count generalizing room found with
  | zero =>
    simp only [survey, Except.ok.injEq] at h
    exact h ▸ .exhausted room
  | succ count ih =>
    rcases room with _ | room
    · simp only [survey, Except.ok.injEq] at h
      exact h ▸ .full (count + 1)
    rcases hat : blockAt view (UInt64.ofNat (lowest + count)) with e | ⟨id, b⟩
    · simp only [survey, hat, reduceCtorEq] at h
    rcases hjudge : g.judgeIn view best b with ⟨e | verdict, events⟩
    · simp only [survey, hat, hjudge, reduceCtorEq] at h
    have hanswer : (g.judgeIn view best b).1 = .ok verdict := congrArg Prod.fst hjudge
    by_cases hgood : verdict.isCandidate = true
    · have hcandidate : verdict = .candidate := of_decide_eq_true hgood
      simp only [survey, hat, hjudge, if_pos hgood] at h
      rcases hrest : (g.survey view best lowest count room).1 with e | rest
      · rw [hrest] at h
        cases h
      · rw [hrest] at h
        cases h
        exact .taken hat (hcandidate ▸ hanswer) (ih hrest)
    · simp only [survey, hat, hjudge, if_neg hgood] at h
      exact .passed hat hanswer (fun heq => hgood (decide_eq_true heq)) (ih h)

/-- What is found lies in the range that was surveyed. -/
theorem Surveyed.within (h : Surveyed g view best lowest count room found)
    (hfits : lowest + count ≤ UInt64.size) {c : Checkpoint} (hc : c ∈ found) :
    lowest ≤ c.height.toNat ∧ c.height.toNat < lowest + count := by
  induction h with
  | exhausted | full => cases hc
  | @taken count room id b found _ _ _ ih =>
    -- The height did not wrap when it was made a word.
    have hheight : (UInt64.ofNat (lowest + count)).toNat = lowest + count :=
      UInt64.toNat_ofNat_of_lt' (by omega)
    rcases List.mem_cons.1 hc with rfl | hc
    · dsimp only
      omega
    · have := ih (by omega) hc
      omega
  | passed _ _ _ _ ih =>
    have := ih (by omega) hc
    omega

/-- What is found descends. -/
theorem Surveyed.descends (h : Surveyed g view best lowest count room found)
    (hfits : lowest + count ≤ UInt64.size) : found.Pairwise fun c d => d.height < c.height := by
  induction h with
  | exhausted | full => exact .nil
  | @taken count room id b found _ _ hrest ih =>
    refine .cons (fun c hc => ?_) (ih (by omega))
    have hheight : (UInt64.ofNat (lowest + count)).toNat = lowest + count :=
      UInt64.toNat_ofNat_of_lt' (by omega)
    have hlower := hrest.within (by omega) hc
    rw [UInt64.lt_iff_toNat_lt, hheight]
    exact hlower.2
  | passed _ _ _ _ ih => exact ih (by omega)

/-- The heights to survey end where the tip is deep, so they are heights. -/
theorem breadth_fits (hsome : g.breadth best ≠ 0) :
    g.lowestNew.toNat + g.breadth best ≤ UInt64.size := by
  unfold breadth at hsome ⊢
  by_cases hdeep : g.confirmations ≤ best
  · rw [if_pos hdeep] at hsome ⊢
    -- The heights end right above the first one that is deep enough, which is a word.
    have hstart := (best - g.confirmations).toNat_lt_size
    omega
  · rw [if_neg hdeep] at hsome
    exact absurd rfl hsome

/-- The candidates have been surveyed, or there is nothing to look for and the store is not opened. -/
theorem candidates_cases (h : (g.candidates source best max).1 = .ok found) :
    ((g.breadth best = 0 ∨ max = 0) ∧ found = []) ∨
      ∃ view, source = .ok view ∧ g.breadth best ≠ 0 ∧
        Surveyed g view best g.lowestNew.toNat (g.breadth best) max found := by
  by_cases hnothing : g.breadth best = 0 ∨ max = 0
  · simp only [candidates, if_pos hnothing, Except.ok.injEq] at h
    exact .inl ⟨hnothing, h.symm⟩
  · rcases source with e | view
    · simp only [candidates, if_neg hnothing, reduceCtorEq] at h
    · simp only [candidates, if_neg hnothing] at h
      exact .inr ⟨view, rfl, (not_or.1 hnothing).1, surveyed_of_survey h⟩

/-- The candidates descend, and none of them is below the lowest height to look at. -/
theorem heights_of_candidates (h : (g.candidates source best max).1 = .ok found) :
    (∀ c ∈ found, g.lowestNew ≤ c.height) ∧ found.Pairwise fun c d => d.height < c.height := by
  rcases candidates_cases h with ⟨_, rfl⟩ | ⟨view, _, hsome, hsurveyed⟩
  · exact ⟨fun c hc => absurd hc List.not_mem_nil, .nil⟩
  · have hfits := breadth_fits hsome
    refine ⟨?_, hsurveyed.descends hfits⟩
    intro c hc
    exact UInt64.le_iff_toNat_le.2 (hsurveyed.within hfits hc).1

/-- The highest checkpoint of the table is not at the highest height of all. -/
def RoomAbove (g : Guard) : Prop :=
  ∀ c, g.table.highest? = some c → c.height.toNat + 1 < UInt64.size

/-- The lowest height to look at, and all above it, are the heights above the table. -/
theorem lowestNew_le_iff (hroom : g.RoomAbove) {height : UInt64} :
    g.lowestNew ≤ height ↔ ∀ c ∈ g.table.entries, c.height < height := by
  rcases htop : g.table.highest? with _ | top
  · have hempty : g.table.entries = [] := List.getLast?_eq_none_iff.1 htop
    simp only [lowestNew, htop, hempty, List.not_mem_nil, false_implies, implies_true, iff_true]
    exact UInt64.zero_le
  · rcases Table.highest_of_highest? htop with ⟨hmem, hgreatest⟩
    simp only [lowestNew, htop]
    rw [next_le_iff (hroom top htop)]
    constructor
    · intro hlt c hc
      exact UInt64.lt_of_le_of_lt (hgreatest c hc) hlt
    · intro hall
      exact hall top hmem

/-- The candidates, lowest first, go on where the table ends. -/
theorem ascending_candidates (hroom : g.RoomAbove)
    (h : (g.candidates source best max).1 = .ok found) :
    Table.Ascending (g.table.entries ++ found.reverse) := by
  obtain ⟨habove, hdescends⟩ := heights_of_candidates h
  refine List.pairwise_append.2 ⟨g.table.ascending, List.pairwise_reverse.2 hdescends, ?_⟩
  intro c hc d hd
  exact (lowestNew_le_iff hroom).1 (habove d (List.mem_reverse.1 hd)) c hc

/-- The table of a guard is the table of the configuration that it was made from. -/
theorem table?_of_ofConfig? {config : Config} {events : List Event}
    (h : ofConfig? config = .ok (g, events)) : config.table? = .ok g.table := by
  rw [ofConfig?] at h
  rcases hvalid : config.validate with fault | _
  · rw [hvalid] at h
    cases h
  rcases htable : config.table? with fault | table
  · rw [hvalid, htable] at h
    cases h
  · rw [hvalid, htable] at h
    cases h
    rfl

/-- The heights of a table are those of the configuration that it was made from. -/
theorem roomAbove_of_table? {config : Config} (htable : config.table? = .ok g.table)
    (hheights : ∀ h ∈ config.heights, h.toNat + 1 < UInt64.size) : g.RoomAbove := by
  intro c htop
  have hdenoted := Config.mapM_eq_ok_iff.1 (Config.table?_eq_ok_iff.1 htable)
  refine hheights c.height ?_
  rw [Config.heights, ← Config.heights_of_denoted hdenoted]
  exact List.mem_map_of_mem (Table.highest_of_highest? htop).1

/-- Whatever a guard has been through, and whatever the store holds: if no height of its
    configuration is the highest of all, then with the candidates after its own checkpoints, lowest
    first, the configuration has a table, and it consists of these checkpoints. -/
theorem candidates_extend {config : Config} {events : List Event} {tracker : Tracker}
    (hheights : ∀ h ∈ config.heights, h.toNat + 1 < UInt64.size)
    (hbuilt : ofConfig? config = .ok (g, events))
    (hfound : (({ g with tracker } : Guard).candidates source best max).1 = .ok found) :
    ∃ configured extended : Table, config.table? = .ok configured ∧
      (config.addAll found.reverse).table? = .ok extended ∧
      extended.entries = configured.entries ++ found.reverse := by
  -- Whatever the tracker has become, the table is the one that the guard was made with.
  let held : Guard := { g with tracker }
  have htable := table?_of_ofConfig? hbuilt
  have hroom : held.RoomAbove := roomAbove_of_table? htable hheights
  have hascending : Table.Ascending (held.table.entries ++ found.reverse) :=
    ascending_candidates hroom hfound
  let extended : Table := { entries := g.table.entries ++ found.reverse, ascending := hascending }
  exact ⟨g.table, extended, htable, Config.table?_addAll htable rfl, rfl⟩

/-- Of three blocks above the only checkpoint the lower two are deep enough, and both are candidates.
    The higher one is found first and comes last in the table. -/
theorem candidates_extend_by_two :
    let first : Block := {}
    let second : Block := { header := { parent := first.digest }, height := 1 }
    let third : Block := { header := { parent := second.digest }, height := 2 }
    let fourth : Block := { header := { parent := third.digest }, height := 3 }
    let s := [first, second, third, fourth].foldl Store.connect .empty
    let pinned : Checkpoint := { height := 0, digest := first.digest }
    let lower : Checkpoint := { height := 1, digest := second.digest }
    let upper : Checkpoint := { height := 2, digest := third.digest }
    let config : Config := { checkpoints := [.ofCheckpoint pinned], confirmations := 1 }
    let table : Table := { entries := [pinned], ascending := List.pairwise_singleton _ _ }
    let guard : Guard := { table, confirmations := 1 }
    (∀ h ∈ config.heights, h.toNat + 1 < UInt64.size) ∧
      ofConfig? config = .ok (guard, [.loaded 1 1]) ∧
      (guard.candidates s.source 3 5).1 = .ok [upper, lower] ∧
      ∃ configured extended : Table, config.table? = .ok configured ∧
        (config.addAll [lower, upper]).table? = .ok extended ∧
        extended.entries = configured.entries ++ [lower, upper] := by
  intro first second third fourth s pinned lower upper config table guard
  have hheights : ∀ h ∈ config.heights, h.toNat + 1 < UInt64.size := by
    intro h hh
    rw [show h = 0 from List.mem_singleton.1 hh]
    decide
  have hbuilt : ofConfig? config = .ok (guard, [.loaded 1 1]) := by
    have htable : config.table? = .ok table :=
      Config.table?_eq_ok_iff.2 (Config.mapM_ofCheckpoint [pinned])
    rw [ofConfig?, htable]
    rfl
  have hfound : (guard.candidates s.source 3 5).1 = .ok [upper, lower] := by decide +kernel
  have hextended := @candidates_extend guard s.source 3 5 [upper, lower] config _ .cold hheights
    hbuilt hfound
  exact ⟨hheights, hbuilt, hfound, hextended⟩

end Guard

end ChainCheckpoints
