import ChainCheckpoints.Proofs.Chain.Format

/-!
# What a Configuration Carries

A configuration goes from one network to another as text, and nothing may be lost on the way: neither a
digest that is no digest yet, nor a checkpoint, nor the order of the checkpoints. On arrival the digests
are read. A checkpoint that was added as such has its digest in the form in which digests are written,
so it arrives as the checkpoint that it was, and the checkpoints of a table arrive as that table.

## Main definitions

* `Config.toText`: the compact text of a configuration.
* `Config.addAll`: a configuration with further checkpoints.

## Theorems

* `Table.ofList?_eq_ok_iff`: the table of a list has the entries of the list.
* `Config.table?_eq_ok_iff`: the table of a configuration by its checkpoints.
* `Config.table?_addAll`: further checkpoints come after those that are there.
* `Config.roundTrips`: a configuration survives its JSON form.
* `Config.text_carries`: a configuration survives its text, and so does a table that it is made of.
-/

namespace ChainCheckpoints

namespace Table

variable {t u : Table} {entries : List Checkpoint}

/-- The index is determined by the entries. -/
theorem ext_entries (h : t.entries = u.entries) : t = u := by
  rcases t with ⟨entries, ascending, positions, rfl⟩
  rcases u with ⟨entries', ascending', positions', rfl⟩
  cases h
  rfl

theorem ofList?_entries (t : Table) : ofList? t.entries = .ok t := by
  have hordered : firstDisorder? t.entries = none := (firstDisorder?_eq_none_iff _).2 t.ascending
  rw [ofList?]
  split
  next height previous hdisorder =>
    rw [hordered] at hdisorder
    cases hdisorder
  next => exact congrArg Except.ok (ext_entries rfl)

theorem ofList?_eq_ok_iff : ofList? entries = .ok t ↔ t.entries = entries := by
  constructor
  · intro h
    rw [ofList?] at h
    split at h
    · cases h
    · rw [← Except.ok.inj h]
  · rintro rfl
    exact ofList?_entries t

end Table

namespace Config

variable {config : Config} {table : Table} {cs : List Checkpoint}

/-- A configuration with further checkpoints, one after the other. -/
def addAll (config : Config) (cs : List Checkpoint) : Config :=
  cs.foldl (fun config c => config.add (.ofCheckpoint c)) config

theorem checkpoints_addAll (config : Config) (cs : List Checkpoint) :
    (config.addAll cs).checkpoints = config.checkpoints ++ cs.map Entry.ofCheckpoint := by
  induction cs generalizing config with
  | nil => rw [addAll, List.foldl_nil, List.map_nil, List.append_nil]
  | cons c cs ih =>
    rw [addAll, List.foldl_cons, ← addAll, ih, add, List.map_cons, List.append_assoc,
      List.singleton_append]

theorem confirmations_addAll (config : Config) (cs : List Checkpoint) :
    (config.addAll cs).confirmations = config.confirmations := by
  induction cs generalizing config with
  | nil => rfl
  | cons c cs ih => rw [addAll, List.foldl_cons, ← addAll, ih, add]

/-- A checkpoint is the same after its digest has gone through text. -/
theorem checkpoint?_ofCheckpoint (c : Checkpoint) : (Entry.ofCheckpoint c).checkpoint? = .ok c := by
  rw [Entry.checkpoint?, Entry.ofCheckpoint, Digest.ofHex?_toHex]

theorem mapM_ofCheckpoint (cs : List Checkpoint) :
    (cs.map Entry.ofCheckpoint).mapM Entry.checkpoint? = .ok cs := by
  have hread : Entry.checkpoint? ∘ Entry.ofCheckpoint = fun c => pure c :=
    funext checkpoint?_ofCheckpoint
  rw [List.mapM_map, hread, List.mapM_pure, List.map_id']
  rfl

theorem table?_eq_ok_iff :
    config.table? = .ok table ↔ config.checkpoints.mapM Entry.checkpoint? = .ok table.entries := by
  rw [table?]
  rcases config.checkpoints.mapM Entry.checkpoint? with fault | entries
  · exact ⟨fun h => (by cases h), fun h => (by cases h)⟩
  show (Table.ofList? entries).mapError Fault.invalidTable = .ok table ↔ _
  rw [Except.ok.injEq, eq_comm (a := entries), ← Table.ofList?_eq_ok_iff]
  rcases Table.ofList? entries with fault | found
  · exact ⟨fun h => (by cases h), fun h => (by cases h)⟩
  · show Except.ok found = Except.ok table ↔ _
    rw [Except.ok.injEq, Except.ok.injEq]

/-- Further checkpoints come after those that are there, if the whole ascends. -/
theorem table?_addAll {extended : Table} (htable : config.table? = .ok table)
    (hentries : extended.entries = table.entries ++ cs) :
    (config.addAll cs).table? = .ok extended := by
  rw [table?_eq_ok_iff] at htable ⊢
  -- The old checkpoints are read as before, and the new ones as the checkpoints that they were.
  rw [checkpoints_addAll, List.mapM_append, htable, mapM_ofCheckpoint, hentries]
  rfl

/-- A configuration that is made of the checkpoints of a table has that table. -/
theorem table?_addAll_entries (h : config.checkpoints = []) (table : Table) :
    (config.addAll table.entries).table? = .ok table := by
  refine @table?_addAll config .empty table.entries table (table?_eq_ok_iff.2 ?_) rfl
  rw [h]
  rfl

/-! ### As text -/

/-- The compact text of a configuration. -/
def toText (config : Config) : String :=
  config.toJson.toText

theorem roundTrips : Json.RoundTrips toJson ofJson? where
  textual config := by
    refine .record ?_
    simp only [List.forall_mem_cons]
    exact ⟨Entry.roundTrips.list.textual _, Json.roundTrips_word64.textual _, List.forall_mem_nil _⟩
  read config := by
    have hfields : config.toJson.fields? ["checkpoints", "confirmations"] =
        some [some (.array (config.checkpoints.map Entry.toJson)),
          some (.ofWord64 config.confirmations)] :=
      Json.fields?_record rfl (by decide)
    rw [ofJson?, hfields]
    simp only [Option.bind_eq_bind, Option.bind_some, orDefault, Entry.roundTrips.list.read,
      Json.roundTrips_word64.read, Option.pure_def]

theorem validate_of_pos (h : 1 ≤ config.confirmations) : config.validate = .ok () := by
  have hne : config.confirmations ≠ 0 := by
    intro hzero
    rw [hzero] at h
    exact absurd h (by decide)
  exact if_neg hne

theorem ofText?_toText (h : 1 ≤ config.confirmations) : ofText? config.toText = .ok config := by
  have hread : (Json.ofText? config.toText).bind ofJson? = some config :=
    roundTrips.ofText?_toText config
  simp only [ofText?, hread, validate_of_pos h, Except.map]

/-- A configuration is read back from its text, and the checkpoints of a table that were added to an
    empty one arrive as that table. -/
theorem text_carries {confirmations : UInt64} (hconfig : 1 ≤ config.confirmations)
    (hconfirmations : 1 ≤ confirmations) (table : Table) :
    ofText? config.toText = .ok config ∧
      (ofText? (addAll { confirmations } table.entries).toText).bind Config.table? = .ok table := by
  have hadded : 1 ≤ (addAll { confirmations } table.entries).confirmations := by
    rw [confirmations_addAll]
    exact hconfirmations
  refine ⟨ofText?_toText hconfig, ?_⟩
  rw [ofText?_toText hadded]
  exact table?_addAll_entries rfl table

/-- The text of a digest may be anything: here it has a quote, a backslash, a control, a letter outside
    ASCII and a character outside the first plane. -/
theorem text_carries_any_text :
    let config : Config :=
      { checkpoints := [{ height := 7, digest := "\x22\\\x01é😀" }], confirmations := 1 }
    let table : Table :=
      { entries := [{ height := 3, digest := .zero },
          { height := 5, digest := ⟨List.replicate 32 0xfa, List.length_replicate⟩ }]
        ascending := by decide }
    1 ≤ config.confirmations ∧ (1 : UInt64) ≤ 2016 ∧ ofText? config.toText = .ok config ∧
      (ofText? (addAll { confirmations := 2016 } table.entries).toText).bind Config.table? =
        .ok table := by
  intro config table
  have hconfig : 1 ≤ config.confirmations := by decide
  have hconfirmations : (1 : UInt64) ≤ 2016 := by decide
  exact ⟨hconfig, hconfirmations, text_carries hconfig hconfirmations table⟩

end Config

end ChainCheckpoints
