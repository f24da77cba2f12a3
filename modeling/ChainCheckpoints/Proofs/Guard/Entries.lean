import ChainCheckpoints.Proofs.Digest.Reading
import ChainCheckpoints.Proofs.Guard.Config
import Mathlib.Data.List.Chain
import Mathlib.Data.List.Forall2

/-!
# The First Fault of a Configured List

A list of checkpoints arrives as text and may be wrong in two ways: a text may be no digest, and a
height may not be above the one before it. Several entries may be wrong, and in both ways, and still
one fault is reported. All texts are read before any heights are compared. So the first text that is
no digest is reported whatever the heights are, and only a list where every text is a digest is
refused for its order, by the first two neighbours that do not ascend.

Only neighbours are compared, and that is enough: a list ascends as a whole exactly if no two
neighbours of it are out of order. So a list that passes has no height twice, and what makes the
difference can be said of the heights alone, with no digest in it.

## Main definitions

* `Config.Entry.Denotes`: an entry whose text stands for the digest of a checkpoint.
* `Config.heights`: the configured heights in order.
* `Config.Outcome`: what becomes of a configured list.

## Theorems

* `Table.exists_of_firstDisorder?`, `Table.firstDisorder?_of_split`: the first two neighbours that
  are out of order.
* `Config.mapM_eq_ok_iff`, `Config.mapM_of_foreign`: entries that are read one after the other.
* `Config.outcome_table?`, `Config.Outcome.table?_eq`: what becomes of a configured list.
* `Config.table?_exact`: the lists that have a table, and the fault of every other list.
-/

namespace ChainCheckpoints

namespace Table

variable {entries : List Checkpoint} {height previous : UInt64}

/-- The first height of a list is the first one before its disorder, or the disorder is there. -/
theorem head?_of_split {c : Checkpoint} {before after : List UInt64}
    (h : (c :: entries).map (·.height) = before ++ previous :: after) :
    (before ++ [previous]).head? = some c.height := by
  rcases before with _ | ⟨first, before⟩
  · rw [List.map_cons, List.nil_append, List.cons.injEq] at h
    rw [h.1]
    rfl
  · rw [List.map_cons, List.cons_append, List.cons.injEq] at h
    rw [h.1]
    rfl

theorem exists_of_firstDisorder? (h : firstDisorder? entries = some (height, previous)) :
    ∃ before after, entries.map (·.height) = before ++ previous :: height :: after ∧
      (before ++ [previous]).IsChain (· < ·) ∧ height ≤ previous := by
  fun_induction firstDisorder? entries with
  | case1 c d rest hle =>
    rw [Option.some.injEq, Prod.mk.injEq] at h
    rw [← h.1, ← h.2]
    exact ⟨[], rest.map (·.height), rfl, .singleton _, hle⟩
  | case2 c d rest hlt ih =>
    rcases ih h with ⟨before, after, hsplit, hchain, hle⟩
    refine ⟨c.height :: before, after, ?_, ?_, hle⟩
    · rw [List.map_cons, hsplit, List.cons_append]
    · -- The heights that follow start with that of the neighbour.
      rw [List.cons_append, List.isChain_cons]
      refine ⟨?_, hchain⟩
      intro next hnext
      rw [head?_of_split hsplit, Option.mem_some] at hnext
      rw [← hnext]
      exact UInt64.not_le.1 hlt
  | case3 => cases h

theorem firstDisorder?_of_split {before after : List UInt64}
    (hsplit : entries.map (·.height) = before ++ previous :: height :: after)
    (hchain : (before ++ [previous]).IsChain (· < ·)) (hle : height ≤ previous) :
    firstDisorder? entries = some (height, previous) := by
  induction before generalizing entries with
  | nil =>
    rcases List.map_eq_cons_iff.1 hsplit with ⟨c, others, rfl, rfl, hothers⟩
    rcases List.map_eq_cons_iff.1 hothers with ⟨d, rest, rfl, rfl, _⟩
    rw [firstDisorder?, if_pos hle]
  | cons first before ih =>
    rcases List.map_eq_cons_iff.1 hsplit with ⟨c, others, rfl, rfl, hothers⟩
    rw [List.cons_append, List.isChain_cons] at hchain
    rcases others with _ | ⟨d, rest⟩
    · exact absurd hothers.symm (List.append_ne_nil_of_right_ne_nil _ (List.cons_ne_nil _ _))
    · have hlt : c.height < d.height := hchain.1 d.height (head?_of_split hothers)
      rw [firstDisorder?, if_neg (UInt64.not_le.2 hlt)]
      exact ih hothers hchain.2

theorem ofList?_of_disorder (h : firstDisorder? entries = some (height, previous)) :
    ofList? entries = .error (.outOfOrder height previous) := by
  rw [ofList?]
  split
  next height' previous' hfound =>
    rw [h, Option.some.injEq, Prod.mk.injEq] at hfound
    rw [hfound.1, hfound.2]
  next hnone =>
    rw [h] at hnone
    cases hnone

end Table

namespace Config

variable {config : Config} {e : Entry} {c : Checkpoint} {es before after : List Entry}
  {cs : List Checkpoint} {cause : HexError} {result : Except Fault Table}

/-- The text of an entry is a digest. -/
def Entry.Readable (e : Entry) : Prop :=
  ∃ digest, Digest.ofHex? e.digest = .ok digest

/-- The entry stands for the checkpoint. -/
structure Entry.Denotes (e : Entry) (c : Checkpoint) : Prop where
  height : c.height = e.height
  digest : Digest.ofHex? e.digest = .ok c.digest

/-- The configured heights in order. -/
def heights (config : Config) : List UInt64 :=
  config.checkpoints.map Entry.height

/-- What becomes of a configured list: it has a table, or there is a first text that is no digest,
    or all texts are digests and there are two neighbours that are the first ones out of order. -/
inductive Outcome (config : Config) : Except Fault Table → Prop
  | table {table : Table} (hascending : config.heights.Pairwise (· < ·))
    (hdenotes : List.Forall₂ Entry.Denotes config.checkpoints table.entries) :
    Outcome config (.ok table)
  /-- Nothing is said of the heights, which may be out of order anywhere. -/
  | invalidDigest {before after : List Entry} {e : Entry} {cause : HexError}
    (hsplit : config.checkpoints = before ++ e :: after) (hbefore : ∀ d ∈ before, d.Readable)
    (hcause : Digest.ofHex? e.digest = .error cause) :
    Outcome config (.error (.invalidDigest e.digest cause))
  | outOfOrder {before after : List UInt64} {previous height : UInt64}
    (hreadable : ∀ e ∈ config.checkpoints, e.Readable)
    (hsplit : config.heights = before ++ previous :: height :: after)
    (hbefore : (before ++ [previous]).IsChain (· < ·)) (hdisorder : height ≤ previous) :
    Outcome config (.error (.invalidTable (.outOfOrder height previous)))

theorem checkpoint?_eq_ok_iff : e.checkpoint? = .ok c ↔ e.Denotes c := by
  unfold Entry.checkpoint?
  rcases hread : Digest.ofHex? e.digest with cause | digest
  · constructor
    · intro h
      cases h
    · intro h
      have hdigest := h.digest
      rw [hread] at hdigest
      cases hdigest
  · simp only [Except.ok.injEq]
    constructor
    · rintro rfl
      exact ⟨rfl, hread⟩
    · intro h
      have hdigest := h.digest
      rw [hread, Except.ok.injEq] at hdigest
      rw [hdigest, ← h.height]

theorem checkpoint?_of_error (h : Digest.ofHex? e.digest = .error cause) :
    e.checkpoint? = .error (.invalidDigest e.digest cause) := by
  simp only [Entry.checkpoint?, h]

/-- The entries are read exactly if each of them stands for the checkpoint in its place. -/
theorem mapM_eq_ok_iff : es.mapM Entry.checkpoint? = .ok cs ↔ List.Forall₂ Entry.Denotes es cs := by
  induction es generalizing cs with
  | nil =>
    rw [List.mapM_nil, List.forall₂_nil_left_iff]
    show Except.ok [] = Except.ok cs ↔ _
    rw [Except.ok.injEq, eq_comm]
  | cons e es ih =>
    rw [List.mapM_cons, List.forall₂_cons_left_iff]
    simp only [← checkpoint?_eq_ok_iff, ← ih]
    rcases e.checkpoint? with fault | c
    · constructor
      · intro h
        cases h
      · rintro ⟨c, ds, h, _⟩
        cases h
    rcases es.mapM Entry.checkpoint? with fault | ds
    · constructor
      · intro h
        cases h
      · rintro ⟨c, ds, _, h, _⟩
        cases h
    · show Except.ok (c :: ds) = Except.ok cs ↔ _
      simp only [Except.ok.injEq]
      constructor
      · rintro rfl
        exact ⟨c, ds, rfl, rfl, rfl⟩
      · rintro ⟨c', ds', rfl, rfl, rfl⟩
        rfl

theorem exists_denoted (h : ∀ e ∈ es, e.Readable) : ∃ cs, List.Forall₂ Entry.Denotes es cs := by
  induction es with
  | nil => exact ⟨[], .nil⟩
  | cons e es ih =>
    rw [List.forall_mem_cons] at h
    rcases h.1 with ⟨digest, hdigest⟩
    rcases ih h.2 with ⟨cs, hcs⟩
    exact ⟨{ height := e.height, digest } :: cs, .cons ⟨rfl, hdigest⟩ hcs⟩

theorem readable_of_denoted (h : List.Forall₂ Entry.Denotes es cs) : ∀ e ∈ es, e.Readable := by
  induction h with
  | nil => exact fun e he => absurd he List.not_mem_nil
  | cons hfirst _ ih => exact List.forall_mem_cons.2 ⟨⟨_, hfirst.digest⟩, ih⟩

theorem heights_of_denoted (h : List.Forall₂ Entry.Denotes es cs) :
    cs.map (·.height) = es.map Entry.height := by
  induction h with
  | nil => rfl
  | cons hfirst _ ih => rw [List.map_cons, List.map_cons, hfirst.height, ih]

theorem exists_cause (h : ¬ e.Readable) : ∃ cause, Digest.ofHex? e.digest = .error cause := by
  rcases hread : Digest.ofHex? e.digest with cause | digest
  · exact ⟨cause, rfl⟩
  · exact absurd ⟨digest, hread⟩ h

/-- The first entry that cannot be read ends the reading. -/
theorem mapM_of_foreign (hbefore : ∀ d ∈ before, d.Readable)
    (hcause : Digest.ofHex? e.digest = .error cause) (after : List Entry) :
    (before ++ e :: after).mapM Entry.checkpoint? = .error (.invalidDigest e.digest cause) := by
  rcases exists_denoted hbefore with ⟨cs, hcs⟩
  rw [List.mapM_append, mapM_eq_ok_iff.2 hcs, List.mapM_cons, checkpoint?_of_error hcause]
  rfl

theorem table?_of_denoted (h : List.Forall₂ Entry.Denotes config.checkpoints cs) :
    config.table? = (Table.ofList? cs).mapError .invalidTable := by
  rw [table?, mapM_eq_ok_iff.2 h]
  rfl

/-- Every list has a table or a first fault. -/
theorem outcome_table? (config : Config) : Outcome config config.table? := by
  rcases forall_or_first Entry.Readable config.checkpoints with
    hall | ⟨before, e, after, hsplit, hbefore, hforeign⟩
  · rcases exists_denoted hall with ⟨cs, hcs⟩
    rw [table?_of_denoted hcs]
    rcases hdisorder : Table.firstDisorder? cs with _ | ⟨height, previous⟩
    · have hascending : Table.Ascending cs := (Table.firstDisorder?_eq_none_iff cs).1 hdisorder
      let table : Table := { entries := cs, ascending := hascending }
      have htable : Table.ofList? cs = .ok table := Table.ofList?_entries table
      rw [htable]
      refine .table ?_ hcs
      rw [heights, ← heights_of_denoted hcs, List.pairwise_map]
      exact hascending
    · rw [Table.ofList?_of_disorder hdisorder]
      rcases Table.exists_of_firstDisorder? hdisorder with ⟨before, after, hsplit, hchain, hle⟩
      rw [heights_of_denoted hcs] at hsplit
      exact .outOfOrder hall hsplit hchain hle
  · rcases exists_cause hforeign with ⟨cause, hcause⟩
    have hfault := mapM_of_foreign hbefore hcause after
    rw [← hsplit] at hfault
    have htable : config.table? = .error (.invalidDigest e.digest cause) := by
      rw [table?, hfault]
      rfl
    rw [htable]
    exact .invalidDigest hsplit hbefore hcause

/-- A list has one outcome only. -/
theorem Outcome.table?_eq (h : Outcome config result) : config.table? = result := by
  cases h with
  | table hascending hdenotes => exact table?_eq_ok_iff.2 (mapM_eq_ok_iff.2 hdenotes)
  | invalidDigest hsplit hbefore hcause =>
    rw [table?, hsplit, mapM_of_foreign hbefore hcause]
    rfl
  | outOfOrder hreadable hsplit hbefore hdisorder =>
    rcases exists_denoted hreadable with ⟨cs, hcs⟩
    rw [heights, ← heights_of_denoted hcs] at hsplit
    have hfound := Table.firstDisorder?_of_split hsplit hbefore hdisorder
    rw [table?_of_denoted hcs, Table.ofList?_of_disorder hfound]
    rfl

/-- A configured list has a table exactly if all its texts are digests and its heights ascend as a
    whole. The table has the entries in order, each with the digest that its text stands for. Of any
    other list the first text that is no digest is reported, or, if there is none, the heights of
    the first two neighbours that do not ascend, and the message names both of them. -/
theorem table?_exact (config : Config) :
    ((∃ table, config.table? = .ok table) ↔
      (∀ e ∈ config.checkpoints, e.Readable) ∧ config.heights.Pairwise (· < ·)) ∧
    (∀ result, config.table? = result ↔ Outcome config result) ∧
    ∀ height previous, (Fault.invalidTable (.outOfOrder height previous)).report =
      .invalidTable s!"checkpoint at height {height} follows height {previous}" := by
  have houtcome : ∀ result, config.table? = result ↔ Outcome config result := by
    intro result
    constructor
    · rintro rfl
      exact outcome_table? config
    · exact Outcome.table?_eq
  refine ⟨?_, houtcome, fun _ _ => rfl⟩
  constructor
  · rintro ⟨table, htable⟩
    rcases (houtcome _).1 htable with ⟨hascending, hdenotes⟩
    exact ⟨readable_of_denoted hdenotes, hascending⟩
  · rintro ⟨hall, hascending⟩
    rcases exists_denoted hall with ⟨cs, hcs⟩
    rw [heights, ← heights_of_denoted hcs, List.pairwise_map] at hascending
    exact ⟨{ entries := cs, ascending := hascending },
      table?_eq_ok_iff.2 (mapM_eq_ok_iff.2 hcs)⟩

/-- Two heights are out of order, and a text that is no digest comes after them. -/
theorem table?_exact_of_two_faults :
    let ordered : List Entry := [⟨20, Digest.zero.toHex⟩, ⟨10, Digest.zero.toHex⟩]
    let config : Config := { checkpoints := ordered ++ [⟨30, "1234"⟩] }
    (∀ e ∈ ordered, e.Readable) ∧ ¬ config.heights.Pairwise (· < ·) ∧
      config.table? = .error (.invalidDigest "1234" (.length 4)) ∧
      ¬ ∃ table, config.table? = .ok table := by
  intro ordered config
  have hzero (height : UInt64) : Entry.Readable ⟨height, Digest.zero.toHex⟩ :=
    ⟨.zero, Digest.ofHex?_toHex .zero⟩
  have hbefore : ∀ e ∈ ordered, e.Readable := by
    intro e he
    rcases List.mem_pair.1 he with rfl | rfl
    · exact hzero 20
    · exact hzero 10
  have hcause : Digest.ofHex? "1234" = .error (.length 4) := by decide
  rcases table?_exact config with ⟨haccepted, houtcome, _⟩
  have hdisorder : ¬ config.heights.Pairwise (· < ·) := by decide
  refine ⟨hbefore, hdisorder, ?_, ?_⟩
  · have hfault :=
      @Outcome.invalidDigest config ordered [] ⟨30, "1234"⟩ (.length 4) rfl hbefore hcause
    exact (houtcome _).2 hfault
  · rw [haccepted]
    intro h
    exact hdisorder h.2

end Config

end ChainCheckpoints
