import ChainCheckpoints.Session
import ChainCheckpoints.Proofs.Guard
import ChainCheckpoints.Proofs.Store.Keyed

/-!
# Commands in a Row

What is left of a session after commands, beside the replies that `Session.run` records, and which
part of a session each command can change. There are twenty commands and a statement about a run
concerns few of the fields, so what a command does to each field is said once, in `Session.Stepped`,
and no later proof goes through the commands again.

The store changes by writes only. Any invariant of the writes is an invariant of sessions.

## Main definitions

* `Session.after`: the session after commands in a row.
* `Session.Command.writes`: what a command writes to the store.
* `Session.Stepped`: what a command can do to each field.

## Theorems

* `Session.run_append`: a run goes on where an earlier one has ended.
* `Session.step_spec`: a command does nothing else.
* `Session.step_store`: a command does to the store what it writes.
* `Session.step_table`, `Session.step_tracker`: the commands that leave the free tracker or its
  table alone.
* `Session.reply_verify`, `Session.reply_follow`, `Session.reply_admitFork`: the guard answers
  questions about a block, for the anchor and for a fork.
* `Session.step_admitFork`: a question for a fork leaves the session as one for the anchor does.
* `Session.guard_after`: what questions for the anchor keep, a session keeps until it is restarted.
-/

namespace ChainCheckpoints

namespace Session

variable {s : Session} {command : Command}

/-- The session after commands in a row. -/
def after (s : Session) (commands : List Command) : Session :=
  commands.foldl (fun s command => (s.step command).session) s

@[simp] theorem after_nil : s.after [] = s := rfl

@[simp] theorem after_cons (commands : List Command) :
    s.after (command :: commands) = (s.step command).session.after commands := rfl

theorem run_append (commands more : List Command) :
    s.run (commands ++ more) = s.run commands ++ (s.after commands).run more := by
  induction commands generalizing s with
  | nil => rfl
  | cons command commands ih => rw [List.cons_append, run, ih, run, after_cons, List.cons_append]

/-- What a command writes to the store. -/
def Command.writes : Command → List Store.Write
  | .extend blocks _ => blocks.map .connect
  | .write w => [w]
  | _ => []

/-- Connecting blocks changes the store and the best tip. -/
theorem foldl_connect (s : Session) (moveTip : Bool) (blocks : List Block) :
    ∃ best, blocks.foldl (connect moveTip) s =
      { s with store := (blocks.map Store.Write.connect).foldl Store.write s.store, best } := by
  induction blocks generalizing s with
  | nil => exact ⟨s.best, rfl⟩
  | cons b blocks ih =>
    rcases ih (s.connect moveTip b) with ⟨best, hbest⟩
    exact ⟨best, hbest⟩

theorem step_extend (s : Session) (blocks : List Block) (moveTip : Bool) :
    ∃ best, (s.step (.extend blocks moveTip)).session =
      { s with store := (blocks.map Store.Write.connect).foldl Store.write s.store, best } :=
  s.foldl_connect moveTip blocks

theorem step_setTable (s : Session) (config : Config) :
    ∃ table, (s.step (.setTable config)).session = { s with table } := by
  simp only [step]
  split
  · exact ⟨_, rfl⟩
  · exact ⟨s.table, rfl⟩

/-- What a command can do to a session. -/
structure Stepped (s : Session) (command : Command) (t : Session) : Prop where
  store : t.store = command.writes.foldl Store.write s.store
  table : (∀ config, command ≠ .setTable config) → t.table = s.table
  tracker : (∀ best, command ≠ .followFree best) → t.tracker = s.tracker
  /-- A snapshot that is kept was kept before, or is taken of the store. -/
  kept : ∀ entry ∈ t.kept, entry ∈ s.kept ∨ s.store.source = .ok entry.2
  /-- The guard is set up again, or changes by a question for the anchor. -/
  guard : command ≠ .restart →
    t.guard = s.guard ∨ ∃ best, t.guard = (s.guard.follow s.source best).state

/-- A command that leaves these fields alone. -/
theorem Stepped.of_eq {t : Session} (hstore : t.store = command.writes.foldl Store.write s.store)
    (htable : t.table = s.table) (htracker : t.tracker = s.tracker) (hkept : t.kept = s.kept)
    (hguard : t.guard = s.guard) : Stepped s command t where
  store := hstore
  table _ := htable
  tracker _ := htracker
  kept _ hentry := .inl (hkept ▸ hentry)
  guard _ := .inl hguard

theorem step_spec (s : Session) (command : Command) :
    Stepped s command (s.step command).session := by
  cases command with
  | extend blocks moveTip =>
    rcases s.step_extend blocks moveTip with ⟨best, hbest⟩
    rw [hbest]
    exact .of_eq rfl rfl rfl rfl rfl
  | keep name =>
    rcases hsource : s.store.source with e | view
    · simp only [step, hsource]
      exact .of_eq rfl rfl rfl rfl rfl
    · simp only [step, hsource]
      refine ⟨rfl, fun _ => rfl, fun _ => rfl, fun entry hentry => ?_, fun _ => .inl rfl⟩
      rcases List.mem_cons.1 hentry with rfl | hbefore
      · exact .inr hsource
      · exact .inl hbefore
  | setTable config =>
    rcases s.step_setTable config with ⟨table, htable⟩
    rw [htable]
    exact ⟨rfl, fun hkeep => absurd rfl (hkeep config), fun _ => rfl, fun _ => .inl,
      fun _ => .inl rfl⟩
  | restart =>
    exact ⟨rfl, fun _ => rfl, fun _ => rfl, fun _ => .inl, fun hsame => absurd rfl hsame⟩
  | followFree best =>
    exact ⟨rfl, fun _ => rfl, fun hfree => absurd rfl (hfree best), fun _ => .inl,
      fun _ => .inl rfl⟩
  -- Two questions go to the guard, and both leave it as the question for the anchor does.
  | follow best =>
    exact ⟨rfl, fun _ => rfl, fun _ => rfl, fun _ => .inl,
      fun _ => .inr ⟨best.getD s.best.height, rfl⟩⟩
  | admitFork fork =>
    exact ⟨rfl, fun _ => rfl, fun _ => rfl, fun _ => .inl,
      fun _ => .inr ⟨s.best.height, Guard.admitFork_state s.guard s.source s.best.height fork⟩⟩
  | _ => exact .of_eq rfl rfl rfl rfl rfl

theorem step_store (s : Session) (command : Command) :
    (s.step command).session.store = command.writes.foldl Store.write s.store :=
  (s.step_spec command).store

theorem step_table (hkeep : ∀ config, command ≠ .setTable config) :
    (s.step command).session.table = s.table :=
  (s.step_spec command).table hkeep

theorem step_tracker (hfree : ∀ best, command ≠ .followFree best) :
    (s.step command).session.tracker = s.tracker :=
  (s.step_spec command).tracker hfree

theorem reply_verify (s : Session) (height : UInt64) (id : Digest) :
    (s.step (.verify height id)).reply = .ok (.flag (s.guard.verify height id).1) :=
  rfl

theorem reply_follow (s : Session) (best : Option UInt64) :
    (s.step (.follow best)).reply =
      ((s.guard.follow s.source (best.getD s.best.height)).answer.map .anchor).mapError .fault :=
  rfl

/-- A question for a fork is answered by the guard. -/
theorem reply_admitFork (s : Session) (fork : UInt64) :
    (s.step (.admitFork fork)).reply =
      ((s.guard.admitFork s.source s.best.height fork).answer.map fun () => .done).mapError .fault :=
  rfl

/-- A question for a fork leaves the session as a question for the anchor does. -/
theorem step_admitFork (s : Session) (fork : UInt64) :
    (s.step (.admitFork fork)).session =
      { s with guard := (s.guard.follow s.source s.best.height).state } := by
  have hstate := Guard.admitFork_state s.guard s.source s.best.height fork
  rw [← hstate]
  rfl

/-- What questions for the anchor keep of a guard, a session keeps until it is restarted. -/
theorem guard_after {P : Guard → Prop} {commands : List Command}
    (hfollow : ∀ g source best, P g → P (g.follow source best).state)
    (h : P s.guard) (hsame : .restart ∉ commands) : P (s.after commands).guard := by
  induction commands generalizing s with
  | nil => exact h
  | cons command commands ih =>
    rw [List.mem_cons, not_or] at hsame
    have hstep : P (s.step command).session.guard := by
      rcases (s.step_spec command).guard (Ne.symm hsame.1) with hguard | ⟨best, hguard⟩
      · rw [hguard]
        exact h
      · rw [hguard]
        exact hfollow s.guard s.source best h
    exact ih hstep hsame.2

end Session

end ChainCheckpoints
