import SandboxClient.Proofs.Group.Confinement
import SandboxClient.Proofs.Log.Delivery

/-!
# Runs at two levels

A world with a registry of loggers, and two runs in it that differ in the level of the loggers.  Nothing
that is answered depends on the registry, so as long as logging is not set up anew the runs do the same.
What reaches the sinks in the run with the severer level is what its level lets through of the other.
-/

namespace SandboxClient

/-- What is outside, the loggers, and the lines that reached their sinks. -/
structure Logged (Outside : Type) where
  outside : Outside
  registry : Log.Registry
  lines : List Log.Line := []

/-- A world with a registry that delivers the records.  It is told whether log files can be opened. -/
def GroupWorld.logged {Outside : Type} (world : GroupWorld Outside)
    (opens : LoggingConfig → Outside → Except Bytes Unit) : GroupWorld (Logged Outside) where
  answer actor action logged :=
    match action with
    | .log record =>
      let (registry, lines) := logged.registry.deliver record
      ((), { logged with registry, lines := logged.lines ++ lines })
    | .openLogging config =>
      let (registry, complaints) :=
        if config.directory.isEmpty then
          (logged.registry.restart [.standardOutput] (Log.Level.ofText config.level), [])
        else logged.registry.configureWith config (opens config logged.outside)
      let lines := complaints.flatMap fun record => (logged.registry.deliver record).2
      let outside := (world.answer actor (.openLogging config) logged.outside).2
      ((), { outside, registry, lines := logged.lines ++ lines })
    | .closeLogging => ((), { logged with registry := logged.registry.shutdown })
    | other =>
      let (answer, outside) := world.answer actor other logged.outside
      (answer, { logged with outside })

/-- The same but for the levels: the lines of the second are those of the first that its level lets
through. -/
structure Logged.Alike {Outside : Type} (verbose terse : Log.Level) (first second : Logged Outside) :
    Prop where
  outside_eq : second.outside = first.outside
  first_at : first.registry.IsAt verbose
  second_at : second.registry.IsAt terse
  reach_eq : second.registry.reach = first.registry.reach
  lines_eq : second.lines = first.lines.filter fun line => terse.enables line.record.level

/-- Runs that differ in nothing but the levels. -/
structure Logged.AlikeRuns {Result Outside : Type} (verbose terse : Log.Level)
    (first second : GroupRun Result (Logged Outside)) : Prop where
  result_eq : second.result? = first.result?
  events_eq : second.events = first.events
  alike : Alike verbose terse first.state second.state

/-! ## A record -/

/-- What a severer level lets through, another lets through as well. -/
theorem Log.Level.enables_of_rank_le {verbose terse level : Log.Level} (le : verbose.rank ≤ terse.rank)
    (enabled : terse.enables level = true) : verbose.enables level = true := by
  simp only [enables, Bool.and_eq_true, bne_iff_ne, ne_eq, decide_eq_true_eq] at enabled ⊢
  obtain ⟨on, reached⟩ := enabled
  refine ⟨?_, Nat.le_trans le reached⟩
  rintro rfl
  cases terse with
  | off => exact on rfl
  | _ => simp only [rank] at le; omega

theorem Log.Registry.linesAt_eq_filter {verbose terse : Log.Level} (le : verbose.rank ≤ terse.rank)
    (sinks : List Log.Sink) (record : Log.Record) :
    linesAt terse sinks record =
      (linesAt verbose sinks record).filter fun line => terse.enables line.record.level := by
  cases enabled : terse.enables record.level with
  | true =>
      have both := Log.Level.enables_of_rank_le le enabled
      have kept : ∀ line ∈ sinks.map (fun sink => (⟨sink, record⟩ : Line)),
          terse.enables line.record.level = true := by simp [enabled]
      rw [linesAt, linesAt, if_pos enabled, if_pos both, List.filter_eq_self.mpr kept]
  | false =>
      rw [linesAt, enabled, if_neg Bool.false_ne_true, linesAt]
      split <;> simp [enabled]

namespace Logged

variable {Result Outside : Type} (world : GroupWorld Outside)
  (opens : LoggingConfig → Outside → Except Bytes Unit) {verbose terse : Log.Level}
  {first second : Logged Outside}

theorem Alike.answer (le : verbose.rank ≤ terse.rank) (alike : Alike verbose terse first second)
    {action : Action} (keeps : action.KeepsLogging) (actor : Actor) :
    let one := (world.logged opens).answer actor action first
    let other := (world.logged opens).answer actor action second
    other.1 = one.1 ∧ Alike verbose terse one.2 other.2 := by
  cases action with
  | log record =>
      obtain ⟨first_at, first_reach, first_lines⟩ := Log.Registry.deliver_of_isAt alike.first_at record
      obtain ⟨second_at, second_reach, second_lines⟩ :=
        Log.Registry.deliver_of_isAt alike.second_at record
      refine ⟨rfl, alike.outside_eq, first_at, second_at, ?_, ?_⟩
      · exact second_reach.trans (alike.reach_eq.trans first_reach.symm)
      · show second.lines ++ (second.registry.deliver record).2 =
          (first.lines ++ (first.registry.deliver record).2).filter _
        rw [second_lines, alike.lines_eq, alike.reach_eq, Log.Registry.linesAt_eq_filter le,
          ← first_lines, ← List.filter_append]
  | openLogging config => exact keeps.elim
  | closeLogging => exact keeps.elim
  | _ =>
      simp only [GroupWorld.logged, alike.outside_eq, true_and]
      exact ⟨rfl, alike.first_at, alike.second_at, alike.reach_eq, alike.lines_eq⟩

/-! ## A run -/

theorem Alike.run (le : verbose.rank ≤ terse.rank) (alike : Alike verbose terse first second)
    {program : Program Result} (keeps : program.Confined Action.KeepsLogging) (actor : Actor) :
    let one := program.run ((world.logged opens).seenBy actor) first
    let other := program.run ((world.logged opens).seenBy actor) second
    other.result? = one.result? ∧ other.events = one.events ∧
      Alike verbose terse one.state other.state := by
  induction program generalizing first second with
  | done result => exact ⟨rfl, rfl, alike⟩
  | stalled => exact ⟨rfl, rfl, alike⟩
  | act action next ih =>
      obtain ⟨answer_eq, after⟩ := alike.answer world opens le keeps.1 actor
      obtain ⟨result_eq, events_eq, last⟩ := ih _ after (keeps.2 _)
      simp only [Program.run, GroupWorld.seenBy] at result_eq events_eq last ⊢
      rw [answer_eq]
      exact ⟨result_eq, by rw [events_eq], last⟩

variable {tasks : List (Program MemberOutcome)} {fork : Nat}

theorem Alike.interleave (le : verbose.rank ≤ terse.rank) (alike : Alike verbose terse first second)
    (keeps : ∀ task ∈ tasks, task.Confined Action.KeepsLogging) (fork : Nat) (schedule : List Nat) :
    let one := GroupProgram.interleave (world.logged opens) fork schedule tasks first
    let other := GroupProgram.interleave (world.logged opens) fork schedule tasks second
    (other.1 = one.1 ∧ other.2.1 = one.2.1) ∧ Alike verbose terse one.2.2 other.2.2 ∧
      ∀ task ∈ one.1, task.Confined Action.KeepsLogging := by
  induction schedule generalizing tasks first second with
  | nil => exact ⟨⟨rfl, rfl⟩, alike, keeps⟩
  | cons index schedule ih =>
      simp only [GroupProgram.interleave]
      split
      next action next task_eq =>
        have confined := keeps _ (List.mem_of_getElem? task_eq)
        obtain ⟨answer_eq, after⟩ := alike.answer world opens le confined.1 (.task fork index)
        have kept : ∀ answer, ∀ task ∈ tasks.set index (next answer),
            task.Confined Action.KeepsLogging := by
          intro answer task member
          rcases List.mem_or_eq_of_mem_set member with among | rfl
          · exact keeps task among
          · exact confined.2 answer
        obtain ⟨⟨left_eq, events_eq⟩, last⟩ := ih after (kept _)
        rw [answer_eq]
        exact ⟨⟨left_eq, by rw [events_eq]⟩, last⟩
      next => exact ih alike keeps

theorem Alike.finish (le : verbose.rank ≤ terse.rank) (alike : Alike verbose terse first second)
    (keeps : ∀ task ∈ tasks, task.Confined Action.KeepsLogging) (fork index : Nat) :
    AlikeRuns verbose terse (GroupProgram.finish (world.logged opens) fork index tasks first)
      (GroupProgram.finish (world.logged opens) fork index tasks second) := by
  induction tasks generalizing index first second with
  | nil => exact ⟨rfl, rfl, alike⟩
  | cons task tasks ih =>
      obtain ⟨own, others⟩ := List.forall_mem_cons.mp keeps
      obtain ⟨result_eq, events_eq, after⟩ := alike.run world opens le own (.task fork index)
      have rest := ih after others (index + 1)
      refine ⟨?_, ?_, rest.alike⟩
      · simp only [GroupProgram.finish]
        rw [result_eq, rest.result_eq]
      · simp only [GroupProgram.finish]
        rw [events_eq, rest.events_eq]

theorem Alike.runTasks (le : verbose.rank ≤ terse.rank) (alike : Alike verbose terse first second)
    (keeps : ∀ task ∈ tasks, task.Confined Action.KeepsLogging) (fork : Nat) (schedule : List Nat) :
    AlikeRuns verbose terse (GroupProgram.runTasks (world.logged opens) fork schedule tasks first)
      (GroupProgram.runTasks (world.logged opens) fork schedule tasks second) := by
  obtain ⟨⟨left_eq, events_eq⟩, after, kept⟩ := alike.interleave world opens le keeps fork schedule
  have finished := after.finish world opens le kept fork 0
  refine ⟨?_, ?_, ?_⟩
  · simp only [GroupProgram.runTasks]
    rw [left_eq, finished.result_eq]
  · simp only [GroupProgram.runTasks]
    rw [left_eq, events_eq, finished.events_eq]
  · simp only [GroupProgram.runTasks]
    rw [left_eq]
    exact finished.alike

theorem Alike.runFrom (le : verbose.rank ≤ terse.rank) (alike : Alike verbose terse first second)
    {program : GroupProgram Result} (keeps : program.Confined Action.KeepsLogging)
    (schedules : Nat → List Nat) (fork : Nat) :
    AlikeRuns verbose terse (program.runFrom (world.logged opens) schedules fork first)
      (program.runFrom (world.logged opens) schedules fork second) := by
  induction program generalizing first second fork with
  | done result => exact ⟨rfl, rfl, alike⟩
  | act action next ih =>
      obtain ⟨answer_eq, after⟩ := alike.answer world opens le keeps.1 .group
      have rest := ih ((world.logged opens).answer .group action first).1 after (keeps.2 _) fork
      refine ⟨?_, ?_, ?_⟩
      · simp only [GroupProgram.runFrom]
        rw [answer_eq, rest.result_eq]
      · simp only [GroupProgram.runFrom]
        rw [answer_eq, rest.events_eq]
      · simp only [GroupProgram.runFrom]
        rw [answer_eq]
        exact rest.alike
  | fork tasks next ih =>
      have forked := alike.runTasks world opens le keeps.1 fork (schedules fork)
      simp only [GroupProgram.runFrom]
      rw [forked.result_eq]
      split
      · exact ⟨rfl, forked.events_eq, forked.alike⟩
      next outcomes _ =>
        have rest := ih outcomes forked.alike (keeps.2 outcomes) (fork + 1)
        exact ⟨rest.result_eq, by rw [forked.events_eq, rest.events_eq], rest.alike⟩

end Logged

end SandboxClient
