import SandboxClient.Proofs.Dictionary
import SandboxClient.Proofs.Log.Delivery

/-!
# Loggers of a set-up

The registry has sinks and a level of its own, and every logger has both as well.  From one set-up to the
next, or to the end of logging, they agree: all registered loggers write to the sinks of the set-up, at the
level that was given last, and a name keeps its logger.
-/

namespace SandboxClient

namespace Log

/-- What can be asked of the registry.  A set-up finds the files as they are at that time. -/
inductive Call where
  | setUp (tree : FileTree) (directory : Location) (config : LoggingConfig)
  | shutDown
  | obtain (name : Bytes)
  | setLevel (level : Level)

/-- The level that a call gives to the loggers. -/
def Call.level? : Call → Option Level
  | .setUp _ _ config => some (Level.ofText config.level)
  | .setLevel level => some level
  | .shutDown | .obtain _ => none

/-- A call that neither sets up logging nor ends it. -/
def Call.KeepsSetUp : Call → Prop
  | .setUp _ _ _ | .shutDown => False
  | .obtain _ | .setLevel _ => True

/-- The sinks of a set-up: standard output, and the log file if there is one that can be opened. -/
def sinksOf (tree : FileTree) (directory : Location) (config : LoggingConfig) : List Sink :=
  let path := Registry.filePath config
  if config.directory ≠ [] ∧ (tree.openForAppend directory path).2.isOk then
    [.standardOutput, .file path]
  else [.standardOutput]

/-- The lines of a record that reaches each of the sinks once if the level lets it through, and no sink
otherwise. -/
structure ReachesOnce (level : Level) (sinks : List Sink) (record : Record) (lines : List Line) : Prop where
  record_eq : ∀ line ∈ lines, line.record = record
  count_eq : ∀ sink, (lines.map Line.sink).count sink =
    if level.enables record.level = true ∧ sink ∈ sinks then 1 else 0

namespace Registry

variable {registry : Registry} {level : Level} {sinks : List Sink} {name : Bytes} {number : Nat}

/-- The registry after a call. -/
def after (registry : Registry) : Call → Registry
  | .setUp tree directory config => (registry.configure tree directory config).1
  | .shutDown => registry.shutdown
  | .obtain name => (registry.obtain name).1
  | .setLevel level => registry.setLevel level

/-- The registry after calls in turn. -/
def afterAll (registry : Registry) (calls : List Call) : Registry :=
  calls.foldl after registry

theorem afterAll_cons (registry : Registry) (call : Call) (calls : List Call) :
    registry.afterAll (call :: calls) = (registry.after call).afterAll calls :=
  rfl

/-- The registry and all its loggers, among them the default one, have the level and the sinks. -/
structure IsSetUp (registry : Registry) (level : Level) (sinks : List Sink) : Prop where
  level_eq : registry.level = level
  sinks_eq : registry.sinks = sinks
  registered : ∀ name number, registry.lookup? name = some number →
    registry.logger? number = some { name, level, sinks }
  default : ∃ number, registry.default? = some number ∧ registry.lookup? defaultName = some number

/-! ## A set-up -/

theorem sinksOf_ne_nil (tree : FileTree) (directory : Location) (config : LoggingConfig) :
    sinksOf tree directory config ≠ [] := by
  rw [sinksOf]
  split <;> simp

theorem nodup_sinksOf (tree : FileTree) (directory : Location) (config : LoggingConfig) :
    (sinksOf tree directory config).Nodup := by
  rw [sinksOf]
  split <;> simp

theorem configure_eq (registry : Registry) (tree : FileTree) (directory : Location)
    (config : LoggingConfig) :
    (registry.configure tree directory config).1 =
      registry.restart (sinksOf tree directory config) (Level.ofText config.level) := by
  simp only [configure, sinksOf]
  split
  next unset => simp [List.isEmpty_iff.mp unset]
  next isSet =>
    have present : config.directory ≠ [] := mt List.isEmpty_iff.mpr isSet
    cases opened : (tree.openForAppend directory (filePath config)).2 with
    | ok done =>
        rw [if_pos ⟨present, rfl⟩]
        rfl
    | error fault =>
        rw [if_neg fun ⟨_, isOk⟩ => Bool.false_ne_true isOk]
        rfl

theorem default?_restart (earlier : Registry) (sinks : List Sink) (level : Level) :
    (earlier.restart sinks level).default? = some earlier.loggers.length := by
  simp only [restart, dropAll, make, setDefault, setRegisteredLevel]

theorem isSetUp_restart (earlier : Registry) (sinks : List Sink) (level : Level) :
    (earlier.restart sinks level).IsSetUp level sinks where
  level_eq := (config_restart earlier sinks level).1
  sinks_eq := (config_restart earlier sinks level).2
  registered := by
    intro name number found
    rw [lookup?_restart] at found
    split at found
    next same =>
      obtain rfl := Option.some_inj.mp found
      rw [logger?_restart, same]
    next => cases found
  default := ⟨_, default?_restart earlier sinks level, by rw [lookup?_restart, if_pos rfl]⟩

/-! ## Calls until the next set-up -/

namespace IsSetUp

theorem withFresh (isSetUp : registry.IsSetUp level sinks) (present : sinks ≠ [])
    (missing : registry.lookup? name = none) : (registry.withFresh name).IsSetUp level sinks := by
  have fresh_eq : registry.fresh name = { name, level, sinks } := by
    rw [fresh, isSetUp.level_eq, isSetUp.sinks_eq, if_neg (by simpa using present)]
  refine ⟨isSetUp.level_eq, congrArg Logger.sinks fresh_eq, ?_, ?_⟩
  · intro other number found
    by_cases same : other = name
    · rw [same, lookup?_withFresh_self] at found
      obtain rfl := Option.some_inj.mp found
      rw [same, logger?_withFresh_length, fresh_eq]
    · rw [lookup?_withFresh_of_ne same] at found
      exact logger?_withFresh (isSetUp.registered other number found) name
  · obtain ⟨number, default_eq, found⟩ := isSetUp.default
    have distinct : defaultName ≠ name := by
      rintro rfl
      simp [found] at missing
    exact ⟨number, default_eq, (lookup?_withFresh_of_ne distinct).trans found⟩

theorem setLevel (isSetUp : registry.IsSetUp level sinks) (severity : Level) :
    (registry.setLevel severity).IsSetUp severity sinks where
  level_eq := rfl
  sinks_eq := isSetUp.sinks_eq
  registered := by
    intro name number found
    -- A logger that is found by its name is registered, so that it gets the level.
    have listed : registry.registered.any (fun entry => entry.2 = number) = true :=
      List.any_eq_true.mpr ⟨(name, number), Dictionary.mem_of_get?_eq_some found, by simp⟩
    have known : registry.loggers[number]? = some { name, level, sinks } :=
      isSetUp.registered name number found
    simp only [Registry.setLevel, setRegisteredLevel, logger?, List.getElem?_mapIdx, known, listed,
      Option.map_some, if_true]
  default := isSetUp.default

/-- A call that keeps the set-up keeps the sinks, and the level is the one that it gives, if any. -/
theorem after (isSetUp : registry.IsSetUp level sinks) (present : sinks ≠ []) {call : Call}
    (keeps : call.KeepsSetUp) : (registry.after call).IsSetUp (call.level?.getD level) sinks := by
  cases call with
  | setUp tree directory config => exact keeps.elim
  | shutDown => exact keeps.elim
  | setLevel severity => exact isSetUp.setLevel severity
  | obtain name =>
      show (registry.obtain name).1.IsSetUp level sinks
      cases found : registry.lookup? name with
      | some number => rwa [obtain_of_found found]
      | none =>
          rw [obtain_of_missing found]
          exact isSetUp.withFresh present found

theorem afterAll (isSetUp : registry.IsSetUp level sinks) (present : sinks ≠ []) {calls : List Call}
    (keep : ∀ call ∈ calls, call.KeepsSetUp) :
    (registry.afterAll calls).IsSetUp ((calls.filterMap Call.level?).getLastD level) sinks := by
  induction calls generalizing registry level with
  | nil => exact isSetUp
  | cons call calls ih =>
      obtain ⟨keeps, keep⟩ := List.forall_mem_cons.mp keep
      have last := ih (isSetUp.after present keeps) keep
      rw [afterAll_cons, List.filterMap_cons]
      cases given : call.level? with
      | none => simpa only [given, Option.getD_none] using last
      | some severity => simpa only [given, Option.getD_some, List.getLastD_cons] using last

/-- A record that is written through a registered logger. -/
theorem reachesOnce (isSetUp : registry.IsSetUp level sinks) (distinct : sinks.Nodup)
    (found : registry.lookup? name = some number) (severity : Level) (message : Bytes) :
    ReachesOnce level sinks ⟨name, severity, message⟩ (registry.linesThrough number severity message) := by
  rw [linesThrough, isSetUp.registered name number found]
  refine ⟨by simp, fun sink => ?_⟩
  rw [List.map_map, Function.comp_def, List.map_id']
  cases enabled : level.enables severity with
  | true => simp [sinksFor, enabled, distinct.count]
  | false => simp [sinksFor, enabled]

end IsSetUp

/-! ## The logger of a name -/

theorem lookup?_obtain (registry : Registry) (name : Bytes) :
    (registry.obtain name).1.lookup? name = some (registry.obtain name).2 := by
  cases found : registry.lookup? name with
  | some number => rw [obtain_of_found found, found]
  | none => rw [obtain_of_missing found, lookup?_withFresh_self]

theorem lookup?_after (found : registry.lookup? name = some number) {call : Call}
    (keeps : call.KeepsSetUp) : (registry.after call).lookup? name = some number := by
  cases call with
  | setUp tree directory config => exact keeps.elim
  | shutDown => exact keeps.elim
  | setLevel severity => exact found
  | obtain other =>
      show (registry.obtain other).1.lookup? name = some number
      cases taken : registry.lookup? other with
      | some present => rwa [obtain_of_found taken]
      | none =>
          have distinct : name ≠ other := by
            rintro rfl
            simp [found] at taken
          rwa [obtain_of_missing taken, lookup?_withFresh_of_ne distinct]

/-- A name keeps its logger. -/
theorem lookup?_afterAll (found : registry.lookup? name = some number) {calls : List Call}
    (keep : ∀ call ∈ calls, call.KeepsSetUp) : (registry.afterAll calls).lookup? name = some number := by
  induction calls generalizing registry with
  | nil => exact found
  | cons call calls ih =>
      obtain ⟨keeps, keep⟩ := List.forall_mem_cons.mp keep
      exact ih (lookup?_after found keeps) keep

/-- Whatever was asked of the registry before: after a set-up, and further calls of which none sets up
logging or ends it, all registered loggers have the level that was given last and the sinks of the set-up.
Who asks for the logger of a name gets the same one as long as this is so, and a record that is written
through a registered logger reaches each sink once or none. -/
theorem loggers_agree_with_setUp (earlier : Registry) (before since : List Call) (tree : FileTree)
    (directory : Location) (config : LoggingConfig) (keep : ∀ call ∈ since, call.KeepsSetUp) :
    let calls := before ++ .setUp tree directory config :: since
    let registry := earlier.afterAll calls
    let sinks := sinksOf tree directory config
    ∃ level, (calls.filterMap Call.level?).getLast? = some level ∧ registry.IsSetUp level sinks ∧
      (∀ name later, (∀ call ∈ later, call.KeepsSetUp) →
        let asked := registry.obtain name
        asked.1.lookup? name = some asked.2 ∧ ((asked.1.afterAll later).obtain name).2 = asked.2) ∧
      ∀ name number, registry.lookup? name = some number → ∀ severity message,
        ReachesOnce level sinks ⟨name, severity, message⟩
          (registry.linesThrough number severity message) := by
  intro calls registry sinks
  have registry_eq : registry =
      ((earlier.afterAll before).restart sinks (Level.ofText config.level)).afterAll since := by
    rw [← configure_eq]
    exact List.foldl_append
  have isSetUp : registry.IsSetUp
      ((since.filterMap Call.level?).getLastD (Level.ofText config.level)) sinks := by
    rw [registry_eq]
    exact (isSetUp_restart _ _ _).afterAll (sinksOf_ne_nil tree directory config) keep
  refine ⟨_, ?_, isSetUp, ?_, ?_⟩
  · simp [calls, Call.level?, List.getLast?_cons, List.getLastD_eq_getLast?]
  · intro name later further
    refine ⟨lookup?_obtain registry name, ?_⟩
    rw [obtain_of_found (lookup?_afterAll (lookup?_obtain registry name) further)]
  · intro name number found severity message
    exact isSetUp.reachesOnce (nodup_sinksOf tree directory config) found severity message

/-- Logging is set up where a file is in the way of the log file, ended, and set up again where there is
none.  The loggers that are asked for after that have the log file, and the severer level. -/
theorem loggers_agree_with_setUp_rehearsed :
    let config : LoggingConfig := { level := utf8 "Warn", directory := utf8 "/logs" }
    let blocked : FileTree := FileTree.withFile [] [utf8 "logs"] []
    let before : List Call := [.setUp blocked [] config, .obtain (utf8 "early"), .shutDown]
    let since : List Call := [.obtain (utf8 "audit"), .setLevel .error, .obtain (utf8 "worker")]
    let registry := ({} : Registry).afterAll (before ++ .setUp [] [] config :: since)
    let sinks := [.standardOutput, .file (utf8 "/logs/rocklet.log")]
    (∀ call ∈ since, call.KeepsSetUp) ∧ sinksOf blocked [] config = [.standardOutput] ∧
      registry.registered = [(utf8 "audit", 4), (utf8 "rock", 3), (utf8 "worker", 5)] ∧
      registry.IsSetUp .error sinks ∧ (registry.obtain (utf8 "audit")).2 = 4 ∧
      (∀ severity, ReachesOnce .error sinks ⟨utf8 "audit", severity, utf8 "done"⟩
        (registry.linesThrough 4 severity (utf8 "done"))) ∧
      (registry.linesThrough 4 .warning (utf8 "done")).length = 0 ∧
      (registry.linesThrough 4 .critical (utf8 "done")).length = 2 := by
  intro config blocked before since registry sinks
  have keep : ∀ call ∈ since, call.KeepsSetUp := by simp [since, Call.KeepsSetUp]
  have sinks_eq : sinksOf [] [] config = sinks := by decide +kernel
  have found : registry.lookup? (utf8 "audit") = some 4 := by decide +kernel
  obtain ⟨level, given, isSetUp, _, reaches⟩ :=
    loggers_agree_with_setUp {} before since [] [] config keep
  obtain rfl : level = .error := (Option.some.inj given).symm
  rw [sinks_eq] at isSetUp reaches
  exact ⟨keep, by decide +kernel, by decide +kernel, isSetUp, by decide +kernel,
    fun severity => reaches _ 4 found severity _, by decide +kernel, by decide +kernel⟩

end Registry

end Log

end SandboxClient
