import SandboxClient.Log.Registry

/-!
# Delivery of records

Where a record goes.  In a registry whose loggers all have one level, a record reaches the sinks of the
logger of its name if the level lets it through, and none otherwise.  That a logger is made for a name
when the first record is written to it changes neither.
-/

namespace SandboxClient

namespace Log

namespace Registry

variable {registry : Registry} {level : Level} {name : Bytes}

def named? (registry : Registry) (name : Bytes) : Option Logger :=
  (registry.lookup? name).bind registry.logger?

/-- The logger that is made for a name that has none. -/
def fresh (registry : Registry) (name : Bytes) : Logger where
  name := name
  level := registry.level
  sinks := if registry.sinks.isEmpty then [.standardOutput] else registry.sinks

/-- What the logger of a name writes to, made if there is none. -/
def reach (registry : Registry) (name : Bytes) : List Sink :=
  ((registry.named? name).getD (registry.fresh name)).sinks

/-- The registered loggers have one level, and those that are made from now on get it. -/
structure IsAt (registry : Registry) (level : Level) : Prop where
  level_eq : registry.level = level
  registered : ∀ name number, registry.lookup? name = some number →
    ∃ logger, registry.logger? number = some logger ∧ logger.name = name ∧ logger.level = level

/-! ## Obtaining a logger -/

/-- The registry with a logger made for a name. -/
def withFresh (registry : Registry) (name : Bytes) : Registry :=
  { registry with
    sinks := (registry.fresh name).sinks
    loggers := registry.loggers ++ [registry.fresh name]
    registered := Dictionary.insert registry.registered name registry.loggers.length }

theorem obtain_of_found {number : Nat} (found : registry.lookup? name = some number) :
    registry.obtain name = (registry, number) := by
  rw [obtain, found]

theorem obtain_of_missing (missing : registry.lookup? name = none) :
    registry.obtain name = (registry.withFresh name, registry.loggers.length) := by
  rw [obtain, missing]
  simp only [make, register, logger?, List.getElem?_concat_length]
  rfl

theorem logger?_withFresh {number : Nat} {logger : Logger}
    (known : registry.logger? number = some logger) (name : Bytes) :
    (registry.withFresh name).logger? number = some logger := by
  have inside := (List.getElem?_eq_some_iff.mp known).1
  have kept : (registry.loggers ++ [registry.fresh name])[number]? = registry.loggers[number]? :=
    List.getElem?_append_left inside
  exact kept.trans known

theorem logger?_withFresh_length (registry : Registry) (name : Bytes) :
    (registry.withFresh name).logger? registry.loggers.length = some (registry.fresh name) :=
  List.getElem?_concat_length

theorem lookup?_withFresh_self (registry : Registry) (name : Bytes) :
    (registry.withFresh name).lookup? name = some registry.loggers.length :=
  Dictionary.get?_insert_self _ _ _

theorem lookup?_withFresh_of_ne {other : Bytes} (distinct : other ≠ name) :
    (registry.withFresh name).lookup? other = registry.lookup? other :=
  Dictionary.get?_insert_of_ne _ _ distinct

theorem isAt_withFresh (levelled : registry.IsAt level) (name : Bytes) :
    (registry.withFresh name).IsAt level where
  level_eq := levelled.level_eq
  registered := by
    intro other number number_eq
    by_cases same : other = name
    · rw [same, lookup?_withFresh_self] at number_eq
      obtain rfl := Option.some_inj.mp number_eq
      exact ⟨_, logger?_withFresh_length registry name, same.symm, levelled.level_eq⟩
    · rw [lookup?_withFresh_of_ne same] at number_eq
      obtain ⟨logger, known, named, level_eq⟩ := levelled.registered other number number_eq
      exact ⟨logger, logger?_withFresh known name, named, level_eq⟩

/-- Making a logger for a name that has none does not change where records go. -/
theorem reach_withFresh (levelled : registry.IsAt level) (missing : registry.lookup? name = none) :
    (registry.withFresh name).reach = registry.reach := by
  have sinks_eq : ∀ other, ((registry.withFresh name).fresh other).sinks =
      (registry.fresh other).sinks := by
    intro other
    simp only [fresh, withFresh]
    by_cases unset : registry.sinks.isEmpty <;> simp [unset]
  funext other
  by_cases same : other = name
  · have unnamed : registry.named? other = none := by rw [same, named?, missing]; rfl
    have named : (registry.withFresh name).named? other = some (registry.fresh name) := by
      rw [same, named?, lookup?_withFresh_self]
      exact logger?_withFresh_length registry name
    rw [reach, reach, named, unnamed]
    rfl
  · cases found : registry.lookup? other with
    | none =>
        have unnamed : registry.named? other = none := by rw [named?, found]; rfl
        have still : (registry.withFresh name).named? other = none := by
          rw [named?, lookup?_withFresh_of_ne same, found]
          rfl
        rw [reach, reach, still, unnamed]
        exact sinks_eq other
    | some number =>
        obtain ⟨logger, known, _⟩ := levelled.registered other number found
        have named : registry.named? other = some logger := by rw [named?, found]; exact known
        have still : (registry.withFresh name).named? other = some logger := by
          rw [named?, lookup?_withFresh_of_ne same, found]
          exact logger?_withFresh known name
        rw [reach, reach, still, named]
        rfl

/-! ## Delivering a record -/

/-- A record as it reaches sinks, if a level lets it through. -/
def linesAt (level : Level) (sinks : List Sink) (record : Record) : List Line :=
  if level.enables record.level then sinks.map fun sink => ⟨sink, record⟩ else []

/-- A record reaches the sinks of its name if the level lets it through, and leaves the registry as it was
but for a logger of its name. -/
theorem deliver_of_isAt (levelled : registry.IsAt level) (record : Record) :
    let delivered := registry.deliver record
    delivered.1.IsAt level ∧ delivered.1.reach = registry.reach ∧
      delivered.2 = linesAt level (registry.reach record.logger) record := by
  have through : ∀ (after : Registry) (number : Nat) (logger : Logger),
      after.logger? number = some logger → logger.name = record.logger → logger.level = level →
      after.linesThrough number record.level record.message = linesAt level logger.sinks record := by
    rintro after number logger known named rfl
    rw [linesThrough, known]
    simp only [sinksFor, linesAt, named]
    split <;> rfl
  simp only [deliver]
  cases found : registry.lookup? record.logger with
  | some number =>
      obtain ⟨logger, known, named, level_eq⟩ := levelled.registered record.logger number found
      have own : registry.named? record.logger = some logger := by rw [named?, found]; exact known
      rw [obtain_of_found found]
      refine ⟨levelled, rfl, ?_⟩
      rw [reach, own]
      exact through registry number logger known named level_eq
  | none =>
      have own : registry.named? record.logger = none := by rw [named?, found]; rfl
      rw [obtain_of_missing found]
      refine ⟨isAt_withFresh levelled _, reach_withFresh levelled found, ?_⟩
      rw [reach, own]
      exact through _ _ _ (logger?_withFresh_length registry _) rfl levelled.level_eq

/-! ## Setting up logging -/

/-- Setting up logging leaves the default logger as the only registered one. -/
theorem lookup?_restart (earlier : Registry) (sinks : List Sink) (level : Level) (name : Bytes) :
    (earlier.restart sinks level).lookup? name =
      if defaultName = name then some earlier.loggers.length else none := by
  simp only [restart, dropAll, make, setDefault, register, logger?, List.getElem?_concat_length,
    setRegisteredLevel, lookup?]
  rfl

theorem logger?_restart (earlier : Registry) (sinks : List Sink) (level : Level) :
    (earlier.restart sinks level).logger? earlier.loggers.length =
      some ⟨defaultName, level, sinks⟩ := by
  simp only [restart, dropAll, make, setDefault, register, logger?, List.getElem?_concat_length,
    setRegisteredLevel, List.getElem?_mapIdx]
  simp [Dictionary.insert]

theorem config_restart (earlier : Registry) (sinks : List Sink) (level : Level) :
    (earlier.restart sinks level).level = level ∧ (earlier.restart sinks level).sinks = sinks := by
  simp only [restart, dropAll, make, setDefault, register, logger?, List.getElem?_concat_length,
    setRegisteredLevel, and_self]

theorem isAt_restart (earlier : Registry) (sinks : List Sink) (level : Level) :
    (earlier.restart sinks level).IsAt level where
  level_eq := (config_restart earlier sinks level).1
  registered := by
    intro name number found
    rw [lookup?_restart] at found
    split at found
    next same =>
      obtain rfl := Option.some_inj.mp found
      exact ⟨_, logger?_restart earlier sinks level, same, rfl⟩
    next => cases found

/-- Where records go after logging was set up depends on the sinks only. -/
theorem reach_restart (earlier : Registry) (sinks : List Sink) (level : Level) :
    (earlier.restart sinks level).reach = fun name =>
      if defaultName = name then sinks
      else if sinks.isEmpty then [.standardOutput] else sinks := by
  funext name
  rw [reach, named?, lookup?_restart]
  split
  · rw [Option.bind_some, logger?_restart]
    rfl
  · rw [Option.bind_none, Option.getD_none, fresh, (config_restart earlier sinks level).2]

end Registry

end Log

end SandboxClient
