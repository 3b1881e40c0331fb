import SandboxClient.FileTree.Append
import SandboxClient.Program

/-!
# Logger registry

Loggers are looked up by name.  Setting up logging drops the registered loggers and decides the level
and the sinks of those that are made afterwards; a logger that was dropped keeps working for whoever
still holds it.  One of the registered loggers is the default one.
-/

namespace SandboxClient

namespace Log

/-- Where records go. -/
inductive Sink where
  | standardOutput
  | file (path : Bytes)
  deriving DecidableEq, Repr

structure Logger where
  name : Bytes
  level : Level
  sinks : List Sink
  deriving DecidableEq, Repr

/-- All loggers ever made, which of them are registered under their names, which one is the default,
and what new loggers get.  Loggers are known by their number in the list. -/
structure Registry where
  loggers : List Logger := []
  registered : Dictionary Nat := []
  default? : Option Nat := none
  sinks : List Sink := []
  level : Level := .info
  deriving DecidableEq, Repr

def defaultName : Bytes := utf8 "rock"

namespace Registry

def logger? (registry : Registry) (number : Nat) : Option Logger :=
  registry.loggers[number]?

/-- The number of the logger registered under a name. -/
def lookup? (registry : Registry) (name : Bytes) : Option Nat :=
  Dictionary.get? registry.registered name

/-- Makes a logger without registering it. -/
def make (registry : Registry) (logger : Logger) : Registry × Nat :=
  ({ registry with loggers := registry.loggers ++ [logger] }, registry.loggers.length)

/-- Registers a logger under its name. -/
def register (registry : Registry) (number : Nat) : Registry :=
  match registry.logger? number with
  | some logger =>
    { registry with registered := Dictionary.insert registry.registered logger.name number }
  | none => registry

/-- Forgets all registered loggers and the default one. -/
def dropAll (registry : Registry) : Registry :=
  { registry with registered := [], default? := none }

/-- Makes a registered logger the default one.  The name of the default logger before it is freed. -/
def setDefault (registry : Registry) (number : Nat) : Registry :=
  let former := registry.default?.bind registry.logger?
  let registered :=
    match former with
    | some logger => registry.registered.filter fun entry => entry.1 ≠ logger.name
    | none => registry.registered
  { { registry with registered }.register number with default? := some number }

def setRegisteredLevel (registry : Registry) (level : Level) : Registry :=
  let isRegistered := fun number => registry.registered.any fun entry => entry.2 = number
  { registry with
    loggers := registry.loggers.mapIdx fun number logger =>
      if isRegistered number then { logger with level } else logger }

/-- Sets the level of the registered loggers and of those made afterwards. -/
def setLevel (registry : Registry) (level : Level) : Registry :=
  { registry with level }.setRegisteredLevel level

/-- The logger of a name, made and registered if there is none.  Without configured sinks loggers
write to standard output. -/
def obtain (registry : Registry) (name : Bytes) : Registry × Nat :=
  match registry.lookup? name with
  | some number => (registry, number)
  | none =>
    let sinks := if registry.sinks.isEmpty then [Sink.standardOutput] else registry.sinks
    let (made, number) :=
      { registry with sinks }.make { name, level := registry.level, sinks }
    (made.register number, number)

/-- Replaces the configuration, leaving a default logger as the only registered one. -/
def restart (registry : Registry) (sinks : List Sink) (level : Level) : Registry :=
  let dropped := { registry with sinks, level }.dropAll
  let (made, number) := dropped.make { name := defaultName, level := .info, sinks }
  (made.setDefault number).setRegisteredLevel level

/-- Ends logging: only a new default logger on standard output is left. -/
def shutdown (registry : Registry) : Registry :=
  let dropped := { registry.dropAll with sinks := [] }
  let (made, number) :=
    dropped.make { name := defaultName, level := .info, sinks := [.standardOutput] }
  made.setDefault number

/-- The sinks that a record reaches through a logger. -/
def sinksFor (logger : Logger) (level : Level) : List Sink :=
  if logger.level.enables level then logger.sinks else []

def filePath (config : LoggingConfig) : Bytes :=
  config.directory ++ utf8 "/" ++ config.fileName

/-- The record about a log file that cannot be opened.  A zero byte ends what was reported about it. -/
def fileComplaint (path reason : Bytes) : Record where
  logger := defaultName
  level := .warning
  message := utf8 "Cannot open log file " ++ path ++ utf8 ": " ++
    Text.upToNul (utf8 "Failed opening file " ++ path ++ utf8 " for writing: " ++ reason)

/-- Sets up logging with a log file that could be opened or not.  One that could not is left out and
complained about to the default logger before it is replaced. -/
def configureWith (registry : Registry) (config : LoggingConfig) (opened : Except Bytes Unit) :
    Registry × List Record :=
  let level := Level.ofText config.level
  let path := filePath config
  match opened with
  | .ok () => (registry.restart [.standardOutput, .file path] level, [])
  | .error reason => (registry.restart [.standardOutput] level, [fileComplaint path reason])

/-- Sets up logging; a configuration without a directory has no log file. -/
def configure (registry : Registry) (tree : FileTree) (directory : Location)
    (config : LoggingConfig) : Registry × FileTree × List Record :=
  if config.directory.isEmpty then
    (registry.restart [.standardOutput] (Level.ofText config.level), tree, [])
  else
    let (after, opened) := tree.openForAppend directory (filePath config)
    let (configured, complaints) := registry.configureWith config (opened.mapError PathFault.text)
    (configured, after, complaints)

/-- The registry of a process that has set up logging at a level and nothing else. -/
def atLevel (level : Level) : Registry :=
  ({} : Registry).restart [.standardOutput] level

end Registry

/-- A record as it reaches one sink. -/
structure Line where
  sink : Sink
  record : Record
  deriving DecidableEq, Repr

namespace Registry

/-- The lines of a record written through the logger with a number. -/
def linesThrough (registry : Registry) (number : Nat) (level : Level) (message : Bytes) :
    List Line :=
  match registry.logger? number with
  | some logger =>
    (sinksFor logger level).map fun sink => ⟨sink, { logger := logger.name, level, message }⟩
  | none => []

/-- The lines of a record written through the logger of its name. -/
def deliver (registry : Registry) (record : Record) : Registry × List Line :=
  let (after, number) := registry.obtain record.logger
  (after, after.linesThrough number record.level record.message)

end Registry

end Log

end SandboxClient
