import SandboxClient.Config
import SandboxClient.Command
import SandboxClient.CommandLine.Terminal

/-!
# Options of the command line

Arguments are options up to the first one that is none, or up to a double dash; everything after that
is the command.  An option is a switch, or a setting that takes the next argument as its value,
whatever that looks like.
-/

namespace SandboxClient

namespace CommandLine

/-- What the arguments decide. -/
structure Options where
  sandbox : SandboxConfig := {}
  run : RunOptions := {}
  /-- The level of loggers, empty if it is left to the environment. -/
  logLevel : Bytes := []
  retry : Bool := false
  command : Bytes := []

/-- An option without a value. -/
inductive Switch where
  | detached
  | ignoreOutput
  | retry
  deriving DecidableEq, Repr

/-- An option with a value. -/
inductive Setting where
  | baseUrl
  | image
  | memory
  | cpus
  | cluster
  | startupTimeout
  | session
  | timeout
  | waitTimeout
  | waitInterval
  | byteLimit
  | logLevel
  deriving DecidableEq, Repr

/-- The argument that stands for a switch. -/
def Switch.flag : Switch → Bytes
  | .detached => utf8 "--nohup"
  | .ignoreOutput => utf8 "--ignore-output"
  | .retry => utf8 "--retry"

/-- The argument that stands for a setting. -/
def Setting.flag : Setting → Bytes
  | .baseUrl => utf8 "--base-url"
  | .image => utf8 "--image"
  | .memory => utf8 "--memory"
  | .cpus => utf8 "--cpus"
  | .cluster => utf8 "--cluster"
  | .startupTimeout => utf8 "--startup-timeout"
  | .session => utf8 "--session"
  | .timeout => utf8 "--timeout"
  | .waitTimeout => utf8 "--wait-timeout"
  | .waitInterval => utf8 "--wait-interval"
  | .byteLimit => utf8 "--limit-bytes"
  | .logLevel => utf8 "--log-level"

def Switch.all : List Switch :=
  [.detached, .ignoreOutput, .retry]

def Setting.all : List Setting :=
  [.baseUrl, .image, .memory, .cpus, .cluster, .startupTimeout, .session, .timeout, .waitTimeout,
    .waitInterval, .byteLimit, .logLevel]

def Switch.apply (switch : Switch) (options : Options) : Options :=
  match switch with
  | .detached => { options with run := { options.run with mode := .detached } }
  | .ignoreOutput => { options with run := { options.run with ignoreOutput := true } }
  | .retry => { options with retry := true }

/-- The number a value stands for, or the error of a value that stands for none. -/
def numberOf {Number : Type} (kind : NumeralKind) (read : Bytes → Except NumeralFault Number)
    (value : Bytes) : Except Error Number :=
  match read value with
  | .ok number => .ok number
  | .error fault => .error (.badNumeral kind fault)

def integerOf (value : Bytes) : Except Error Int :=
  numberOf .integer Numeral.readInt32 value

def Setting.apply (setting : Setting) (value : Bytes) (options : Options) : Except Error Options :=
  let sandbox := options.sandbox
  let run := options.run
  match setting with
  | .baseUrl => .ok { options with sandbox := { sandbox with baseUrl := value } }
  | .image => .ok { options with sandbox := { sandbox with image := value } }
  | .memory => .ok { options with sandbox := { sandbox with memory := value } }
  | .cpus => do
    let cpus ← numberOf .real Numeral.readDouble value
    return { options with sandbox := { sandbox with cpus } }
  | .cluster => .ok { options with sandbox := { sandbox with cluster := value } }
  | .startupTimeout => do
    let startupTimeout ← integerOf value
    return { options with sandbox := { sandbox with startupTimeout } }
  | .session => .ok { options with run := { run with session? := some value } }
  | .timeout => do
    let timeout ← integerOf value
    return { options with run := { run with timeout } }
  | .waitTimeout => do
    let waitTimeout ← integerOf value
    return { options with run := { run with waitTimeout } }
  | .waitInterval => do
    let waitInterval ← integerOf value
    return { options with run := { run with waitInterval } }
  | .byteLimit => do
    let limit ← numberOf .size Numeral.readSize value
    return { options with run := { run with byteLimit? := some limit } }
  | .logLevel => .ok { options with logLevel := value }

/-- What an argument means where an option may stand. -/
inductive Word where
  /-- The options end here. -/
  | separator
  | help
  | switch (switch : Switch)
  | setting (setting : Setting)
  /-- The argument is no option. -/
  | other
  deriving DecidableEq, Repr

/-- The meaning of an argument where an option may stand. -/
def Word.ofArgument (argument : Bytes) : Word :=
  if argument = utf8 "--" then .separator
  else if argument = utf8 "-h" || argument = utf8 "--help" then .help
  else
    match Switch.all.find? (·.flag = argument), Setting.all.find? (·.flag = argument) with
    | some found, _ => .switch found
    | none, some found => .setting found
    | none, none => .other

/-- What the arguments ask for. -/
inductive Verdict where
  | run
  | help
  | noCommand
  deriving DecidableEq, Repr

/-- A command with one more word.  Words are one space apart, but nothing is put in front of the first
word that is not empty. -/
def appendWord (command word : Bytes) : Bytes :=
  if command.isEmpty then word else command ++ utf8 " " ++ word

/-- Takes the remaining arguments as the command. -/
def takeCommand (words : List Bytes) (options : Options) : Options × Verdict :=
  let command := words.foldl appendWord options.command
  ({ options with command }, if command.isEmpty then .noCommand else .run)

/-- Reads arguments: the options as far as they were read, and what is asked for. -/
def Options.read : List Bytes → Options → Options × Except Error Verdict
  | [], options =>
    let (options, verdict) := takeCommand [] options
    (options, .ok verdict)
  | argument :: rest, options =>
    match Word.ofArgument argument with
    | .separator =>
      let (options, verdict) := takeCommand rest options
      (options, .ok verdict)
    | .help => (options, .ok .help)
    | .switch switch => read rest (switch.apply options)
    | .setting setting =>
      match rest with
      | [] => (options, .error (.invalidParameter (argument ++ utf8 " requires a value")))
      | value :: others =>
        match setting.apply value options with
        | .error error => (options, .error error)
        | .ok changed => read others changed
    | .other =>
      let (options, verdict) := takeCommand (argument :: rest) options
      (options, .ok verdict)

end CommandLine

end SandboxClient
