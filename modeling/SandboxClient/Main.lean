import SandboxClient.CommandLine.Session
import SandboxClient.Http.Wire
import SandboxClient.Log.Layout
import Std.Async.DNS
import Std.Async.TCP
import Std.Async.Timer
import Std.Internal.UV.System
import Std.Time

/-!
# The command line

Runs the program of the command line in the world of its process: its environment, files, clocks,
output streams and connections.
-/

namespace SandboxClient

namespace CommandLine

/-! ## Texts -/

def bytesOf (array : ByteArray) : Bytes :=
  array.data.toList

def arrayOf (bytes : Bytes) : ByteArray :=
  ⟨bytes.toArray⟩

/-- A text as a string.  Bytes that are not UTF-8 stand for the characters with their numbers. -/
def stringOf (bytes : Bytes) : String :=
  (String.fromUTF8? (arrayOf bytes)).getD
    (String.ofList (bytes.map fun byte => Char.ofNat byte.toNat))

/-! ## Connections -/

open Std.Async in
/-- Connects to the first address that accepts. -/
def connectTo (service : UInt16) : List Std.Net.IPAddr → Async (Option TCP.Socket.Client)
  | [] => return none
  | address :: others => do
    let place : Std.Net.SocketAddress :=
      match address with
      | .v4 address => .v4 ⟨address, service⟩
      | .v6 address => .v6 ⟨address, service⟩
    try
      let client ← TCP.Socket.Client.mk
      client.connect place
      return some client
    catch _ => connectTo service others

open Std.Async in
/-- Receives until the connection ends. -/
def receive (client : TCP.Socket.Client) : Async Bytes := do
  let mut received := ByteArray.empty
  repeat
    match ← client.recv? 65536 with
    | some piece => received := received ++ piece
    | none => break
  return bytesOf received

open Std.Async in
/-- Sends a transfer to its target and receives the response. -/
def converse (target : Wire.Target) (boundary : Bytes) (transfer : Transfer) :
    Async TransferOutcome := do
  let addresses ←
    try DNS.getAddrInfo (stringOf target.host) (stringOf target.service)
    catch _ => return Wire.Fault.unknownHost.outcome
  let service := (Text.numeralValue target.service).toUInt16
  match ← connectTo service addresses.toList with
  | none => return Wire.Fault.noConnection.outcome
  | some client =>
    try
      client.send (arrayOf (Wire.requestBytes target boundary transfer))
      return Wire.outcomeOf (← receive client)
    catch _ => return Wire.Fault.noResponse.outcome

open Std.Async in
/-- Performs a transfer within its timeout; a timeout that is not positive does not count. -/
def perform (boundary : Bytes) (transfer : Transfer) : Async TransferOutcome :=
  match Wire.Target.ofUrl? transfer.url with
  | none => return Wire.Fault.unsupportedScheme.outcome
  | some target =>
    if transfer.timeout ≤ 0 then converse target boundary transfer
    else
      have : Inhabited TransferOutcome := ⟨Wire.Fault.timedOut.outcome⟩
      Async.race (converse target boundary transfer) do
        Std.Async.sleep (.ofInt transfer.timeout)
        return Wire.Fault.timedOut.outcome

/-! ## The process -/

/-- What a process keeps between its actions. -/
structure Console where
  registry : Log.Registry := {}
  layout : Bytes := ({} : LoggingConfig).layout
  /-- The boundary of forms. -/
  boundary : Bytes

/-- Random digits, two for each byte. -/
def randomDigits (bytes : Nat) : IO Bytes := do
  return (bytesOf (← IO.getRandomBytes bytes.toUSize)).flatMap (Text.hexByte Text.lowerHexDigits)

/-- The parts of the time that a layout can ask for, under their letters. -/
def stamp : IO (List (UInt8 × Bytes)) := do
  let now ← Std.Time.PlainDateTime.now
  return [(89, "uuuu"), (109, "MM"), (100, "dd"), (72, "HH"), (77, "mm"), (83, "ss"), (101, "SSS")].map
    fun part => (part.1, utf8 (now.format part.2))

/-- Writes to an output stream at once. -/
def write (stream : Stream) (text : Bytes) : IO Unit := do
  let handle ←
    match stream with
    | .output => IO.getStdout
    | .error => IO.getStderr
  handle.write (arrayOf text)
  handle.flush

/-- Writes a log record to the sinks it reaches. -/
def writeRecord (console : Console) (record : Log.Record) : IO Console := do
  let (registry, lines) := console.registry.deliver record
  for line in lines do
    let text := Log.Layout.render console.layout (← stamp) line.record
    match line.sink with
    | .standardOutput => write .output text
    | .file path =>
      IO.FS.withFile (stringOf path) .append fun handle => handle.write (arrayOf text)
  return { console with registry }

/-- Opens the log file of a configuration, or tells why it cannot be opened. -/
def openLogFile (config : LoggingConfig) : IO (Except Bytes Unit) := do
  try
    IO.FS.createDirAll (stringOf config.directory)
    IO.FS.withFile (stringOf (Log.Registry.filePath config)) .append fun _ => return .ok ()
  catch error =>
    match error with
    | .noFileOrDirectory .. => return .error PathFault.missing.text
    | .alreadyExists .. | .inappropriateType .. => return .error PathFault.notDirectory.text
    | other => return .error (utf8 other.toString)

/-- Sets up logging. -/
def openLogging (console : Console) (config : LoggingConfig) : IO Console := do
  let console := { console with layout := config.layout }
  if config.directory.isEmpty then
    let (registry, _, _) := console.registry.configure [] [] config
    return { console with registry }
  else
    let (registry, complaints) := console.registry.configureWith config (← openLogFile config)
    for complaint in complaints do
      let _ ← writeRecord console complaint
    return { console with registry }

/-- Looks up a file to send. -/
def loadFile (path : Bytes) : IO LocalFile := do
  try return .content (bytesOf (← IO.FS.readBinFile (stringOf path)))
  catch error =>
    match error with
    | .permissionDenied .. | .resourceExhausted .. => return .unopened
    | _ => return .missing

/-- Answers an action.  Requests do not occur once a program is carried over HTTP. -/
def answer (console : Console) : (action : Action) → IO (action.Answer × Console)
  | .request request => return (.error (Exchange.failure request (utf8 "no handler")), console)
  | .acquire _ => return (true, console)
  | .transfer transfer => return (← (perform console.boundary transfer).block, console)
  | .sleep millis => return (← IO.sleep millis.toNat.toUInt32, console)
  | .now => return (((← IO.monoNanosNow : Nat) : Int), console)
  | .epochMillis => do
    let now ← Std.Time.Timestamp.now
    return (now.toMillisecondsSinceUnixEpoch.toInt, console)
  | .draw bound => do
    let drawn ← IO.rand 0 999999999
    return (truncateToInt64 (bound * (drawn.toFloat / 1000000000)), console)
  | .loadFile path => return (← loadFile path, console)
  | .log record => return ((), ← writeRecord console record)
  | .print stream text => return (← write stream text, console)
  | .openLogging config => return ((), ← openLogging console config)
  | .closeLogging => return ((), { console with registry := console.registry.shutdown })

/-- Runs a program.  One that stalls has no result. -/
def interpret {Result : Type} : Program Result → Console → IO (Option Result)
  | .done result, _ => return some result
  | .stalled, _ => return none
  | .act action next, console => do
    let (answered, after) ← answer console action
    interpret (next answered) after

/-- The directory that a path of the process names. -/
def directoryOf (path : String) : Location :=
  FileTree.resolve [] (utf8 path)

/-- Adds a file that is read from disk, and the directories that lead to it. -/
def withFileAt (files : FileTree) (directory : Location) (path : Bytes) : IO FileTree := do
  match ← loadFile path with
  | .content content =>
    return (files.makeWay directory path).put (FileTree.resolve directory path) (.file content)
  | _ => return files

/-- What the process finds: its environment, its directories and the environment files. -/
def survey : IO Surroundings := do
  let entries ← Std.Internal.UV.System.osEnviron
  let directory := directoryOf (← IO.currentDir).toString
  let program := directoryOf (← IO.appPath).toString
  let surroundings : Surroundings := {
    environment := entries.toList.map fun entry => utf8 entry.1 ++ utf8 "=" ++ utf8 entry.2
    files := FileTree.withDirectory [] directory
    directory
    programDirectory? := some program.dropLast }
  let files ←
    (Dotenv.searchPaths surroundings).foldlM (fun files path => withFileAt files directory path)
      surroundings.files
  return { surroundings with files }

/-- The rounds of polling that a run is willing to make. -/
def patience : Nat := 1000000000

end CommandLine

end SandboxClient

open SandboxClient in
/-- Runs the command that the arguments ask for and ends with its exit code. -/
def main (arguments : List String) : IO UInt32 := do
  let freshKey ← CommandLine.randomDigits 16
  let boundary ← CommandLine.randomDigits 24
  let program :=
    CommandLine.programOverHttp CommandLine.patience (← CommandLine.survey) (arguments.map utf8)
      freshKey
  let code ← CommandLine.interpret program { boundary }
  return ((code.getD CommandLine.failed) % 256).toNat.toUInt32
