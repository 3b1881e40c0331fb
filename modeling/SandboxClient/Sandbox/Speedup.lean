import SandboxClient.Sandbox.Run

/-!
# Speeding up downloads

Shell scripts that point a package manager at a package source, or pin the address of a host.  A script is
handed to the shell as one single-quoted word, so that the launch line sees a single command.
-/

namespace SandboxClient

/-- What is to be sped up. -/
inductive Speedup where
  | apt
  | pip
  | github
  /-- A kind that is not known. -/
  | unknown
  deriving DecidableEq, Repr

namespace Speedup

def logger : Bytes := utf8 "rock.sandbox.network"

def name : Speedup → Bytes
  | .apt => utf8 "apt"
  | .pip => utf8 "pip"
  | .github => utf8 "github"
  | .unknown => utf8 "unknown"

/-- A text in single quotes; a quote in it is written outside of them with a backslash. -/
def shellQuote (text : Bytes) : Bytes :=
  utf8 "'" ++ text.flatMap (fun byte => if byte = 39 then utf8 "'\\''" else [byte]) ++ utf8 "'"

/-- One line of a package source list. -/
def sourceLine (site suite : Bytes) : Bytes :=
  utf8 "deb " ++ site ++ utf8 " $(lsb_release -cs)" ++ suite ++
    utf8 " main restricted universe multiverse\n"

/-- The script that makes a site the package source. -/
def aptScript (site : Bytes) : Bytes :=
  utf8 "cat > /etc/apt/sources.list << 'EOF'\n" ++ sourceLine site [] ++
    sourceLine site (utf8 "-updates") ++ sourceLine site (utf8 "-backports") ++
    sourceLine site (utf8 "-security") ++ utf8 "EOF\napt-get update"

/-- The script that makes an address the package index. -/
def pipScript (index : Bytes) : Bytes :=
  utf8 "mkdir -p ~/.pip && cat > ~/.pip/pip.conf << EOF\n[global]\nindex-url = " ++ index ++
    utf8 "\ntrusted-host = $(echo " ++ index ++
    utf8 " | sed 's|https\\?://||' | cut -d'/' -f1)\nEOF"

/-- The script that pins the address of a host. -/
def githubScript (address : Bytes) : Bytes :=
  utf8 "echo \"" ++ address ++ utf8 " github.com\" >> /etc/hosts"

/-- The script of a kind with a value, which must not be empty. -/
def script (kind : Speedup) (value : Bytes) : Except Error Bytes :=
  if value.isEmpty then
    .error (.invalidParameter (kind.name ++ utf8 " speedup value is empty"))
  else
    match kind with
    | .apt => .ok (aptScript value)
    | .pip => .ok (pipScript value)
    | .github => .ok (githubScript value)
    | .unknown => .error (.invalidParameter (utf8 "Unsupported speedup type"))

/-- The command that hands a script to the shell. -/
def command (script : Bytes) : Bytes :=
  utf8 "bash -c " ++ shellQuote script

/-- Runs the script of a kind detached. -/
def apply (patience : Nat) (sandbox : Sandbox) (kind : Speedup) (value : Bytes)
    (timeout : Int := 300) : Attempt Observation := do
  let id ← .ofExcept sandbox.sandboxId
  Program.log logger .info
    (utf8 "[" ++ id ++ utf8 "] Configuring " ++ kind.name ++ utf8 " speedup: " ++ value)
  let script ← .ofExcept (kind.script value)
  sandbox.run patience (command script) { mode := .detached, waitTimeout := timeout }

end Speedup

end SandboxClient
