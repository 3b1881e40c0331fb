import SandboxClient.Backoff
import SandboxClient.Clock
import SandboxClient.Command
import SandboxClient.CommandLine.Options
import SandboxClient.CommandLine.Session
import SandboxClient.CommandLine.Terminal
import SandboxClient.Config
import SandboxClient.Decimal.Binary64
import SandboxClient.Decimal.Layout
import SandboxClient.Decimal.Numeral
import SandboxClient.Decimal.Shortest
import SandboxClient.Detached.Marker
import SandboxClient.Detached.Supervision
import SandboxClient.Dictionary
import SandboxClient.Dotenv
import SandboxClient.Envelope
import SandboxClient.Environment
import SandboxClient.Error
import SandboxClient.FileTree.Append
import SandboxClient.FileTree.Basic
import SandboxClient.Group.Basic
import SandboxClient.Group.Program
import SandboxClient.Http.Exchange
import SandboxClient.Http.Request
import SandboxClient.Http.Wire
import SandboxClient.Json.Basic
import SandboxClient.Json.Parser
import SandboxClient.Json.Printer
import SandboxClient.Json.Token
import SandboxClient.Log.Layout
import SandboxClient.Log.Level
import SandboxClient.Log.Registry
import SandboxClient.Main
import SandboxClient.Observation
import SandboxClient.Program
import SandboxClient.Proofs.Program.Behaviour
import SandboxClient.Proofs.Program.Confinement
import SandboxClient.Proofs.Program.Contact
import SandboxClient.Retry
import SandboxClient.Sandbox.Account
import SandboxClient.Sandbox.Basic
import SandboxClient.Sandbox.Execution
import SandboxClient.Sandbox.Files
import SandboxClient.Sandbox.Lifecycle
import SandboxClient.Sandbox.Ownership
import SandboxClient.Sandbox.Run
import SandboxClient.Sandbox.Script
import SandboxClient.Sandbox.Speedup
import SandboxClient.Settings
import SandboxClient.Simulation
import SandboxClient.Status
import SandboxClient.StatusCode
import SandboxClient.Text
import SandboxClient.Text.Utf8
import SandboxClient.Timing
import SandboxClient.Proofs.Sandbox.Calls
import SandboxClient.Proofs.Polling
import SandboxClient.Proofs.Detached.Probing
import SandboxClient.Proofs.Detached.Protocol
import SandboxClient.Proofs.Program.Rehearsal
import SandboxClient.Proofs.Sandbox.Starting
import SandboxClient.Proofs.Program.Agreement
import SandboxClient.Proofs.Sandbox.StartOutcome
import SandboxClient.Proofs.Lifetime.Operation
import SandboxClient.Proofs.Lifetime.History
import SandboxClient.Proofs.Lifetime.Soundness
import SandboxClient.Proofs.Lifetime.Addressing
import SandboxClient.Proofs.Lifetime.Stopping
import SandboxClient.Proofs.Group.Behaviour
import SandboxClient.Proofs.Retry.Attempts
import SandboxClient.Proofs.Retry.Trials
import SandboxClient.Proofs.Group.Batches
import SandboxClient.Proofs.Group.Course
import SandboxClient.Proofs.Group.Start
import SandboxClient.Proofs.Group.History
import SandboxClient.Proofs.Group.Stopping
import SandboxClient.Proofs.Sandbox.Errand
import SandboxClient.Proofs.Sandbox.Service
import SandboxClient.Proofs.Http.Sending
import SandboxClient.Proofs.Http.Contract
import SandboxClient.Proofs.CommandLine.Reading
import SandboxClient.Proofs.Http.Carriage
import SandboxClient.Proofs.Sandbox.Ending
import SandboxClient.Proofs.CommandLine.Serving
import SandboxClient.Proofs.CommandLine.Session
import SandboxClient.Proofs.CommandLine.Carriage
import SandboxClient.Proofs.Detached.Marker
import SandboxClient.Proofs.Detached.Course
import SandboxClient.Proofs.Detached.Outcome
import SandboxClient.Proofs.Detached.Relaunch
import SandboxClient.Proofs.Sandbox.Liveness
import SandboxClient.Proofs.Decimal.Magnitude
import SandboxClient.Proofs.Lifetime.Bounding
import SandboxClient.Proofs.Group.Confinement
import SandboxClient.Proofs.Log.Delivery
import SandboxClient.Proofs.Log.Observation
import SandboxClient.Proofs.Lifetime.Client
import SandboxClient.Proofs.Dotenv.Loading
import SandboxClient.Proofs.CommandLine.Given
import SandboxClient.Proofs.CommandLine.Precedence
import SandboxClient.Proofs.Polling.Deadline
import SandboxClient.Proofs.Detached.Deadline
import SandboxClient.Proofs.Json.Document
import SandboxClient.Proofs.Sandbox.Deadline
import SandboxClient.Proofs.Json.Number
import SandboxClient.Proofs.Results
import SandboxClient.Proofs.Sandbox.Verdict
import SandboxClient.Proofs.Dotenv.Line
import SandboxClient.Proofs.Envelope
import SandboxClient.Proofs.Sandbox.Repetition
import SandboxClient.Proofs.Sandbox.Script
import SandboxClient.Proofs.Dotenv.Applying
import SandboxClient.Proofs.CommandLine.Separation
import SandboxClient.Proofs.Decimal.Numeral
import SandboxClient.Proofs.CommandLine.Numbers
import SandboxClient.Proofs.Lifetime.Failing
import SandboxClient.Proofs.Sandbox.Session
import SandboxClient.Proofs.Sandbox.Speedup
import SandboxClient.Proofs.Config
import SandboxClient.Proofs.CommandLine.Validation
import SandboxClient.Proofs.Decimal.Growth
import SandboxClient.Proofs.Retry.Delays
import SandboxClient.Proofs.Config.Headers
import SandboxClient.Proofs.Results.RoundTrip
import SandboxClient.Proofs.Lifetime.Headers
import SandboxClient.Proofs.Group.Headers
import SandboxClient.Proofs.Log.Configuration
