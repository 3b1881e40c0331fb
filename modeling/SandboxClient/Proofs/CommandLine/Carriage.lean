import SandboxClient.Proofs.CommandLine.Session
import SandboxClient.Proofs.Http.Carriage

/-!
# The program over HTTP

The program itself makes no transfers, so its calls can be carried over HTTP, and the account of a session
is kept whatever the transfer library reports.
-/

namespace SandboxClient

namespace CommandLine

theorem aboveHttp_of_inSession {action : Action} (session : InSession action) : action.AboveHttp := by
  cases action with
  | acquire resource => exact session
  | transfer transfer => exact session
  | _ => trivial

theorem aboveHttp_of_silent {Result : Type} {expected : Result → Prop} {program : Program Result}
    (silent : program.Silent expected) : program.Confined Action.AboveHttp :=
  silent.confined fun _ => Action.aboveHttp_of_isQuiet

theorem aboveHttp_program (patience : Nat) (surroundings : Surroundings) (arguments : List Bytes)
    (freshKey : Bytes) :
    (program patience surroundings arguments freshKey).Confined Action.AboveHttp := by
  refine (aboveHttp_of_silent (Dotenv.silent_load surroundings)).bind fun loaded => ?_
  refine (aboveHttp_of_silent (Settings.silent_sandbox loaded.environment)).bind fun config => ?_
  rcases Options.read arguments { sandbox := config } with ⟨options, error | verdict⟩
  · exact ⟨trivial, fun _ => trivial⟩
  · cases verdict with
    | run =>
        have served : (serve patience options (Sandbox.create options.sandbox freshKey)).Confined
            Action.AboveHttp := confined_serve.mono fun _ => aboveHttp_of_inSession
        exact ⟨trivial, fun _ => served.bind fun code => ⟨trivial, fun _ => trivial⟩⟩
    | help => exact (aboveHttp_of_silent (silent_announce .help)).bind fun _ => trivial
    | noCommand => exact (aboveHttp_of_silent (silent_announce .noCommand)).bind fun _ => trivial

/-- A session never leaks a sandbox: for all arguments, surroundings and answers of the service, the
account of the program is kept, and so it is for all reports of the transfer library when the calls are
carried over HTTP. -/
theorem program_releases_sandbox {State : Type} (world : World State) (state : State) (patience : Nat)
    (surroundings : Surroundings) (arguments : List Bytes) (freshKey : Bytes) :
    let run := (program patience surroundings arguments freshKey).run world state
    let carried := (programOverHttp patience surroundings arguments freshKey).run world state
    SessionAccount patience surroundings arguments freshKey run.events run.result? ∧
      ∃ events, Carried events carried.events ∧
        SessionAccount patience surroundings arguments freshKey events carried.result? ∧
        (Event.TimePasses carried.events → Event.TimePasses events) ∧
        ((Event.exchanges carried.events).map fun exchanged => exchanged.transfer.url).Sublist
          ((Event.contacts events).map fun contact => Text.upToNul contact.request.url) := by
  constructor
  · exact account_of_admits (Program.admits_run world _ state)
  · have above := aboveHttp_program patience surroundings arguments freshKey
    obtain ⟨events, admitted, carries⟩ :=
      Program.admits_of_overHttp above (Program.admits_run world _ state)
    exact ⟨events, carries, account_of_admits admitted, carries.timePasses, carries.transfers_sublist⟩

end CommandLine

end SandboxClient
