import SandboxClient.Proofs.CommandLine.Reading
import SandboxClient.Proofs.CommandLine.Serving

/-!
# The account of a session

For all arguments, surroundings and answers of the service, the program either calls nobody and answers
what the arguments deserve, or it serves: then a sandbox that was started is stopped by the last call,
and the exit code is that of the command or says that it failed.
-/

namespace SandboxClient

open Event (Trimmed)

variable {patience : Nat} {events : List Event}

/-! ## Before the command -/

theorem Dotenv.silent_load (surroundings : Surroundings) :
    (load surroundings).Silent fun _ => True := by
  rw [load]
  split
  · trivial
  · split
    · trivial
    · exact ⟨trivial, fun _ => trivial⟩

theorem Settings.silent_startupTimeout (environment : Environment) :
    (startupTimeout environment).Silent fun _ => True := by
  rw [startupTimeout]
  split
  · trivial
  · exact ⟨trivial, fun _ => trivial⟩

theorem Settings.silent_sandbox (environment : Environment) :
    (Settings.sandbox environment).Silent fun _ => True :=
  (silent_startupTimeout environment).bind fun _ _ => trivial

namespace CommandLine

/-- The configuration that the surroundings of the program, with the environment file in them, decide. -/
def Settles (surroundings : Surroundings) (config : SandboxConfig) : Prop :=
  ∃ loaded loading settling, (Dotenv.load surroundings).Admits loading (some loaded) ∧
    (Settings.sandbox loaded.environment).Admits settling (some config)

/-- What the program comes to: its events and its exit code, which is missing if it never ends. -/
inductive SessionAccount (patience : Nat) (surroundings : Surroundings) (arguments : List Bytes)
    (freshKey : Bytes) (events : List Event) : Option Int → Prop
  | refused {error : Error} (asks : asked arguments = .error error)
      (silent : Event.contacts events = []) :
      SessionAccount patience surroundings arguments freshKey events (some 2)
  | commandless (asks : asked arguments = .ok .noCommand) (silent : Event.contacts events = []) :
      SessionAccount patience surroundings arguments freshKey events (some 2)
  | helped (asks : asked arguments = .ok .help) (silent : Event.contacts events = []) :
      SessionAccount patience surroundings arguments freshKey events (some 0)
  | served {config : SandboxConfig} {options : Options} {sandbox : Sandbox} {started? : Option Sandbox}
      {own : List Event} {code? : Option Int} (asks : asked arguments = .ok .run)
      (settles : Settles surroundings config)
      (options_eq : options = (Options.read arguments { sandbox := config }).1)
      (sandbox_eq : sandbox = Sandbox.create options.sandbox freshKey)
      (trimmed : Trimmed own events) (served : Served patience options sandbox started? own code?)
      (released : Released sandbox started? (Event.contacts events) code?)
      (ends : Patient patience options sandbox → Event.TimePasses events → code?.isSome) :
      SessionAccount patience surroundings arguments freshKey events code?

variable {surroundings : Surroundings} {arguments : List Bytes} {freshKey : Bytes}

theorem SessionAccount.refused_or_asked {code? : Option Int}
    (account : SessionAccount patience surroundings arguments freshKey events code?) :
    code? = some 2 ∧ Event.contacts events = [] ∨ ∃ verdict, asked arguments = .ok verdict := by
  cases account with
  | refused asks silent => exact .inl ⟨rfl, silent⟩
  | commandless asks silent => exact .inl ⟨rfl, silent⟩
  | helped asks silent => exact .inr ⟨_, asks⟩
  | served asks => exact .inr ⟨_, asks⟩

theorem silent_announce (verdict : Verdict) : verdict.announce.Silent fun _ => True := by
  cases verdict with
  | run => trivial
  | help => exact ⟨trivial, fun _ => trivial⟩
  | noCommand => exact ⟨trivial, fun _ => ⟨trivial, fun _ => trivial⟩⟩

/-- Setting up logging around it changes nothing about what is served. -/
theorem admits_of_session {environment : Environment} {options : Options} {code? : Option Int}
    (admitted : (session patience environment options freshKey).Admits events code?) :
    ∃ own, (serve patience options (Sandbox.create options.sandbox freshKey)).Admits own code? ∧
      Trimmed own events := by
  obtain ⟨_, rest, rfl, follows⟩ := Program.admits_act_iff.mp admitted
  rw [Program.pure_bind] at follows
  obtain ⟨own, _, serving, trimmed, rfl⟩ :=
    Program.admits_of_bind_silent id follows fun _ => ⟨trivial, fun _ => rfl⟩
  exact ⟨own, by simpa using serving, trimmed.cons⟩

theorem account_of_admits {code? : Option Int}
    (admitted : (program patience surroundings arguments freshKey).Admits events code?) :
    SessionAccount patience surroundings arguments freshKey events code? := by
  obtain ⟨loaded, loading, _, rfl, loads, unloaded, _, follows⟩ :=
    (Dotenv.silent_load surroundings).split admitted
  obtain ⟨config, settling, rest, rfl, settles, unsettled, _, follows⟩ :=
    (Settings.silent_sandbox loaded.environment).split follows
  have before : Event.contacts (loading ++ settling) = [] := by simp [unloaded, unsettled]
  have asks := read_verdict_eq_asked arguments config
  rw [← List.append_assoc]
  cases read_eq : Options.read arguments { sandbox := config } with
  | mk options verdict =>
      rw [read_eq] at follows asks
      cases verdict with
      | error error =>
          obtain ⟨_, _, rfl, ended⟩ := Program.admits_act_iff.mp follows
          obtain ⟨rfl, rfl⟩ := Program.admits_done_iff.mp ended
          exact .refused asks.symm (by rw [Event.contacts_append, before]; rfl)
      | ok verdict =>
          cases verdict with
          | help =>
              obtain ⟨_, _, _, rfl, _, silent, _, ended⟩ := (silent_announce .help).split follows
              obtain ⟨rfl, rfl⟩ := Program.admits_done_iff.mp ended
              exact .helped asks.symm (by simp [unloaded, unsettled, silent])
          | noCommand =>
              obtain ⟨_, _, _, rfl, _, silent, _, ended⟩ := (silent_announce .noCommand).split follows
              obtain ⟨rfl, rfl⟩ := Program.admits_done_iff.mp ended
              exact .commandless asks.symm (by simp [unloaded, unsettled, silent])
          | run =>
              have idle : (Sandbox.create options.sandbox freshKey).state ≠ .alive := by
                simp [Sandbox.create]
              obtain ⟨inner, serving, within⟩ := admits_of_session follows
              obtain ⟨started?, own, served, trimmed⟩ := served_of_admits idle rfl serving
              have trimmed := (trimmed.trans within).after before
              refine .served asks.symm ⟨loaded, loading, settling, loads, settles⟩ (by rw [read_eq])
                rfl trimmed served ?_ fun patient passes => ?_
              · exact trimmed.contacts_eq ▸ served.released idle
              · exact served.endsInTime patient (passes.sublist trimmed.sublist)

end CommandLine

end SandboxClient
