import SandboxClient.Proofs.CommandLine.Carriage
import SandboxClient.Proofs.CommandLine.Given
import SandboxClient.Proofs.Dotenv.Loading

/-!
# What the program goes by

An argument takes precedence over the process environment, that over the environment file, and that over
the default.  So it is with the address of the service, with the time that a start may take, and with the
level of the loggers, and a session goes by what is decided in that order.
-/

namespace SandboxClient

namespace Settings

/-- The startup timeout that a text stands for. -/
def secondsOf (text : Bytes) : Int :=
  (Numeral.readInt32 text).toOption.getD defaultStartupTimeout

theorem secondsOf_default : secondsOf (Text.integer defaultStartupTimeout) = 180 := by
  decide +kernel

def sandboxOf (environment : Environment) : SandboxConfig where
  baseUrl := baseUrl environment
  startupTimeout := secondsOf
    (environment.valueD startupTimeoutName (Text.integer defaultStartupTimeout))

theorem sandbox_remarks (environment : Environment) :
    (sandbox environment).Remarks (sandboxOf environment) := by
  rw [sandbox, startupTimeout, sandboxOf, secondsOf]
  cases read : Numeral.readInt32
      (environment.valueD startupTimeoutName (Text.integer defaultStartupTimeout)) with
  | ok seconds =>
      simp only
      exact .inl rfl
  | error fault =>
      simp only
      exact .inr ⟨_, rfl⟩

end Settings

namespace CommandLine

/-- What the arguments and the surroundings of the program decide. -/
structure Decided (surroundings : Surroundings) (arguments : List Bytes) (environment : Environment)
    (options : Options) : Prop where
  values : ∀ name, Environment.canName name = true →
    environment.value? name = surroundings.value? name
  baseUrl_eq : options.sandbox.baseUrl =
    ((lastGiven? .baseUrl arguments).or (surroundings.value? (utf8 "ROCK_BASE_URL"))).getD
      (utf8 "http://localhost:8080")
  /-- An argument that can be read is a number, but a text of the environment need not be. -/
  startupTimeout_eq : some options.sandbox.startupTimeout =
    (lastGiven? .startupTimeout arguments).elim
      (some (((surroundings.value? (utf8 "ROCK_SANDBOX_STARTUP_TIMEOUT_SECONDS")).bind fun text =>
        (Numeral.readInt32 text).toOption).getD 180))
      fun value => (Numeral.readInt32 value).toOption
  level_eq : (loggingOf environment options).level =
    (((lastGiven? .logLevel arguments).filter (· ≠ [])).or
      (surroundings.value? (utf8 "ROCK_LOGGING_LEVEL"))).getD (utf8 "INFO")

/-- What a session does goes by a configuration and a way of logging. -/
structure GoesBy (config : SandboxConfig) (logging : LoggingConfig) (freshKey : Bytes)
    (events : List Event) : Prop where
  /-- Logging is set up first, and not once more. -/
  opens : ∃ answer rest, events = ⟨.openLogging logging, answer⟩ :: rest ∧
    ∀ event ∈ rest, ∀ other, event.action ≠ .openLogging other
  /-- The first call asks for a sandbox of the configuration. -/
  starts : ∀ call ∈ (Event.contacts events).head?,
    call.request = (Sandbox.create config freshKey).scheduleRequest
  /-- All calls go to the address of the configuration. -/
  directed : ∀ call ∈ Event.contacts events, ∃ endpoint,
    call.request.url = config.baseUrl ++ utf8 "/apis/envs/sandbox/v1" ++ utf8 "/" ++ endpoint

variable {patience : Nat} {surroundings : Surroundings} {arguments : List Bytes} {freshKey : Bytes}
  {environment : Environment} {options : Options} {events : List Event} {code? : Option Int}

theorem level_loggingOf (environment : Environment) (options : Options) :
    (loggingOf environment options).level =
      ((some options.logLevel).filter (· ≠ [])).getD (Settings.loggingLevel environment) := by
  rw [loggingOf]
  cases options.logLevel with
  | nil => rfl
  | cons byte rest => rfl

theorem decided_of_read {verdict : Verdict}
    (values : ∀ name, Environment.canName name = true →
      environment.value? name = surroundings.value? name)
    (read : (Options.read arguments { sandbox := Settings.sandboxOf environment }).2 = .ok verdict) :
    Decided surroundings arguments environment
      (Options.read arguments { sandbox := Settings.sandboxOf environment }).1 where
  values := values
  baseUrl_eq := by
    rw [Setting.governs_baseUrl.text_read read, Option.getD_or, ← values _ (by decide)]
    rfl
  startupTimeout_eq := by
    have ambient : (Settings.sandboxOf environment).startupTimeout =
        ((environment.value? Settings.startupTimeoutName).bind fun text =>
          (Numeral.readInt32 text).toOption).getD 180 := by
      rw [Settings.sandboxOf, Environment.valueD]
      cases environment.value? Settings.startupTimeoutName with
      | none => exact Settings.secondsOf_default
      | some text => rfl
    rw [Setting.governs_startupTimeout.field_read read, ambient, values _ (by decide)]
    rfl
  level_eq := by
    rw [level_loggingOf, Setting.governs_logLevel.text_read read, Option.getD_or, ← values _ (by decide)]
    cases lastGiven? .logLevel arguments with
    | none => rfl
    | some level => rfl

theorem goesBy_of_session
    (admitted : (session patience environment options freshKey).Admits events code?) :
    GoesBy options.sandbox (loggingOf environment options) freshKey events := by
  have idle : (Sandbox.create options.sandbox freshKey).state ≠ .alive := by simp [Sandbox.create]
  obtain ⟨own, serving, trimmed⟩ := admits_of_session admitted
  obtain ⟨started?, inner, served, within⟩ := served_of_admits idle rfl serving
  have calls := served.calls idle
  rw [(within.trans trimmed).contacts_eq] at calls
  refine ⟨?_, calls.1, calls.2⟩
  obtain ⟨answer, rest, rfl, follows⟩ := Program.admits_act_iff.mp admitted
  refine ⟨answer, rest, rfl, ?_⟩
  have lasting : ((serve patience options (Sandbox.create options.sandbox freshKey)).bind fun code =>
      .act .closeLogging fun _ => .done code).Confined fun action =>
        ∀ other, action ≠ .openLogging other := by
    refine (confined_serve.mono ?_).bind ?_
    · rintro action during other rfl
      exact during
    · intro code
      refine ⟨?_, fun _ => trivial⟩
      intro other same
      cases same
  intro event member other
  exact lasting.allowed_of_admits follows event member other

/-- Whatever the world answers, a program that is asked to run a command goes by what its arguments decide,
or else its environment, or else the first environment file there is, or else the defaults. -/
theorem program_goes_by_precedence {State : Type} (world : World State) (state : State) (patience : Nat)
    (surroundings : Surroundings) (arguments : List Bytes) (freshKey : Bytes)
    (fresh : surroundings.isSearched = false) (asks : asked arguments = .ok .run) :
    let run := (program patience surroundings arguments freshKey).run world state
    ∃ environment options notes own, Decided surroundings arguments environment options ∧
      run.events = notes ++ own ∧ (∀ note ∈ notes, note.action.isLog = true) ∧
      (session patience environment options freshKey).Admits own run.result? ∧
      GoesBy options.sandbox (loggingOf environment options) freshKey own := by
  intro run
  have admitted := Program.admits_run world (program patience surroundings arguments freshKey) state
  obtain ⟨loaded, remarked, environment_eq⟩ := Dotenv.load_remarks fresh
  obtain ⟨first, rest, events_eq, firstNotes, follows⟩ := remarked.split admitted
  obtain ⟨second, own, rfl, secondNotes, follows⟩ :=
    (Settings.sandbox_remarks loaded.environment).split follows
  have values : ∀ name, Environment.canName name = true →
      loaded.environment.value? name = surroundings.value? name := by
    intro name can
    rw [environment_eq, Dotenv.value?_merged can]
  have verdict_eq := read_verdict_eq_asked arguments (Settings.sandboxOf loaded.environment)
  rw [asks] at verdict_eq
  have decided := decided_of_read values verdict_eq
  cases read_eq : Options.read arguments { sandbox := Settings.sandboxOf loaded.environment } with
  | mk options verdict =>
      rw [read_eq] at verdict_eq decided follows
      obtain rfl : verdict = .ok .run := verdict_eq
      refine ⟨loaded.environment, options, first ++ second, own, decided, ?_, ?_, follows,
        goesBy_of_session follows⟩
      · rw [List.append_assoc]
        exact events_eq
      · exact List.forall_mem_append.mpr ⟨firstNotes, secondNotes⟩

/-- An environment file two directories up, which is assigned an address twice, a level that was taken
back among the arguments, and a startup timeout that is no number. -/
theorem program_goes_by_precedence_rehearsed :
    let content := utf8 "ROCK_BASE_URL=http://a\nexport ROCK_BASE_URL=http://b\nROCK_LOGGING_LEVEL='WARN'"
    let surroundings : Surroundings := {
      environment := [utf8 "HOME=/root", utf8 "ROCK_SANDBOX_STARTUP_TIMEOUT_SECONDS=soon"]
      files := FileTree.withFile (FileTree.withDirectory [] [utf8 "srv", utf8 "app", utf8 "bin"])
        [utf8 "srv", utf8 ".env"] content
      directory := [utf8 "srv", utf8 "app", utf8 "bin"] }
    let arguments := ["--log-level", "TRACE", "--log-level", "", "--", "ls"].map utf8
    let run := (program 1 surroundings arguments (utf8 "k")).run Rehearsal.world ⟨[], 0⟩
    (surroundings.isSearched = false ∧ asked arguments = .ok .run) ∧
      (surroundings.dotenvFile? = some content ∧ lastGiven? .logLevel arguments = some []) ∧
      ∃ environment options notes own, Decided surroundings arguments environment options ∧
        (options.sandbox.baseUrl = utf8 "http://a" ∧ options.sandbox.startupTimeout = 180 ∧
          (loggingOf environment options).level = utf8 "WARN") ∧
        run.events = notes ++ own ∧ (∀ note ∈ notes, note.action.isLog = true) ∧
        (session 1 environment options (utf8 "k")).Admits own run.result? ∧
        GoesBy options.sandbox (loggingOf environment options) (utf8 "k") own := by
  intro content surroundings arguments run
  have asks : asked arguments = .ok .run := by rfl
  obtain ⟨environment, options, notes, own, decided, follows⟩ :=
    program_goes_by_precedence Rehearsal.world ⟨[], 0⟩ 1 surroundings arguments (utf8 "k") rfl asks
  refine ⟨⟨rfl, asks⟩, ⟨by decide +kernel, by decide +kernel⟩, environment, options, notes, own, decided,
    ⟨?_, ?_, ?_⟩, follows⟩
  · exact decided.baseUrl_eq.trans (by decide +kernel)
  · exact Option.some_inj.mp (decided.startupTimeout_eq.trans (by decide +kernel))
  · exact decided.level_eq.trans (by decide +kernel)

end CommandLine

end SandboxClient
