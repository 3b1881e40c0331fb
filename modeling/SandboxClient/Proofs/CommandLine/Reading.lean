import SandboxClient.CommandLine.Options

/-!
# What the arguments ask for

Whether the arguments can be read, and whether they ask for help or for a command, is a matter of the
arguments alone.  The settings that they start from, which the environment decides, only matter for how
a command is run.
-/

namespace SandboxClient

namespace CommandLine

/-- What the arguments ask for, whatever the environment. -/
def asked (arguments : List Bytes) : Except Error Verdict :=
  (Options.read arguments {}).2

variable {options other : Options}

theorem numberOf_eq_ok_iff {Number : Type} {kind : NumeralKind} {read : Bytes → Except NumeralFault Number}
    {text : Bytes} {number : Number} : numberOf kind read text = .ok number ↔ read text = .ok number := by
  rw [numberOf]
  cases read text with
  | ok found => simp
  | error fault => simp

theorem Switch.command_eq (switch : Switch) (options : Options) :
    (switch.apply options).command = options.command := by
  cases switch <;> rfl

/-- A setting that is read changes no command, and whether it can be read depends on its value only. -/
theorem Setting.apply_cases (setting : Setting) (value : Bytes) :
    (∃ error, ∀ options, setting.apply value options = .error error) ∨
      ∃ change : Options → Options, ∀ options, setting.apply value options = .ok (change options) ∧
        (change options).command = options.command := by
  have number : ∀ {Number : Type} (read : Except Error Number) (change : Number → Options → Options),
      (∀ options, setting.apply value options = read.bind fun number => .ok (change number options)) →
      (∀ number options, (change number options).command = options.command) →
      (∃ error, ∀ options, setting.apply value options = .error error) ∨
        ∃ change : Options → Options, ∀ options, setting.apply value options = .ok (change options) ∧
          (change options).command = options.command := by
    intro Number read change applied kept
    cases read with
    | error error => exact .inl ⟨error, applied⟩
    | ok number => exact .inr ⟨change number, fun options => ⟨applied options, kept number options⟩⟩
  cases setting with
  | cpus => exact number (numberOf .real Numeral.readDouble value) _ (fun _ => rfl) fun _ _ => rfl
  | startupTimeout => exact number (integerOf value) _ (fun _ => rfl) fun _ _ => rfl
  | timeout => exact number (integerOf value) _ (fun _ => rfl) fun _ _ => rfl
  | waitTimeout => exact number (integerOf value) _ (fun _ => rfl) fun _ _ => rfl
  | waitInterval => exact number (integerOf value) _ (fun _ => rfl) fun _ _ => rfl
  | byteLimit => exact number (numberOf .size Numeral.readSize value) _ (fun _ => rfl) fun _ _ => rfl
  | _ => exact .inr ⟨_, fun options => ⟨rfl, rfl⟩⟩

theorem takeCommand_verdict (words : List Bytes) (same : options.command = other.command) :
    (takeCommand words options).2 = (takeCommand words other).2 := by
  simp [takeCommand, same]

/-- The settings that the arguments start from do not decide what they ask for. -/
theorem read_verdict (arguments : List Bytes) (same : options.command = other.command) :
    (Options.read arguments options).2 = (Options.read arguments other).2 := by
  induction arguments, options using Options.read.induct generalizing other with
  | case1 options =>
      simp only [Options.read, takeCommand_verdict [] same]
  | case2 argument rest options separates =>
      simp only [Options.read, separates, takeCommand_verdict rest same]
  | case3 argument rest options helps => simp only [Options.read, helps]
  | case4 argument rest options switch switches ih =>
      simp only [Options.read, switches]
      exact ih (by rw [switch.command_eq, switch.command_eq, same])
  | case5 argument options setting sets => simp only [Options.read, sets]
  | case6 argument options setting sets value others error fails =>
      rcases setting.apply_cases value with ⟨fault, refuses⟩ | ⟨change, changes⟩
      · simp only [Options.read, sets, refuses]
      · rw [(changes options).1] at fails
        cases fails
  | case7 argument options setting sets value others changed applied ih =>
      rcases setting.apply_cases value with ⟨fault, refuses⟩ | ⟨change, changes⟩
      · rw [refuses] at applied
        cases applied
      · obtain ⟨applies, kept⟩ := changes options
        obtain ⟨applies', kept'⟩ := changes other
        rw [applies] at applied
        cases applied
        simp only [Options.read, sets, applies, applies']
        exact ih (by rw [kept, kept', same])
  | case8 argument rest options others =>
      simp only [Options.read, others, takeCommand_verdict (argument :: rest) same]

theorem read_verdict_eq_asked (arguments : List Bytes) (config : SandboxConfig) :
    (Options.read arguments { sandbox := config }).2 = asked arguments :=
  read_verdict arguments rfl

end CommandLine

end SandboxClient
