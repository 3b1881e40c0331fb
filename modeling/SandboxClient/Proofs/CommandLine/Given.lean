import SandboxClient.Proofs.CommandLine.Reading
import SandboxClient.Proofs.Program.Behaviour

/-!
# Settings that are given

An argument list gives some settings their values.  A field of the options that one setting governs has
the value that the setting was given last, and is left as it was if the setting is not given.
-/

namespace SandboxClient

namespace CommandLine

/-- The settings that the arguments give, with their values in order. -/
def given : (arguments : List Bytes) → List (Setting × Bytes)
  | [] => []
  | argument :: rest =>
    match Word.ofArgument argument with
    | .switch _ => given rest
    | .setting setting =>
      match rest with
      | [] => []
      | value :: others => (setting, value) :: given others
    | _ => []

def lastGiven? (setting : Setting) (arguments : List Bytes) : Option Bytes :=
  ((given arguments).filter fun pair => pair.1 = setting).getLast?.map Prod.snd

/-- A field of the options is set by one setting, to what is read from the value, and by nothing else. -/
structure Setting.Governs {Value : Type} (setting : Setting) (field : Options → Value)
    (reads : Bytes → Option Value) : Prop where
  of_switch : ∀ (switch : Switch) (options : Options), field (switch.apply options) = field options
  of_command : ∀ (command : Bytes) (options : Options), field { options with command } = field options
  of_other : ∀ {other : Setting} {value : Bytes} {options changed : Options}, other ≠ setting →
    other.apply value options = .ok changed → field changed = field options
  of_self : ∀ {value : Bytes} {options changed : Options}, setting.apply value options = .ok changed →
    reads value = some (field changed)

variable {options : Options}

theorem lastGiven?_of_setting {argument value : Bytes} {others : List Bytes} {found : Setting}
    (sets : Word.ofArgument argument = .setting found) (setting : Setting) :
    lastGiven? setting (argument :: value :: others) =
      (lastGiven? setting others).or (if found = setting then some value else none) := by
  have given_eq : given (argument :: value :: others) = (found, value) :: given others := by
    rw [given, sets]
  rw [lastGiven?, lastGiven?, given_eq, List.filter_cons]
  by_cases same : found = setting
  · cases rest_eq : (given others).filter fun pair => pair.1 = setting <;>
      simp [same, List.getLast?_cons]
  · simp [same]

theorem lastGiven?_of_switch {argument : Bytes} {rest : List Bytes} {switch : Switch}
    (switches : Word.ofArgument argument = .switch switch) (setting : Setting) :
    lastGiven? setting (argument :: rest) = lastGiven? setting rest := by
  have given_eq : given (argument :: rest) = given rest := by rw [given, switches]
  rw [lastGiven?, lastGiven?, given_eq]

/-- What arguments that can be read make of a field: the value given last, and otherwise nothing. -/
theorem Setting.Governs.field_read {Value : Type} {setting : Setting} {field : Options → Value}
    {reads : Bytes → Option Value} (governs : setting.Governs field reads) {arguments : List Bytes}
    {verdict : Verdict} (read : (Options.read arguments options).2 = .ok verdict) :
    some (field (Options.read arguments options).1) =
      (lastGiven? setting arguments).elim (some (field options)) reads := by
  have taken : ∀ (words : List Bytes) (options : Options),
      field (takeCommand words options).1 = field options := fun words options =>
    governs.of_command _ options
  have unset : ∀ {arguments : List Bytes}, given arguments = [] →
      lastGiven? setting arguments = none := by
    intro arguments none_eq
    rw [lastGiven?, none_eq]
    rfl
  induction arguments, options using Options.read.induct with
  | case1 options =>
      rw [unset rfl, Options.read, taken]
      rfl
  | case2 argument rest options separates =>
      rw [unset (by rw [given, separates]), Options.read, separates]
      exact congrArg some (taken rest options)
  | case3 argument rest options helps =>
      rw [unset (by rw [given, helps]), Options.read, helps]
      rfl
  | case4 argument rest options switch switches ih =>
      rw [Options.read, switches] at read ⊢
      rw [lastGiven?_of_switch switches]
      exact (ih read).trans (by rw [governs.of_switch])
  | case5 argument options found sets =>
      rw [Options.read, sets] at read
      cases read
  | case6 argument options found sets value others error fails =>
      simp only [Options.read, sets, fails] at read
      cases read
  | case7 argument options found sets value others changed applied ih =>
      simp only [Options.read, sets, applied] at read ⊢
      rw [ih read, lastGiven?_of_setting sets]
      cases lastGiven? setting others with
      | some later => rfl
      | none =>
          by_cases same : found = setting
          · subst same
            simpa using (governs.of_self applied).symm
          · simpa [same] using governs.of_other same applied
  | case8 argument rest options others =>
      rw [unset (by rw [given, others]), Options.read, others]
      exact congrArg some (taken (argument :: rest) options)

/-- A field that takes the value as it is. -/
theorem Setting.Governs.text_read {setting : Setting} {field : Options → Bytes}
    (governs : setting.Governs field some) {arguments : List Bytes} {verdict : Verdict}
    (read : (Options.read arguments options).2 = .ok verdict) :
    field (Options.read arguments options).1 = (lastGiven? setting arguments).getD (field options) := by
  apply Option.some_inj.mp
  rw [governs.field_read read]
  cases lastGiven? setting arguments with
  | none => rfl
  | some value => rfl

/-! ## What settings govern -/

theorem Setting.kept_of_apply {setting : Setting} {value : Bytes} {changed : Options}
    (applied : setting.apply value options = .ok changed) :
    (setting ≠ .baseUrl → changed.sandbox.baseUrl = options.sandbox.baseUrl) ∧
      (setting ≠ .startupTimeout → changed.sandbox.startupTimeout = options.sandbox.startupTimeout) ∧
      (setting ≠ .logLevel → changed.logLevel = options.logLevel) := by
  cases setting with
  | cpus | startupTimeout | timeout | waitTimeout | waitInterval | byteLimit =>
      obtain ⟨number, _, set⟩ := Except.exists_of_bind_eq_ok applied
      cases set
      simp
  | _ =>
      cases applied
      simp

theorem Setting.governs_baseUrl : Setting.baseUrl.Governs (·.sandbox.baseUrl) some where
  of_switch switch options := by cases switch <;> rfl
  of_command _ _ := rfl
  of_other different applied := (kept_of_apply applied).1 different
  of_self applied := by
    cases applied
    rfl

theorem Setting.governs_startupTimeout : Setting.startupTimeout.Governs (·.sandbox.startupTimeout)
    fun value => (Numeral.readInt32 value).toOption where
  of_switch switch options := by cases switch <;> rfl
  of_command _ _ := rfl
  of_other different applied := (kept_of_apply applied).2.1 different
  of_self := by
    intro value options changed applied
    obtain ⟨seconds, read, set⟩ := Except.exists_of_bind_eq_ok applied
    cases set
    rw [numberOf_eq_ok_iff.mp read]
    rfl

theorem Setting.governs_logLevel : Setting.logLevel.Governs (·.logLevel) some where
  of_switch switch options := by cases switch <;> rfl
  of_command _ _ := rfl
  of_other different applied := (kept_of_apply applied).2.2 different
  of_self applied := by
    cases applied
    rfl

end CommandLine

end SandboxClient
