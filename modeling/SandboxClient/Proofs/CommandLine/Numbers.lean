import SandboxClient.Proofs.CommandLine.Given
import SandboxClient.Proofs.CommandLine.Separation
import SandboxClient.Proofs.CommandLine.Session
import SandboxClient.Proofs.Decimal.Numeral
import SandboxClient.Proofs.Program.Rehearsal

/-!
# Integers among the arguments

A setting that takes an integer takes the one that its text begins with.  A text that begins with none is
refused before anything is done, but one that goes on behind the digits is not, and a negative limit of
bytes is taken for what it is short of `2 ^ 64`.
-/

namespace SandboxClient

open Numeral (Begins IsNumeral)

namespace CommandLine

namespace Setting

def integral : List Setting :=
  [.startupTimeout, .timeout, .waitTimeout, .waitInterval, .byteLimit]

/-- The integer that the options have for a setting. -/
def integer? (setting : Setting) (options : Options) : Option Int :=
  match setting with
  | .startupTimeout => some options.sandbox.startupTimeout
  | .timeout => some options.run.timeout
  | .waitTimeout => some options.run.waitTimeout
  | .waitInterval => some options.run.waitInterval
  | .byteLimit => options.run.byteLimit?.map Int.ofNat
  | _ => none

/-- The integers that there is room for. -/
def Holds (setting : Setting) (value : Int) : Prop :=
  if setting = .byteLimit then -2 ^ 64 < value ∧ value < 2 ^ 64 else -2 ^ 31 ≤ value ∧ value < 2 ^ 31

/-- What a setting makes of an integer in a text. -/
def taken (setting : Setting) (value : Int) : Int :=
  if setting = .byteLimit ∧ value < 0 then 2 ^ 64 + value else value

def readInteger? (setting : Setting) (text : Bytes) : Option Int :=
  if setting = .byteLimit then (Numeral.readSize text).toOption.map Int.ofNat
  else (Numeral.readInt32 text).toOption

variable {setting : Setting} {text : Bytes} {options changed : Options}

/-! ## What is read -/

theorem isSome_readInteger? (integral : setting ∈ Setting.integral) (accepts : setting.Accepts text) :
    (setting.readInteger? text).isSome := by
  cases setting with
  | startupTimeout | timeout | waitTimeout | waitInterval | byteLimit =>
      obtain ⟨number, read⟩ := accepts
      simp [readInteger?, read, Except.toOption]
  | _ => exact absurd integral (by decide)

theorem begins_of_readInteger? {value : Int} (read : setting.readInteger? text = some value) :
    ∃ negative digits rest, Begins text negative digits rest ∧
      setting.Holds (Binary64.signed negative (Text.denoted digits)) ∧
      value = setting.taken (Binary64.signed negative (Text.denoted digits)) := by
  rw [readInteger?] at read
  split at read
  next limits =>
    cases read_eq : Numeral.readSize text with
    | error fault => simp [read_eq, Except.toOption] at read
    | ok size =>
        obtain rfl : Int.ofNat size = value := by simpa [read_eq, Except.toOption] using read
        obtain ⟨negative, digits, rest, begins, small, size_eq⟩ := Numeral.readSize_eq_ok_iff.mp read_eq
        refine ⟨negative, digits, rest, begins, ?_⟩
        simp only [Holds, taken, limits, true_and, if_true, Int.ofNat_eq_natCast, size_eq]
        cases negative with
        | true =>
            simp only [Binary64.signed, if_true]
            omega
        | false =>
            simp only [Binary64.signed, Bool.false_eq_true, if_false]
            omega
  next other =>
    cases read_eq : Numeral.readInt32 text with
    | error fault => simp [read_eq, Except.toOption] at read
    | ok number =>
        obtain rfl : number = value := by simpa [read_eq, Except.toOption] using read
        obtain ⟨negative, digits, rest, begins, rfl, bounds⟩ := Numeral.readInt32_eq_ok_iff.mp read_eq
        refine ⟨negative, digits, rest, begins, ?_, ?_⟩
        · rw [Holds, if_neg other]
          exact bounds
        · rw [taken, if_neg fun limits => other limits.1]

/-! ## Where it is kept -/

theorem integer?_of_other {other : Setting} (different : other ≠ setting)
    (applied : other.apply text options = .ok changed) :
    setting.integer? changed = setting.integer? options := by
  cases other with
  | cpus | startupTimeout | timeout | waitTimeout | waitInterval | byteLimit =>
      obtain ⟨number, _, set⟩ := Except.exists_of_bind_eq_ok applied
      cases set
      cases setting <;> first | rfl | exact absurd rfl different
  | _ =>
      cases applied
      cases setting <;> rfl

theorem readInteger?_eq_integer? (integral : setting ∈ Setting.integral)
    (applied : setting.apply text options = .ok changed) :
    setting.readInteger? text = setting.integer? changed := by
  cases setting with
  | startupTimeout | timeout | waitTimeout | waitInterval | byteLimit =>
      obtain ⟨number, read, set⟩ := Except.exists_of_bind_eq_ok applied
      cases set
      simp [readInteger?, numberOf_eq_ok_iff.mp read, Except.toOption, integer?]
  | _ => exact absurd integral (by decide)

theorem governs_integer? (integral : setting ∈ Setting.integral) :
    setting.Governs setting.integer? fun text => some (setting.readInteger? text) where
  of_switch switch options := by cases switch <;> cases setting <;> rfl
  of_command _ _ := by cases setting <;> rfl
  of_other := integer?_of_other
  of_self applied := congrArg some (readInteger?_eq_integer? integral applied)

theorem accepts_of_apply (applied : setting.apply text options = .ok changed) : setting.Accepts text := by
  cases setting with
  | cpus | startupTimeout | timeout | waitTimeout | waitInterval | byteLimit =>
      obtain ⟨number, read, _⟩ := Except.exists_of_bind_eq_ok applied
      exact ⟨number, numberOf_eq_ok_iff.mp read⟩
  | _ => trivial

end Setting

variable {options : Options} {arguments : List Bytes} {verdict : Verdict}

/-- Arguments are read only if every setting among them takes its value. -/
theorem accepts_of_read (read : (Options.read arguments options).2 = .ok verdict) :
    ∀ pair ∈ given arguments, pair.1.Accepts pair.2 := by
  induction arguments, options using Options.read.induct with
  | case1 options =>
      rintro pair ⟨⟩
  | case2 argument rest options separates =>
      rw [given, separates]
      rintro pair ⟨⟩
  | case3 argument rest options helps =>
      rw [given, helps]
      rintro pair ⟨⟩
  | case4 argument rest options switch switches ih =>
      rw [Options.read, switches] at read
      rw [given, switches]
      exact ih read
  | case5 argument options found sets =>
      rw [given, sets]
      rintro pair ⟨⟩
  | case6 argument options found sets value others error fails =>
      simp only [Options.read, sets, fails] at read
      cases read
  | case7 argument options found sets value others changed applied ih =>
      simp only [Options.read, sets, applied] at read
      simp only [given, sets, List.forall_mem_cons]
      exact ⟨Setting.accepts_of_apply applied, ih read⟩
  | case8 argument rest options others =>
      rw [given, others]
      rintro pair ⟨⟩

/-- Unless the arguments are refused before any call, each text among them that stands for an integer begins
with one that there is room for, and the last text of a setting decides it.  A text that is a numeral denotes
that integer.  What follows the digits of any other is passed over, and a limit of bytes that is negative
becomes another one. -/
theorem program_reads_leading_integers {State : Type} (world : World State) (state : State)
    (patience : Nat) (surroundings : Surroundings) (arguments : List Bytes) (freshKey : Bytes)
    {setting : Setting} {text : Bytes} (integral : setting ∈ Setting.integral)
    (gives : (setting, text) ∈ given arguments) :
    let run := (program patience surroundings arguments freshKey).run world state
    run.result? = some 2 ∧ Event.contacts run.events = [] ∨
      ∃ negative digits rest, Begins text negative digits rest ∧
        let value := Binary64.signed negative (Text.denoted digits)
        setting.Holds value ∧ (∀ whole, IsNumeral text whole → whole = value) ∧
          ∀ config, ∃ options verdict,
            Options.read arguments { sandbox := config } = (options, .ok verdict) ∧
            (lastGiven? setting arguments = some text →
              setting.integer? options = some (setting.taken value)) := by
  intro run
  have admitted := Program.admits_run world (program patience surroundings arguments freshKey) state
  rcases (account_of_admits admitted).refused_or_asked with refused | ⟨verdict, asks⟩
  · exact .inl refused
  · right
    have accepts : setting.Accepts text := accepts_of_read asks (setting, text) gives
    obtain ⟨value, read⟩ := Option.isSome_iff_exists.mp (Setting.isSome_readInteger? integral accepts)
    obtain ⟨negative, digits, rest, begins, holds, value_eq⟩ := Setting.begins_of_readInteger? read
    refine ⟨negative, digits, rest, begins, holds, fun _ numeral => numeral.eq_of_begins begins,
      fun config => ?_⟩
    have verdict_eq : (Options.read arguments { sandbox := config }).2 = .ok verdict :=
      (read_verdict_eq_asked arguments config).trans asks
    refine ⟨_, verdict, Prod.ext rfl verdict_eq, fun last => ?_⟩
    have field := (Setting.governs_integer? integral).field_read verdict_eq
    rw [last, Option.elim_some, read, value_eq] at field
    exact Option.some_inj.mp field

/-- A timeout that is given twice, the second time with blanks and a plus sign in front. -/
theorem program_reads_leading_integers_rehearsed :
    let arguments := ["--timeout", "5", "--timeout", " \t+070", "--", "ls"].map utf8
    let run := (program 1 {} arguments (utf8 "k")).run Rehearsal.world ⟨[], 0⟩
    (.timeout ∈ Setting.integral ∧ (.timeout, utf8 " \t+070") ∈ given arguments) ∧
      run.result? = some 1 ∧
      ∃ negative digits rest, Begins (utf8 " \t+070") negative digits rest ∧
        let value := Binary64.signed negative (Text.denoted digits)
        value = 70 ∧ Setting.timeout.Holds value ∧ ∀ config, ∃ options verdict,
          Options.read arguments { sandbox := config } = (options, .ok verdict) ∧
          Setting.timeout.integer? options = some (Setting.timeout.taken value) := by
  intro arguments run
  have integral : Setting.timeout ∈ Setting.integral := by decide
  have gives : (Setting.timeout, utf8 " \t+070") ∈ given arguments := by decide +kernel
  have served : run.result? = some 1 := by decide +kernel
  refine ⟨⟨integral, gives⟩, served, ?_⟩
  rcases program_reads_leading_integers Rehearsal.world ⟨[], 0⟩ 1 {} arguments (utf8 "k") integral gives with
    ⟨refused, _⟩ | ⟨negative, digits, rest, begins, holds, _, reads⟩
  · rw [served] at refused
    cases refused
  · have found := begins.leadingInteger?_eq.symm.trans (by decide +kernel :
      Numeral.leadingInteger? (utf8 " \t+070") = some (false, utf8 "070"))
    cases found
    refine ⟨false, _, rest, begins, ?_, holds, fun config => ?_⟩
    · rw [← Text.numeralValue_eq_denoted]
      decide
    · obtain ⟨options, verdict, read, last⟩ := reads config
      exact ⟨options, verdict, read, last (by decide +kernel)⟩

/-- Neither a timeout with a unit nor a negative limit is refused: the unit is passed over, and the limit is
almost as large as can be. -/
theorem program_takes_other_numbers :
    let arguments := ["--timeout", "5s", "--limit-bytes", "-1", "--", "ls"].map utf8
    let run := (program 1 {} arguments (utf8 "k")).run Rehearsal.world ⟨[], 0⟩
    let options := (Options.read arguments {}).1
    run.result? = some 1 ∧ Event.contacts run.events ≠ [] ∧
      (options.run.timeout = 5 ∧ ∀ value, ¬ IsNumeral (utf8 "5s") value) ∧
      options.run.byteLimit? = some (2 ^ 64 - 1) ∧ IsNumeral (utf8 "-1") (-1) := by
  intro arguments run options
  have negative : Begins (utf8 "-1") true (utf8 "1") [] :=
    ⟨⟨[], utf8 "-", by simp, .head _, rfl⟩, by decide +kernel, by decide +kernel, by simp⟩
  refine ⟨by decide +kernel, by decide +kernel, ⟨by decide +kernel, fun value numeral => ?_⟩,
    by decide +kernel, true, utf8 "1", negative, ?_⟩
  · exact absurd (numeral.isDigit_of_getLast? 115 rfl) (by decide)
  · rw [← Text.numeralValue_eq_denoted]
    decide

end CommandLine

end SandboxClient
