import Mathlib.Data.List.Induction
import SandboxClient.CommandLine.Session

/-!
# Options and the command

Arguments are groups of an option and its value, and then the words of the command.  A value may look like
an option or like a separator, and a word of the command may look like an option; neither is taken for
one.  Of several groups with one flag the last one counts, and the order of groups with different flags
makes no difference.
-/

namespace SandboxClient

namespace CommandLine

/-! ## Groups -/

/-- An option as it stands among the arguments: a switch, or a setting and its value. -/
inductive OptionGroup where
  | switch (chosen : Switch)
  | setting (chosen : Setting) (value : Bytes)
  deriving DecidableEq

/-- A setting takes any text for its value, unless it takes a number. -/
def Setting.Accepts (setting : Setting) (value : Bytes) : Prop :=
  match setting with
  | .cpus => ∃ number, Numeral.readDouble value = .ok number
  | .startupTimeout | .timeout | .waitTimeout | .waitInterval =>
    ∃ number, Numeral.readInt32 value = .ok number
  | .byteLimit => ∃ number, Numeral.readSize value = .ok number
  | _ => True

namespace OptionGroup

def flag : OptionGroup → Bytes
  | .switch chosen => chosen.flag
  | .setting chosen _ => chosen.flag

def words : OptionGroup → List Bytes
  | .switch chosen => [chosen.flag]
  | .setting chosen value => [chosen.flag, value]

def IsReadable : OptionGroup → Prop
  | .switch _ => True
  | .setting chosen value => chosen.Accepts value

def value? (setting : Setting) : OptionGroup → Option Bytes
  | .switch _ => none
  | .setting chosen value => if chosen = setting then some value else none

/-- What is read from the value of the last group of a setting, or the field as it is without one. -/
def lastOr {Value : Type} (setting : Setting) (groups : List OptionGroup) (field : Value)
    (read : Bytes → Value) : Value :=
  (groups.reverse.findSome? (value? setting)).elim field read

/-- The same groups, of which those with one flag stand in the same order. -/
def Rearranged (others groups : List OptionGroup) : Prop :=
  ∀ flag, others.filter (·.flag = flag) = groups.filter (·.flag = flag)

end OptionGroup

open OptionGroup (lastOr Rearranged)

/-- Options with each field as the last group with its flag has it, and otherwise as it was. -/
def Options.withGroups (options : Options) (groups : List OptionGroup) : Options :=
  let integer := fun value => (Numeral.readInt32 value).toOption.getD 0
  { options with
    sandbox := { options.sandbox with
      baseUrl := lastOr .baseUrl groups options.sandbox.baseUrl id
      image := lastOr .image groups options.sandbox.image id
      memory := lastOr .memory groups options.sandbox.memory id
      cpus := lastOr .cpus groups options.sandbox.cpus fun value =>
        (Numeral.readDouble value).toOption.getD (.nan false)
      cluster := lastOr .cluster groups options.sandbox.cluster id
      startupTimeout := lastOr .startupTimeout groups options.sandbox.startupTimeout integer }
    run := { options.run with
      session? := lastOr .session groups options.run.session? some
      timeout := lastOr .timeout groups options.run.timeout integer
      waitTimeout := lastOr .waitTimeout groups options.run.waitTimeout integer
      waitInterval := lastOr .waitInterval groups options.run.waitInterval integer
      byteLimit? := lastOr .byteLimit groups options.run.byteLimit? fun value =>
        (Numeral.readSize value).toOption
      mode := if .switch .detached ∈ groups then .detached else options.run.mode
      ignoreOutput := options.run.ignoreOutput || .switch .ignoreOutput ∈ groups }
    retry := options.retry || .switch .retry ∈ groups
    logLevel := lastOr .logLevel groups options.logLevel id }

/-- A text made of words in turn: a space stands before a word exactly if there is some text before it. -/
inductive IsCommand : List Bytes → Bytes → Prop
  | none : IsCommand [] []
  | first {words : List Bytes} (word : Bytes) (empty : IsCommand words []) :
      IsCommand (words ++ [word]) word
  | next {words : List Bytes} {text : Bytes} (word : Bytes) (before : IsCommand words text)
      (nonempty : text ≠ []) : IsCommand (words ++ [word]) (text ++ utf8 " " ++ word)

/-- The arguments that mean something where an option may stand. -/
def reserved : List Bytes :=
  [utf8 "--", utf8 "-h", utf8 "--help"] ++ Switch.all.map Switch.flag ++ Setting.all.map Setting.flag

variable {groups others : List OptionGroup} {rest : List Bytes} {options : Options}

namespace OptionGroup

variable {Value : Type}

theorem lastOr_switch (setting : Setting) (chosen : Switch) (groups : List OptionGroup) (field : Value)
    (read : Bytes → Value) :
    lastOr setting (.switch chosen :: groups) field read = lastOr setting groups field read := by
  rw [lastOr, List.reverse_cons, List.findSome?_append, List.findSome?_singleton, value?,
    Option.or_none, lastOr]

/-- A group counts only if no later one has the same flag. -/
theorem lastOr_setting (setting chosen : Setting) (value : Bytes) (groups : List OptionGroup)
    (field : Value) (read : Bytes → Value) :
    lastOr setting (.setting chosen value :: groups) field read =
      lastOr setting groups (if chosen = setting then read value else field) read := by
  rw [lastOr, List.reverse_cons, List.findSome?_append, List.findSome?_singleton, value?, lastOr]
  cases groups.reverse.findSome? (value? setting) with
  | some later => rfl
  | none => split <;> rfl

/-- Only the groups with the flag of a setting decide its field. -/
theorem lastOr_filter (setting : Setting) (groups : List OptionGroup) (field : Value)
    (read : Bytes → Value) :
    lastOr setting (groups.filter (·.flag = setting.flag)) field read =
      lastOr setting groups field read := by
  induction groups generalizing field with
  | nil => rfl
  | cons group groups ih =>
      cases group with
      | switch chosen =>
          rw [List.filter_cons, lastOr_switch]
          split
          · rw [lastOr_switch, ih]
          · rw [ih]
      | setting chosen value =>
          rw [List.filter_cons, lastOr_setting]
          split
          next => rw [lastOr_setting, ih]
          next other =>
            have different : chosen ≠ setting := by
              rintro rfl
              exact other (decide_eq_true rfl)
            rw [ih, if_neg different]

/-- Only the flags that occur have to be looked at. -/
theorem rearranged_of_forall_mem (same : ∀ group ∈ others ++ groups,
    others.filter (·.flag = group.flag) = groups.filter (·.flag = group.flag)) :
    Rearranged others groups := by
  intro flag
  by_cases present : ∃ group ∈ others ++ groups, group.flag = flag
  · obtain ⟨group, member, rfl⟩ := present
    exact same group member
  · have absent : ∀ group ∈ others ++ groups, ¬ decide (group.flag = flag) = true :=
      fun group member flagged => present ⟨group, member, of_decide_eq_true flagged⟩
    obtain ⟨inOthers, inGroups⟩ := List.forall_mem_append.mp absent
    rw [List.filter_eq_nil_iff.mpr inOthers, List.filter_eq_nil_iff.mpr inGroups]

namespace Rearranged

variable (same : Rearranged others groups)
include same

theorem mem_iff {group : OptionGroup} : group ∈ others ↔ group ∈ groups := by
  have listed := congrArg (group ∈ ·) (same group.flag)
  simpa using listed

theorem lastOr_eq (setting : Setting) (field : Value) (read : Bytes → Value) :
    lastOr setting others field read = lastOr setting groups field read := by
  rw [← lastOr_filter, same setting.flag, lastOr_filter]

theorem withGroups_eq (options : Options) : options.withGroups others = options.withGroups groups := by
  simp only [Options.withGroups, same.lastOr_eq, same.mem_iff]

end Rearranged

end OptionGroup

/-! ## Reading groups -/

theorem Options.withGroups_nil (options : Options) : options.withGroups [] = options := by
  simp [withGroups, lastOr]

theorem Options.withGroups_switch (options : Options) (switch : Switch) (groups : List OptionGroup) :
    options.withGroups (.switch switch :: groups) = (switch.apply options).withGroups groups := by
  cases switch <;> simp [withGroups, OptionGroup.lastOr_switch, Switch.apply]

theorem Options.exists_withGroups_setting {setting : Setting} {value : Bytes}
    (accepts : setting.Accepts value) (options : Options) (groups : List OptionGroup) :
    ∃ changed, setting.apply value options = .ok changed ∧
      options.withGroups (.setting setting value :: groups) = changed.withGroups groups := by
  cases setting with
  | cpus =>
      obtain ⟨number, read⟩ := accepts
      refine ⟨_, by rw [Setting.apply, numberOf, read]; rfl, ?_⟩
      simp [withGroups, OptionGroup.lastOr_setting, read, Except.toOption]
  | startupTimeout | timeout | waitTimeout | waitInterval =>
      obtain ⟨number, read⟩ := accepts
      refine ⟨_, by rw [Setting.apply, integerOf, numberOf, read]; rfl, ?_⟩
      simp [withGroups, OptionGroup.lastOr_setting, read, Except.toOption]
  | byteLimit =>
      obtain ⟨number, read⟩ := accepts
      refine ⟨_, by rw [Setting.apply, numberOf, read]; rfl, ?_⟩
      simp [withGroups, OptionGroup.lastOr_setting, read, Except.toOption]
  | _ =>
      refine ⟨_, rfl, ?_⟩
      simp [withGroups, OptionGroup.lastOr_setting]

theorem ofArgument_switch (switch : Switch) : Word.ofArgument switch.flag = .switch switch := by
  cases switch <;> rfl

theorem ofArgument_setting (setting : Setting) : Word.ofArgument setting.flag = .setting setting := by
  cases setting <;> rfl

theorem ofArgument_of_not_mem_reserved {argument : Bytes} (free : argument ∉ reserved) :
    Word.ofArgument argument = .other := by
  simp only [reserved, List.mem_append, List.mem_cons, List.mem_map, List.not_mem_nil, not_or,
    not_exists, not_and, or_false] at free
  obtain ⟨⟨⟨separator, short, long⟩, switches⟩, settings⟩ := free
  have noSwitch : Switch.all.find? (·.flag = argument) = none :=
    List.find?_eq_none.mpr fun switch member same => switches switch member (of_decide_eq_true same)
  have noSetting : Setting.all.find? (·.flag = argument) = none :=
    List.find?_eq_none.mpr fun setting member same => settings setting member (of_decide_eq_true same)
  simp [Word.ofArgument, separator, short, long, noSwitch, noSetting]

/-- Whatever follows them, groups are read one by one. -/
theorem read_words (readable : ∀ group ∈ groups, group.IsReadable) (options : Options)
    (tail : List Bytes) :
    Options.read (groups.flatMap OptionGroup.words ++ tail) options =
      Options.read tail (options.withGroups groups) := by
  induction groups generalizing options with
  | nil => rw [Options.withGroups_nil, List.flatMap_nil, List.nil_append]
  | cons group groups ih =>
      obtain ⟨first, later⟩ := List.forall_mem_cons.mp readable
      rw [List.flatMap_cons, List.append_assoc]
      cases group with
      | switch chosen =>
          rw [Options.withGroups_switch, ← ih later, OptionGroup.words, List.singleton_append,
            Options.read, ofArgument_switch]
      | setting chosen value =>
          obtain ⟨changed, applied, changed_eq⟩ :=
            Options.exists_withGroups_setting first options groups
          rw [changed_eq, ← ih later, OptionGroup.words, List.cons_append, List.singleton_append,
            Options.read, ofArgument_setting]
          simp only [applied]

/-! ## The command -/

/-- The words decide the command. -/
theorem isCommand_iff {words : List Bytes} {text : Bytes} :
    IsCommand words text ↔ text = words.foldl appendWord [] := by
  constructor
  · intro command
    induction command with
    | none => rfl
    | first word empty ih =>
        rw [List.foldl_append, ← ih]
        rfl
    | next word before nonempty ih =>
        rw [List.foldl_append, ← ih, List.foldl_cons, List.foldl_nil, appendWord]
        simp [nonempty]
  · rintro rfl
    induction words using List.reverseRecOn with
    | nil => exact .none
    | append_singleton words word ih =>
        rw [List.foldl_append, List.foldl_cons, List.foldl_nil, appendWord]
        split
        next empty =>
          rw [List.isEmpty_iff.mp empty] at ih
          exact .first word ih
        next filled => exact .next word ih fun empty => filled (List.isEmpty_iff.mpr empty)

theorem takeCommand_eq (fresh : options.command = []) :
    takeCommand rest options =
      let command := rest.foldl appendWord []
      ({ options with command }, if command = [] then .noCommand else .run) := by
  simp [takeCommand, fresh]

/-- Words that begin with no option are the command as they are. -/
theorem read_of_not_mem_reserved (free : ∀ word ∈ rest.head?, word ∉ reserved) :
    Options.read rest options = ((takeCommand rest options).1, .ok (takeCommand rest options).2) := by
  cases rest with
  | nil => rfl
  | cons word rest => rw [Options.read, ofArgument_of_not_mem_reserved (free word rfl)]

/-- However groups with different flags are mixed, and whatever stands behind them, the groups set the
fields and the rest is the command.  Without a separator the rest must not begin with an option. -/
theorem read_separates_command (groups : List OptionGroup) (rest : List Bytes) (options : Options)
    (fresh : options.command = []) (readable : ∀ group ∈ groups, group.IsReadable) :
    ∃ command verdict, IsCommand rest command ∧
      (verdict.exitCode? = some 2 ↔ command = []) ∧ (verdict = .run ↔ command ≠ []) ∧
      ∀ others tail, Rearranged others groups →
        (tail = utf8 "--" :: rest ∨ tail = rest ∧ ∀ word ∈ rest.head?, word ∉ reserved) →
        Options.read (others.flatMap OptionGroup.words ++ tail) options =
          ({ options.withGroups groups with command }, .ok verdict) := by
  let command := rest.foldl appendWord []
  refine ⟨command, if command = [] then .noCommand else .run, isCommand_iff.mpr rfl, ?_, ?_, ?_⟩
  · split <;> simp [Verdict.exitCode?, *]
  · split <;> simp [*]
  · intro others tail same ends
    have othersReadable : ∀ group ∈ others, group.IsReadable := fun group member =>
      readable group (same.mem_iff.mp member)
    have fresh : (options.withGroups groups).command = [] := fresh
    rw [read_words othersReadable, same.withGroups_eq]
    rcases ends with rfl | ⟨rfl, free⟩
    · have separates : Word.ofArgument (utf8 "--") = .separator := rfl
      rw [Options.read, separates]
      simp only [takeCommand_eq fresh]
      rfl
    · rw [read_of_not_mem_reserved free, takeCommand_eq fresh]

/-- A setting that is given twice, with a value that looks like the separator between, and a command with
an empty word in front and with words that look like options. -/
theorem read_separates_command_rehearsed :
    let groups : List OptionGroup := [.setting .timeout (utf8 "5"), .setting .image (utf8 "--"),
      .switch .retry, .setting .timeout (utf8 " +7"), .setting .session (utf8 "--nohup")]
    let others : List OptionGroup := [.setting .session (utf8 "--nohup"), .switch .retry,
      .setting .timeout (utf8 "5"), .setting .timeout (utf8 " +7"), .setting .image (utf8 "--")]
    let rest := ["", "ls", "--nohup", "", "-h"].map utf8
    let options : Options := {}
    let words := others.flatMap OptionGroup.words
    (options.command = [] ∧ (∀ group ∈ groups, group.IsReadable) ∧ Rearranged others groups ∧
        ∀ word ∈ rest.head?, word ∉ reserved) ∧
      ((options.withGroups groups).run.timeout = 7 ∧
        (options.withGroups groups).run.mode = .normal ∧
        (options.withGroups groups).sandbox.image = utf8 "--") ∧
      ∃ command verdict, IsCommand rest command ∧ command = utf8 "ls --nohup  -h" ∧ verdict = .run ∧
        Options.read (words ++ utf8 "--" :: rest) options =
          ({ options.withGroups groups with command }, .ok verdict) ∧
        Options.read (words ++ rest) options =
          ({ options.withGroups groups with command }, .ok verdict) := by
  intro groups others rest options words
  have readable : ∀ group ∈ groups, group.IsReadable := by
    have five : Numeral.readInt32 (utf8 "5") = .ok 5 := by decide +kernel
    have seven : Numeral.readInt32 (utf8 " +7") = .ok 7 := by decide +kernel
    simp only [groups, List.forall_mem_cons]
    exact ⟨⟨5, five⟩, trivial, trivial, ⟨7, seven⟩, trivial, by simp⟩
  have same : Rearranged others groups := OptionGroup.rearranged_of_forall_mem (by decide)
  have free : ∀ word ∈ rest.head?, word ∉ reserved := by decide
  obtain ⟨command, verdict, isCommand, _, runs, reads⟩ :=
    read_separates_command groups rest options rfl readable
  have command_eq : command = utf8 "ls --nohup  -h" := by
    rw [isCommand_iff.mp isCommand]
    decide +kernel
  have verdict_eq : verdict = .run := by
    rw [runs, command_eq]
    decide
  exact ⟨⟨rfl, readable, same, free⟩, by decide +kernel, command, verdict, isCommand, command_eq, verdict_eq,
    reads others _ same (.inl rfl), reads others _ same (.inr ⟨rfl, free⟩)⟩

end CommandLine

end SandboxClient
