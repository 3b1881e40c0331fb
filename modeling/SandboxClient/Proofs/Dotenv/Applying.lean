import Mathlib.Data.List.Find
import SandboxClient.Proofs.Dotenv.Line
import SandboxClient.Proofs.Dotenv.Merging

/-!
# Applying an environment file

A file overrides nothing: what is set stays as it is, and of several lines that assign one variable the
first one counts.  So a file that is applied once more, or one that assigns no other variables, finds
nothing left to do.
-/

namespace SandboxClient

namespace Environment

/-- A name that a variable can have in full: it is not empty and has neither an equals sign nor a zero
byte. -/
structure IsName (name : Bytes) : Prop where
  nonempty : name ≠ []
  undivided : 61 ∉ name
  unended : 0 ∉ name

variable {name value : Bytes} {environment : Environment}

theorem upToNul_eq_self {text : Bytes} (unended : 0 ∉ text) : Text.upToNul text = text := by
  rw [Text.upToNul, List.takeWhile_eq_self_iff]
  intro byte member
  exact bne_iff_ne.mpr fun zero => unended (zero ▸ member)

theorem IsName.canName (proper : IsName name) : canName name = true := by
  simp [Environment.canName, upToNul_eq_self proper.unended, proper.nonempty, proper.undivided]

theorem isSet_eq_false_iff : environment.isSet name = false ↔ environment.value? name = none := by
  rw [isSet, Option.isSome_eq_false_iff, Option.isNone_iff_eq_none]

/-- An entry that is added behind the others hides none of them. -/
theorem value?_append (set : environment.value? name = some value) (added : Environment) :
    value? (environment ++ added) name = some value := by
  rw [value?] at set ⊢
  split at set
  next => cases set
  next named => rw [if_neg named, List.findSome?_append, set, Option.some_or]

theorem define_of_isSet (set : environment.isSet name = true) (value : Bytes) :
    environment.define name value = (environment, false) := by
  rw [define, set, Bool.not_true, Bool.and_false, if_neg Bool.false_ne_true]

theorem define_of_not_isSet (can : Environment.canName name = true)
    (unset : environment.isSet name = false) (value : Bytes) :
    environment.define name value = (environment ++ [entry name value], true) := by
  rw [define, can, unset, Bool.not_false, Bool.and_true, if_pos rfl]

end Environment

namespace Dotenv

open Environment (IsName)

/-! ## Parts of a line -/

theorem unquote_sublist (text : Bytes) : (unquote text).Sublist text := by
  cases text with
  | nil => exact List.Sublist.refl _
  | cons quote rest =>
      rw [unquote]
      split
      · exact (List.dropLast_sublist rest).cons quote
      · exact List.Sublist.refl _

theorem dropExport_sublist (line : Bytes) : (dropExport line).Sublist line := by
  rw [dropExport]
  split
  next rest marked =>
    rw [Text.dropPrefix?_eq_some_iff.mp marked]
    exact (Text.trim_sublist rest).trans (List.sublist_append_right _ _)
  next => exact List.Sublist.refl line

theorem parseLine_sublist {line : Bytes} {assignment : Assignment}
    (read : parseLine line = some assignment) :
    assignment.name.Sublist line ∧ assignment.value.Sublist line := by
  rw [parseLine] at read
  simp only at read
  split at read
  next => cases read
  split at read
  next => cases read
  next left right divided =>
    split at read
    next => cases read
    next =>
      cases read
      have parts := (dropExport_sublist (Text.trim line)).trans (Text.trim_sublist line)
      rw [(split?_eq_some_iff.mp divided).1] at parts
      have value := (unquote_sublist (Text.trim right)).trans (Text.trim_sublist right)
      constructor
      · exact (Text.trim_sublist left).trans ((List.sublist_append_left _ _).trans parts)
      · exact value.trans ((List.sublist_cons_self 61 right).trans
          ((List.sublist_append_right left _).trans parts))

/-! ## Assignments in turn -/

variable {environment : Environment} {assignments : List Assignment}

theorem exists_added_define (assignments : List Assignment) (environment : Environment) :
    ∃ added, (define assignments environment).1 = environment ++ added := by
  induction assignments generalizing environment with
  | nil => exact ⟨[], (List.append_nil environment).symm⟩
  | cons assignment rest ih =>
      have first : ∃ added, (environment.define assignment.name assignment.value).1 =
          environment ++ added := by
        rw [Environment.define]
        split
        · exact ⟨_, rfl⟩
        · exact ⟨[], (List.append_nil environment).symm⟩
      obtain ⟨one, first⟩ := first
      obtain ⟨others, later⟩ := ih (environment.define assignment.name assignment.value).1
      refine ⟨one ++ others, ?_⟩
      rw [← List.append_assoc, ← first]
      exact later

/-- Assignments to variables that are all set do nothing. -/
theorem define_of_isSet (set : ∀ assignment ∈ assignments, environment.isSet assignment.name = true) :
    define assignments environment = (environment, 0) := by
  induction assignments with
  | nil => rfl
  | cons assignment rest ih =>
      obtain ⟨first, later⟩ := List.forall_mem_cons.mp set
      simp [define, Environment.define_of_isSet first, ih later]

/-- What is counted are the names that were assigned and were not set. -/
theorem exists_names_define (proper : ∀ assignment ∈ assignments, IsName assignment.name)
    (environment : Environment) : ∃ names : List Bytes, names.Nodup ∧
      names.length = (define assignments environment).2 ∧
      ∀ name, name ∈ names ↔
        (∃ assignment ∈ assignments, assignment.name = name) ∧ environment.value? name = none := by
  induction assignments generalizing environment with
  | nil => exact ⟨[], List.nodup_nil, rfl, by simp⟩
  | cons assignment rest ih =>
      obtain ⟨named, others⟩ := List.forall_mem_cons.mp proper
      cases set : environment.isSet assignment.name with
      | true =>
          obtain ⟨names, distinct, counted, listed⟩ := ih others environment
          have known : environment.value? assignment.name ≠ none := Option.isSome_iff_ne_none.mp set
          refine ⟨names, distinct, ?_, fun name => ?_⟩
          · simp [define, Environment.define_of_isSet set, counted]
          · rw [listed, List.exists_mem_cons_iff]
            constructor
            · rintro ⟨later, unset⟩
              exact ⟨.inr later, unset⟩
            · rintro ⟨rfl | later, unset⟩
              · exact absurd unset known
              · exact ⟨later, unset⟩
      | false =>
          have unset := Environment.isSet_eq_false_iff.mp set
          have defined := Environment.define_of_not_isSet named.canName set assignment.value
          let extended := environment ++ [Environment.entry assignment.name assignment.value]
          have extended_eq : (environment.define assignment.name assignment.value).1 = extended := by
            rw [defined]
          obtain ⟨names, distinct, counted, listed⟩ := ih others extended
          have values : ∀ name, IsName name → (extended.value? name = none ↔
              environment.value? name = none ∧ assignment.name ≠ name) := by
            intro name proper
            rw [← extended_eq, Environment.value?_define proper.canName,
              Environment.upToNul_eq_self named.unended, Environment.upToNul_eq_self proper.unended]
            simp
          have absent : assignment.name ∉ names := fun member =>
            ((values _ named).mp ((listed _).mp member).2).2 rfl
          refine ⟨assignment.name :: names, List.nodup_cons.mpr ⟨absent, distinct⟩, ?_, fun name => ?_⟩
          · simp only [define, defined, List.length_cons, counted]
            rfl
          · rw [List.mem_cons, List.exists_mem_cons_iff, listed]
            constructor
            · rintro (rfl | ⟨⟨later, member, rfl⟩, free⟩)
              · exact ⟨.inl rfl, unset⟩
              · exact ⟨.inr ⟨later, member, rfl⟩, ((values _ (others later member)).mp free).1⟩
            · rintro ⟨rfl | ⟨later, member, rfl⟩, free⟩
              · exact .inl rfl
              · by_cases same : assignment.name = later.name
                · exact .inl same.symm
                · exact .inr ⟨⟨later, member, rfl⟩, (values _ (others later member)).mpr ⟨free, same⟩⟩

/-! ## Files -/

/-- A line of a file assigns a variable. -/
def Assigns (content name : Bytes) : Prop :=
  ∃ line ∈ Text.lines content, ∃ value, parseLine line = some { name, value }

/-- The first line of a file that assigns a variable gives it a value. -/
def FirstAssigns (content name value : Bytes) : Prop :=
  ∃ earlier line later, Text.lines content = earlier ++ line :: later ∧
    parseLine line = some { name, value } ∧
    ∀ before ∈ earlier, ∀ assignment, parseLine before = some assignment → assignment.name ≠ name

/-- What a file makes of an environment, and how many variables it is said to set. -/
structure Merges (content : Bytes) (before after : Environment) (count : Nat) : Prop where
  kept : ∀ name value, before.value? name = some value → after.value? name = some value
  filled : ∀ name, before.value? name = none → Assigns content name →
    ∃ value, FirstAssigns content name value ∧ after.value? name = some value
  unassigned : ∀ name, IsName name → ¬ Assigns content name → after.value? name = before.value? name
  /-- The variables that are set now and were not before are counted once each. -/
  counted : ∃ names : List Bytes, names.Nodup ∧ names.length = count ∧ ∀ name, name ∈ names ↔
    IsName name ∧ before.value? name = none ∧ after.value? name ≠ none

variable {content name value : Bytes}

theorem exists_mem_assignments_iff :
    (∃ assignment ∈ Dotenv.assignments content, assignment.name = name) ↔ Assigns content name := by
  constructor
  · rintro ⟨assignment, member, rfl⟩
    obtain ⟨line, listed, read⟩ := List.mem_filterMap.mp member
    exact ⟨line, listed, assignment.value, read⟩
  · rintro ⟨line, listed, value, read⟩
    exact ⟨_, List.mem_filterMap.mpr ⟨line, listed, read⟩, rfl⟩

/-- In a file without zero bytes, names and values count in full. -/
theorem isName_of_mem_assignments (whole : 0 ∉ content) {assignment : Assignment}
    (member : assignment ∈ Dotenv.assignments content) :
    IsName assignment.name ∧ 0 ∉ assignment.value := by
  obtain ⟨line, listed, read⟩ := List.mem_filterMap.mp member
  obtain ⟨⟨nonempty, undivided, _⟩, _⟩ := of_parseLine read
  have unended : 0 ∉ line := fun zero => whole (Text.mem_of_mem_lines listed zero)
  have parts := parseLine_sublist read
  exact ⟨⟨nonempty, undivided, fun zero => unended (parts.1.subset zero)⟩,
    fun zero => unended (parts.2.subset zero)⟩

theorem assigned?_eq_find? (whole : 0 ∉ content) (proper : IsName name) :
    assigned? (Dotenv.assignments content) name =
      ((Dotenv.assignments content).find? fun assignment => assignment.name = name).map (·.value) := by
  have same : ∀ assignment ∈ Dotenv.assignments content,
      Text.upToNul assignment.name = assignment.name := fun assignment member =>
    Environment.upToNul_eq_self (isName_of_mem_assignments whole member).1.unended
  rw [assigned?, Environment.upToNul_eq_self proper.unended,
    List.find?_congr fun assignment member => by rw [same assignment member]]
  cases found : (Dotenv.assignments content).find? fun assignment => assignment.name = name with
  | none => rfl
  | some assignment =>
      have member := List.mem_of_find?_eq_some found
      simp [Environment.upToNul_eq_self (isName_of_mem_assignments whole member).2]

theorem firstAssigns_of_find? {assignment : Assignment}
    (found : ((Dotenv.assignments content).find? fun other => other.name = name) = some assignment) :
    FirstAssigns content name assignment.value := by
  obtain ⟨same, first, rest, shape, others⟩ := List.find?_eq_some_iff_append.mp found
  obtain rfl : assignment.name = name := of_decide_eq_true same
  obtain ⟨earlier, tail, lines_eq, earlier_eq, tail_eq⟩ := List.filterMap_eq_append_iff.mp shape
  obtain ⟨silent, line, later, tail_eq, nothing, read, _⟩ := List.filterMap_eq_cons_iff.mp tail_eq
  refine ⟨earlier ++ silent, line, later, by rw [lines_eq, tail_eq, List.append_assoc], read, ?_⟩
  intro before member other told
  rcases List.mem_append.mp member with known | passed
  · have listed : other ∈ first := earlier_eq ▸ List.mem_filterMap.mpr ⟨before, known, told⟩
    simpa using others other listed
  · rw [nothing before passed] at told
    cases told

theorem value?_apply (whole : 0 ∉ content) (proper : IsName name) (environment : Environment) :
    (apply content environment).1.value? name = (environment.value? name).or
      (((Dotenv.assignments content).find? fun assignment => assignment.name = name).map (·.value)) := by
  rw [apply, value?_define proper.canName, assigned?_eq_find? whole proper]

theorem exists_value_apply (whole : 0 ∉ content) (unset : environment.value? name = none)
    (assigned : Assigns content name) :
    ∃ value, FirstAssigns content name value ∧
      (apply content environment).1.value? name = some value := by
  obtain ⟨assignment, member, rfl⟩ := exists_mem_assignments_iff.mpr assigned
  have proper := (isName_of_mem_assignments whole member).1
  have present : ((Dotenv.assignments content).find? fun other =>
      other.name = assignment.name).isSome = true :=
    List.find?_isSome.mpr ⟨assignment, member, decide_eq_true rfl⟩
  obtain ⟨first, found⟩ := Option.isSome_iff_exists.mp present
  refine ⟨first.value, firstAssigns_of_find? found, ?_⟩
  rw [value?_apply whole proper, unset, found]
  rfl

theorem value?_apply_of_not_assigns (whole : 0 ∉ content) (proper : IsName name)
    (unassigned : ¬ Assigns content name) (environment : Environment) :
    (apply content environment).1.value? name = environment.value? name := by
  have absent : ((Dotenv.assignments content).find? fun assignment => assignment.name = name) = none := by
    rw [List.find?_eq_none]
    intro assignment member same
    exact unassigned (exists_mem_assignments_iff.mp ⟨assignment, member, of_decide_eq_true same⟩)
  rw [value?_apply whole proper, absent, Option.map_none, Option.or_none]

theorem merges_apply (whole : 0 ∉ content) (environment : Environment) :
    Merges content environment (apply content environment).1 (apply content environment).2 where
  kept := by
    intro name value set
    obtain ⟨added, after_eq⟩ := exists_added_define (Dotenv.assignments content) environment
    rw [apply, after_eq]
    exact Environment.value?_append set added
  filled name unset assigned := exists_value_apply whole unset assigned
  unassigned name proper unassigned := value?_apply_of_not_assigns whole proper unassigned environment
  counted := by
    obtain ⟨names, distinct, counted, listed⟩ := exists_names_define
      (fun assignment member => (isName_of_mem_assignments whole member).1) environment
    refine ⟨names, distinct, counted, fun name => ?_⟩
    rw [listed]
    constructor
    · rintro ⟨⟨assignment, member, rfl⟩, unset⟩
      have assigned := exists_mem_assignments_iff.mp ⟨assignment, member, rfl⟩
      obtain ⟨value, _, set⟩ := exists_value_apply whole unset assigned
      exact ⟨(isName_of_mem_assignments whole member).1, unset, by simp [set]⟩
    · rintro ⟨proper, unset, set⟩
      refine ⟨exists_mem_assignments_iff.mpr ?_, unset⟩
      by_contra unassigned
      rw [value?_apply_of_not_assigns whole proper unassigned] at set
      exact set unset

theorem Merges.value?_ne_none {before after : Environment} {count : Nat}
    (merges : Merges content before after count) (assigned : Assigns content name) :
    after.value? name ≠ none := by
  cases known : before.value? name with
  | some value => simp [merges.kept name value known]
  | none =>
      obtain ⟨value, _, set⟩ := merges.filled name known assigned
      simp [set]

/-- Once a file has been merged, one that assigns no other variables finds all of them set. -/
theorem Merges.apply_eq {before after : Environment} {count : Nat}
    (merges : Merges content before after count) {other : Bytes}
    (covered : ∀ name, Assigns other name → Assigns content name) : apply other after = (after, 0) := by
  refine define_of_isSet fun assignment member => ?_
  have assigned := exists_mem_assignments_iff.mp ⟨assignment, member, rfl⟩
  exact Option.isSome_iff_ne_none.mpr (merges.value?_ne_none (covered _ assigned))

theorem applyAt_eq {surroundings : Surroundings} {path : Bytes}
    (found : surroundings.files.content? surroundings.directory path = some content) :
    applyAt surroundings path =
      ({ surroundings with environment := (apply content surroundings.environment).1 },
        (apply content surroundings.environment).2) := by
  rw [applyAt, found]

theorem applyAt_eq_self {surroundings : Surroundings} {path : Bytes}
    (found : surroundings.files.content? surroundings.directory path = some content)
    (idle : apply content surroundings.environment = (surroundings.environment, 0)) :
    applyAt surroundings path = (surroundings, 0) := by
  rw [applyAt_eq found, idle]

/-- Applying a file overrides nothing and counts what it sets.  Applying it once more does nothing, and nor
does any other file, wherever it is, that assigns no other variables. -/
theorem applyAt_merges_first (surroundings : Surroundings) (path content : Bytes)
    (found : surroundings.files.content? surroundings.directory path = some content)
    (whole : 0 ∉ content) :
    let (after, count) := applyAt surroundings path
    Merges content surroundings.environment after.environment count ∧
      after = { surroundings with environment := after.environment } ∧
      applyAt after path = (after, 0) ∧
      ∀ (later : Surroundings) (place other : Bytes), later.environment = after.environment →
        later.files.content? later.directory place = some other →
        (∀ name, Assigns other name → Assigns content name) → applyAt later place = (later, 0) := by
  have merges := merges_apply whole surroundings.environment
  rw [applyAt_eq found]
  refine ⟨merges, rfl, applyAt_eq_self found (merges.apply_eq fun _ => id), ?_⟩
  intro later place other same present covered
  have idle : apply other later.environment = (later.environment, 0) := by
    rw [same]
    exact merges.apply_eq covered
  exact applyAt_eq_self present idle

/-- A file with a remark, a line that assigns nothing, a variable that is set to the empty text already and
one that is assigned twice, and after it a file in another directory. -/
theorem applyAt_merges_first_rehearsed :
    let content := utf8 "# defaults\r\nEMPTY=full\nexport A='1'\r\nnothing\nA=2\nB = b"
    let other := utf8 "B=c\nA=3\n"
    let path := utf8 ".env"
    let surroundings : Surroundings := {
      environment := [utf8 "EMPTY=", utf8 "HOME=/root"]
      files := FileTree.withFile (FileTree.withFile [] [path] content) [utf8 "srv", path] other }
    let (after, count) := applyAt surroundings path
    let later := { after with directory := [utf8 "srv"] }
    (surroundings.files.content? surroundings.directory path = some content ∧ 0 ∉ content) ∧
      (later.files.content? later.directory path = some other ∧
        ∀ name, Assigns other name → Assigns content name) ∧
      (after.environment = ["EMPTY=", "HOME=/root", "A=1", "B=b"].map utf8 ∧ count = 2) ∧
      Merges content surroundings.environment after.environment count ∧
      applyAt after path = (after, 0) ∧ applyAt later path = (later, 0) := by
  intro content other path surroundings
  have found : surroundings.files.content? surroundings.directory path = some content := by rfl
  have whole : 0 ∉ content := by decide
  have result : (applyAt surroundings path).1.environment =
      ["EMPTY=", "HOME=/root", "A=1", "B=b"].map utf8 ∧ (applyAt surroundings path).2 = 2 := by
    decide +kernel
  have present : (applyAt surroundings path).1.files.content? [utf8 "srv"] path = some other := by rfl
  have covered : ∀ name, Assigns other name → Assigns content name := by
    have names : ∀ assignment ∈ Dotenv.assignments other,
        assignment.name ∈ (Dotenv.assignments content).map (·.name) := by decide +kernel
    intro name assigned
    obtain ⟨assignment, member, rfl⟩ := exists_mem_assignments_iff.mpr assigned
    exact exists_mem_assignments_iff.mp (List.mem_map.mp (names assignment member))
  obtain ⟨merges, _, again, others⟩ := applyAt_merges_first surroundings path content found whole
  exact ⟨⟨found, whole⟩, ⟨present, covered⟩, result, merges, again, others _ path other rfl present covered⟩

end Dotenv

end SandboxClient
