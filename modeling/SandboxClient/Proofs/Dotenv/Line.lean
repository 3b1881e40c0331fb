import SandboxClient.Dotenv
import SandboxClient.Proofs.Text.Reading
import SandboxClient.Proofs.Text.Trimming

/-!
# Lines of an environment file

An assignment may be written with blanks around its parts, marked for export, and with its value in quotes
of either kind.  Reading such a line gives back the name and the value, and a value in quotes may be any
text.  Without quotes a value is read as it is if it has no blanks at its ends and is not itself in quotes.
-/

namespace SandboxClient

namespace Dotenv

open Text (blanks IsPadding IsTrimmed)

/-! ## Written assignments -/

/-- The double and the single quote. -/
def quotes : Bytes := utf8 "\"'"

def enclose (quote : UInt8) (value : Bytes) : Bytes :=
  quote :: value ++ [quote]

/-- A text that is read as the name of a variable: it has neither blanks nor an equals sign, begins no
remark and is not the word that marks a variable for export. -/
structure IsKey (name : Bytes) : Prop where
  nonempty : name ≠ []
  unbroken : ∀ byte ∈ name, byte ∉ blanks ++ utf8 "="
  unremarked : ¬ utf8 "#" <+: name
  unreserved : name ≠ utf8 "export"

/-- The blanks around the parts of an assignment, which may be marked for export. -/
structure Spacing where
  before : Bytes
  /-- The blanks between the mark, if it stands there, and the name. -/
  marked? : Option Bytes
  afterName : Bytes
  beforeValue : Bytes
  after : Bytes
  blank : ∀ part ∈ [before, marked?.getD [], afterName, beforeValue, after], IsPadding part

namespace Spacing

def mark (spacing : Spacing) : Bytes :=
  match spacing.marked? with
  | some blanks => utf8 "export " ++ blanks
  | none => []

/-- The line of an assignment, given the value as it is written. -/
def line (spacing : Spacing) (name written : Bytes) : Bytes :=
  spacing.before ++ spacing.mark ++ name ++ spacing.afterName ++ utf8 "=" ++ spacing.beforeValue ++
    written ++ spacing.after

end Spacing

/-! ## Parts of a line -/

variable {name value text left right : Bytes} {quote : UInt8}

/-- A text is split at its first equals sign. -/
theorem split?_eq_some_iff :
    split? text = some (left, right) ↔ text = left ++ 61 :: right ∧ 61 ∉ left := by
  constructor
  · intro divided
    rw [split?] at divided
    split at divided
    next => cases divided
    next sign rest dropped =>
      cases divided
      have stop := List.head?_dropWhile_not (· != (61 : UInt8)) text
      obtain rfl : sign = 61 := by simpa [dropped] using stop
      refine ⟨?_, fun member => by simpa using List.mem_takeWhile_imp member⟩
      rw [← dropped, List.takeWhile_append_dropWhile]
  · rintro ⟨rfl, undivided⟩
    have passed : ∀ byte ∈ left, (byte != 61) = true := by
      intro byte member
      exact bne_iff_ne.mpr fun same => undivided (same ▸ member)
    rw [split?, List.dropWhile_append_of_pos passed, List.takeWhile_append_of_pos passed]
    simp

theorem enclose_ne_nil : enclose quote value ≠ [] :=
  List.cons_ne_nil _ _

theorem enclose_inj {other : UInt8} {inner : Bytes} (same : enclose quote value = enclose other inner) :
    value = inner := by
  rw [enclose, enclose, List.cons_append, List.cons_append, List.cons.injEq] at same
  exact (List.append_inj' same.2 rfl).1

/-- Quotes are taken off a text that is in quotes, and any other text is left alone. -/
theorem unquote_cases (text : Bytes) :
    (∃ quote ∈ quotes, ∃ inner, text = enclose quote inner ∧ unquote text = inner) ∨
      ((∀ quote ∈ quotes, ∀ inner, text ≠ enclose quote inner) ∧ unquote text = text) := by
  have quotes_eq : quotes = [34, 39] := by decide
  cases text with
  | nil => exact .inr ⟨fun _ _ _ => enclose_ne_nil.symm, rfl⟩
  | cons first rest =>
      rw [unquote]
      split
      next enclosed =>
        simp only [Bool.and_eq_true, Bool.or_eq_true, decide_eq_true_eq] at enclosed
        obtain ⟨quoted, last⟩ := enclosed
        obtain ⟨inner, rfl⟩ := List.getLast?_eq_some_iff.mp last
        exact .inl ⟨first, by simpa [quotes_eq] using quoted, inner, rfl, List.dropLast_concat⟩
      next unenclosed =>
        refine .inr ⟨?_, rfl⟩
        rintro quote quoted inner equal
        rw [enclose, List.cons_append, List.cons.injEq] at equal
        obtain ⟨rfl, rfl⟩ := equal
        exact unenclosed (by simpa [quotes_eq] using quoted)

theorem unquote_enclose (quoted : quote ∈ quotes) (value : Bytes) :
    unquote (enclose quote value) = value := by
  rcases unquote_cases (enclose quote value) with ⟨_, _, inner, same, unquoted⟩ | ⟨unenclosed, _⟩
  · rw [unquoted, enclose_inj same]
  · exact absurd rfl (unenclosed quote quoted value)

theorem isTrimmed_enclose (quoted : quote ∈ quotes) (value : Bytes) :
    IsTrimmed (enclose quote value) := by
  have allFilled : quotes.all (· ∉ blanks) = true := by decide
  have filled : quote ∉ blanks := of_decide_eq_true (List.all_eq_true.mp allFilled quote quoted)
  constructor
  · rintro _ ⟨⟩
    exact filled
  · intro byte last
    obtain rfl : quote = byte := Option.some.inj (List.getLast?_concat.symm.trans last)
    exact filled

/-- What is taken off a text makes it shorter. -/
theorem unquote_trim_eq_self_iff :
    unquote (Text.trim value) = value ↔
      IsTrimmed value ∧ ∀ quote ∈ quotes, ∀ inner, value ≠ enclose quote inner := by
  constructor
  · intro kept
    have shorter := (Text.trim_sublist value).length_le
    rcases unquote_cases (Text.trim value) with ⟨quote, _, inner, trim_eq, unquoted⟩ | ⟨plain, unquoted⟩
    · -- the quotes alone are two bytes too many
      rw [unquoted] at kept
      rw [trim_eq, kept] at shorter
      simp only [enclose, List.length_append, List.length_cons, List.length_nil] at shorter
      omega
    · rw [unquoted] at kept
      exact ⟨Text.trim_eq_self_iff.mp kept, kept ▸ plain⟩
  · rintro ⟨trimmed, plain⟩
    rw [trimmed.trim_eq]
    rcases unquote_cases value with ⟨quote, quoted, inner, enclosed, _⟩ | ⟨_, unquoted⟩
    · exact absurd enclosed (plain quote quoted inner)
    · exact unquoted

theorem sign_filled : (61 : UInt8) ∉ blanks := by
  decide

/-! ## Reading a line -/

namespace IsKey

variable (key : IsKey name)
include key

theorem filled : ∀ byte ∈ name, byte ∉ blanks := fun byte member blank =>
  key.unbroken byte member (List.mem_append_left _ blank)

theorem undivided : 61 ∉ name := fun member =>
  key.unbroken 61 member (by decide)

theorem isTrimmed : IsTrimmed name :=
  ⟨fun byte first => key.filled byte (List.mem_of_mem_head? first),
    fun byte last => key.filled byte (List.mem_of_mem_getLast? last)⟩

end IsKey

/-- A key is the first word of what it begins. -/
theorem IsKey.takeWhile_eq (key : IsKey name) {after : Bytes} (padding : IsPadding after) (rest : Bytes) :
    (name ++ after ++ 61 :: rest).takeWhile (· ∉ blanks ++ utf8 "=") = name := by
  have inside : ∀ byte ∈ name, decide (byte ∉ blanks ++ utf8 "=") = true := fun byte member =>
    decide_eq_true (key.unbroken byte member)
  have stop : (after ++ 61 :: rest).takeWhile (· ∉ blanks ++ utf8 "=") = [] := by
    cases after with
    | nil => rfl
    | cons byte after =>
        have blank : byte ∈ blanks ++ utf8 "=" := List.mem_append_left _ (padding byte (.head _))
        rw [List.cons_append, List.takeWhile_cons_of_neg]
        exact fun outside => of_decide_eq_true outside blank
  rw [List.append_assoc, List.takeWhile_append_of_pos inside, stop, List.append_nil]

theorem IsKey.dropPrefix?_eq_none (key : IsKey name) {after : Bytes} (padding : IsPadding after)
    (rest : Bytes) : Text.dropPrefix? (utf8 "export ") (name ++ after ++ 61 :: rest) = none := by
  rw [Option.eq_none_iff_forall_ne_some]
  intro other marked
  have shape := Text.dropPrefix?_eq_some_iff.mp marked
  have word : (utf8 "export " ++ other).takeWhile (· ∉ blanks ++ utf8 "=") = utf8 "export" := rfl
  rw [← shape, key.takeWhile_eq padding rest] at word
  exact key.unreserved word

theorem Spacing.exists_start (key : IsKey name) (spacing : Spacing) :
    ∃ first rest, spacing.mark ++ name = first :: rest ∧ first ∉ blanks ∧ first ≠ 35 := by
  rw [mark]
  split
  next blanks _ => exact ⟨101, utf8 "xport " ++ blanks ++ name, rfl, by decide, by decide⟩
  next =>
    obtain ⟨first, rest, rfl⟩ := List.exists_cons_of_ne_nil key.nonempty
    refine ⟨first, rest, rfl, key.filled first (.head _), ?_⟩
    rintro rfl
    exact key.unremarked ⟨rest, rfl⟩

theorem trim_line (key : IsKey name) (spacing : Spacing) (written : Bytes) :
    Text.trim (spacing.line name written) =
      spacing.mark ++ name ++ spacing.afterName ++ 61 ::
        Text.trimRight (spacing.beforeValue ++ written ++ spacing.after) := by
  have sign : utf8 "=" = [61] := rfl
  have line_eq : spacing.line name written = spacing.before ++ (spacing.mark ++ name ++
      spacing.afterName ++ 61 :: (spacing.beforeValue ++ written ++ spacing.after)) := by
    simp [Spacing.line, sign]
  obtain ⟨first, rest, start, filled, _⟩ := spacing.exists_start key
  rw [line_eq, Text.trim_padding_append (spacing.blank _ (.head _)), start, List.cons_append]
  exact Text.trim_cons_append_cons filled sign_filled _ _

/-- What is left of a line without its mark still ends in the value. -/
theorem exists_rest_dropExport (key : IsKey name) (spacing : Spacing) (written : Bytes) :
    ∃ rest, Text.trim rest = Text.trim written ∧
      dropExport (Text.trim (spacing.line name written)) = name ++ spacing.afterName ++ 61 :: rest := by
  have value_eq :
      Text.trim (Text.trimRight (spacing.beforeValue ++ written ++ spacing.after)) = Text.trim written := by
    rw [Text.trim_trimRight, Text.trim_append_padding (spacing.blank _ (by simp)),
      Text.trim_padding_append (spacing.blank _ (by simp))]
  rw [trim_line key, dropExport]
  generalize Text.trimRight (spacing.beforeValue ++ written ++ spacing.after) = rest at value_eq
  rcases marked : spacing.marked? with _ | padding
  · refine ⟨rest, value_eq, ?_⟩
    rw [Spacing.mark, marked, List.nil_append, key.dropPrefix?_eq_none (spacing.blank _ (by simp))]
  · refine ⟨Text.trimRight rest, by rw [Text.trim_trimRight, value_eq], ?_⟩
    have blank : IsPadding padding := by simpa [marked] using spacing.blank _ (.tail _ (.head _))
    have line_eq : spacing.mark ++ name ++ spacing.afterName ++ 61 :: rest =
        utf8 "export " ++ (padding ++ (name ++ spacing.afterName ++ 61 :: rest)) := by
      simp [Spacing.mark, marked]
    obtain ⟨first, others, rfl⟩ := List.exists_cons_of_ne_nil key.nonempty
    simp only [line_eq, Text.dropPrefix?_append, Text.trim_padding_append blank]
    exact Text.trim_cons_append_cons (key.filled first (.head _)) sign_filled _ _

theorem parseLine_line (key : IsKey name) (spacing : Spacing) (written : Bytes) :
    parseLine (spacing.line name written) =
      let value := unquote (Text.trim written)
      if value.isEmpty then none else some { name, value } := by
  have told : isRemark (Text.trim (spacing.line name written)) = false := by
    obtain ⟨first, rest, start, _, other⟩ := spacing.exists_start key
    rw [trim_line key, start]
    simp [isRemark, other]
  obtain ⟨rest, rest_eq, left_eq⟩ := exists_rest_dropExport key spacing written
  have padding : IsPadding spacing.afterName := spacing.blank _ (by simp)
  have undivided : 61 ∉ name ++ spacing.afterName := by
    rw [List.mem_append, not_or]
    exact ⟨key.undivided, fun member => sign_filled (padding 61 member)⟩
  have named : Text.trim (name ++ spacing.afterName) = name := by
    rw [Text.trim_append_padding padding, key.isTrimmed.trim_eq]
  have divided : split? (name ++ spacing.afterName ++ 61 :: rest) =
      some (name ++ spacing.afterName, rest) := split?_eq_some_iff.mpr ⟨rfl, undivided⟩
  simp only [parseLine, told, left_eq, divided, named, rest_eq]
  simp [key.nonempty]

/-- What is read from a line has a proper name and a value. -/
theorem of_parseLine {line : Bytes} {assignment : Assignment}
    (read : parseLine line = some assignment) :
    (assignment.name ≠ [] ∧ 61 ∉ assignment.name ∧ IsTrimmed assignment.name) ∧
      assignment.value ≠ [] := by
  rw [parseLine] at read
  simp only at read
  split at read
  next => cases read
  split at read
  next => cases read
  next left right divided =>
    split at read
    next => cases read
    next complete =>
      cases read
      rw [Bool.or_eq_true, List.isEmpty_iff, List.isEmpty_iff, not_or] at complete
      have undivided : 61 ∉ left := (split?_eq_some_iff.mp divided).2
      exact ⟨⟨complete.1, fun member => undivided ((Text.trim_sublist left).subset member),
        Text.isTrimmed_trim left⟩, complete.2⟩

/-- Reading the line of an assignment gives back the name and a value in quotes, whatever the value is, and
a value without quotes if nothing is taken off it.  Whatever else is read has a name and a value, too. -/
theorem parseLine_reads_assignments :
    (∀ (name value : Bytes) (spacing : Spacing), IsKey name → value ≠ [] →
      (∀ quote ∈ quotes,
        parseLine (spacing.line name (enclose quote value)) = some { name, value }) ∧
      (parseLine (spacing.line name value) = some { name, value } ↔
        IsTrimmed value ∧ ∀ quote ∈ quotes, ∀ inner, value ≠ enclose quote inner)) ∧
    ∀ line assignment, parseLine line = some assignment →
      (assignment.name ≠ [] ∧ 61 ∉ assignment.name ∧ IsTrimmed assignment.name) ∧
      assignment.value ≠ [] := by
  refine ⟨fun name value spacing key nonempty => ⟨?_, ?_⟩, fun line assignment => of_parseLine⟩
  · intro quote quoted
    rw [parseLine_line key, (isTrimmed_enclose quoted value).trim_eq]
    simp [unquote_enclose quoted, nonempty]
  · rw [parseLine_line key, ← unquote_trim_eq_self_iff]
    constructor
    · intro read
      simp only at read
      split at read
      next => cases read
      next => exact congrArg Assignment.value (Option.some.inj read)
    · intro kept
      simp [kept, nonempty]

/-- A value with blanks at its ends and with every sign that means something on a line, and a name of two
words, which is read although it is no key. -/
theorem parseLine_reads_assignments_rehearsed :
    let name := utf8 "ROCK_IMAGE"
    let value := utf8 " #a=\"b' "
    let spacing : Spacing := {
      before := utf8 "  ", marked? := some (utf8 "\t"), afterName := utf8 " ", beforeValue := utf8 "\t"
      after := utf8 " \r", blank := by decide }
    let words : Assignment := { name := utf8 "two words", value := utf8 "1" }
    (IsKey name ∧ value ≠ [] ∧ ¬ IsTrimmed value) ∧
      (∀ quote ∈ quotes,
        parseLine (spacing.line name (enclose quote value)) = some { name, value }) ∧
      parseLine (spacing.line name value) ≠ some { name, value } ∧
      parseLine (utf8 "two words = 1") = some words ∧
      (words.name ≠ [] ∧ 61 ∉ words.name ∧ IsTrimmed words.name) ∧ words.value ≠ [] := by
  intro name value spacing words
  have unbroken : name.all (· ∉ blanks ++ utf8 "=") = true := by decide
  have key : IsKey name :=
    ⟨by decide, fun byte member => of_decide_eq_true (List.all_eq_true.mp unbroken byte member),
      by decide, by decide⟩
  have nonempty : value ≠ [] := by decide
  have untrimmed : ¬ IsTrimmed value := by decide
  have read : parseLine (utf8 "two words = 1") = some words := by rfl
  obtain ⟨quoted, plain⟩ := parseLine_reads_assignments.1 name value spacing key nonempty
  exact ⟨⟨key, nonempty, untrimmed⟩, quoted, fun same => untrimmed (plain.mp same).1, read,
    parseLine_reads_assignments.2 _ words read⟩

end Dotenv

end SandboxClient
