import Mathlib.Data.List.DropRight
import SandboxClient.Text

/-!
# Trimming

A text is trimmed if it neither begins nor ends with a blank.  Trimming takes the blanks off both ends of a
text, and nothing else: what is left is trimmed, and blanks that are put around a text make no difference.
-/

namespace SandboxClient

namespace Text

/-- Space, tab, carriage return and line feed. -/
def blanks : Bytes := utf8 " \t\r\n"

/-- A text of nothing but blanks. -/
def IsPadding (text : Bytes) : Prop :=
  ∀ byte ∈ text, byte ∈ blanks

/-- A text without blanks at its ends. -/
def IsTrimmed (text : Bytes) : Prop :=
  (∀ byte ∈ text.head?, byte ∉ blanks) ∧ ∀ byte ∈ text.getLast?, byte ∉ blanks

instance (text : Bytes) : Decidable (IsPadding text) :=
  List.decidableBAll (· ∈ blanks) text

instance (text : Bytes) : Decidable (IsTrimmed text) :=
  @instDecidableAnd _ _ (Option.decidableForallMem _) (Option.decidableForallMem _)

variable {text before after : Bytes} {byte : UInt8}

theorem mem_blanks_iff : byte ∈ blanks ↔ isBlank byte = true := by
  have blanks_eq : blanks = [32, 9, 13, 10] := by decide
  simp [blanks_eq, isBlank, or_assoc]

theorem isBlank_eq_false (filled : byte ∉ blanks) : isBlank byte = false := by
  rwa [mem_blanks_iff, Bool.not_eq_true] at filled

theorem IsPadding.isBlank (padding : IsPadding text) : ∀ byte ∈ text, isBlank byte = true :=
  fun byte member => mem_blanks_iff.mp (padding byte member)

/-! ## One end -/

theorem trimLeft_padding_append (padding : IsPadding before) (text : Bytes) :
    trimLeft (before ++ text) = trimLeft text :=
  List.dropWhile_append_of_pos padding.isBlank

theorem trimLeft_cons (filled : byte ∉ blanks) (text : Bytes) :
    trimLeft (byte :: text) = byte :: text := by
  rw [trimLeft, List.dropWhile_cons_of_neg]
  simp [isBlank_eq_false filled]

theorem trimRight_append_padding (padding : IsPadding after) (text : Bytes) :
    trimRight (text ++ after) = trimRight text := by
  have reversed : ∀ byte ∈ after.reverse, isBlank byte = true := fun byte member =>
    padding.isBlank byte (List.mem_reverse.mp member)
  rw [trimRight, List.reverse_append, List.dropWhile_append_of_pos reversed, trimRight]

/-- Nothing is taken off before a byte that is no blank. -/
theorem trimRight_append_cons (filled : byte ∉ blanks) (text rest : Bytes) :
    trimRight (text ++ byte :: rest) = text ++ byte :: trimRight rest := by
  have stop : List.dropWhile isBlank (byte :: text.reverse) = byte :: text.reverse :=
    trimLeft_cons filled _
  have reversed : (text ++ byte :: rest).reverse = rest.reverse ++ byte :: text.reverse := by simp
  rw [trimRight, reversed, List.dropWhile_append, stop, trimRight]
  split
  next empty => simp [List.isEmpty_iff.mp empty]
  next => simp

theorem exists_padding_trimLeft (text : Bytes) :
    ∃ before, IsPadding before ∧ text = before ++ trimLeft text := by
  refine ⟨text.takeWhile isBlank, ?_, List.takeWhile_append_dropWhile.symm⟩
  exact fun byte member => mem_blanks_iff.mpr (List.mem_takeWhile_imp member)

theorem exists_padding_trimRight (text : Bytes) :
    ∃ after, IsPadding after ∧ text = trimRight text ++ after := by
  obtain ⟨before, padding, text_eq⟩ := exists_padding_trimLeft text.reverse
  refine ⟨before.reverse, fun byte member => padding byte (List.mem_reverse.mp member), ?_⟩
  simpa [trimLeft, trimRight] using congrArg List.reverse text_eq

/-! ## Both ends -/

theorem trim_padding_append (padding : IsPadding before) (text : Bytes) :
    trim (before ++ text) = trim text := by
  rw [trim, trimLeft_padding_append padding, trim]

theorem trim_append_padding (padding : IsPadding after) (text : Bytes) :
    trim (text ++ after) = trim text := by
  rw [trim, trimLeft, List.dropWhile_append]
  split
  next empty =>
    -- the text has nothing but blanks, and so has what follows it
    have nothing : after.dropWhile isBlank = [] := List.dropWhile_eq_nil_iff.mpr padding.isBlank
    rw [nothing, trim, trimLeft, List.isEmpty_iff.mp empty]
  next => rw [trimRight_append_padding padding, trim, trimLeft]

theorem trim_trimRight (text : Bytes) : trim (trimRight text) = trim text := by
  obtain ⟨after, padding, text_eq⟩ := exists_padding_trimRight text
  calc trim (trimRight text) = trim (trimRight text ++ after) := (trim_append_padding padding _).symm
    _ = trim text := by rw [← text_eq]

/-- Between two bytes that are no blanks nothing is taken off. -/
theorem trim_cons_append_cons {last : UInt8} (filled : byte ∉ blanks) (also : last ∉ blanks)
    (text rest : Bytes) : trim (byte :: text ++ last :: rest) = byte :: text ++ last :: trimRight rest := by
  rw [trim, List.cons_append, trimLeft_cons filled, ← List.cons_append, trimRight_append_cons also]

theorem trim_sublist (text : Bytes) : (trim text).Sublist text :=
  (List.rdropWhile_prefix isBlank (trimLeft text)).sublist.trans (List.dropWhile_sublist isBlank)

theorem isTrimmed_trim (text : Bytes) : IsTrimmed (trim text) := by
  constructor
  · intro byte first
    obtain ⟨rest, trimLeft_eq⟩ := List.rdropWhile_prefix isBlank (trimLeft text)
    have first : ((trimLeft text).rdropWhile isBlank).head? = some byte := first
    have begins : (text.dropWhile isBlank).head? = some byte := by
      rw [← trimLeft, ← trimLeft_eq, List.head?_append, first, Option.some_or]
    have stop := List.head?_dropWhile_not isBlank text
    rw [begins] at stop
    simp [mem_blanks_iff, stop]
  · intro byte last
    obtain ⟨init, trim_eq⟩ := List.getLast?_eq_some_iff.mp last
    have filled : (trimLeft text).rdropWhile isBlank = init ++ [byte] := trim_eq
    have stop := List.rdropWhile_last_not isBlank (trimLeft text) (by simp [filled])
    simpa [mem_blanks_iff, filled] using stop

theorem IsTrimmed.trim_eq (trimmed : IsTrimmed text) : trim text = text := by
  obtain ⟨first, last⟩ := trimmed
  have left : trimLeft text = text := by
    cases text with
    | nil => rfl
    | cons byte rest => exact trimLeft_cons (first byte rfl) rest
  rw [trim, left]
  rcases List.eq_nil_or_concat' text with rfl | ⟨init, byte, rfl⟩
  · rfl
  · exact trimRight_append_cons (last byte (by simp)) init []

theorem trim_eq_self_iff : trim text = text ↔ IsTrimmed text := by
  constructor
  · intro same
    exact same ▸ isTrimmed_trim text
  · exact IsTrimmed.trim_eq

end Text

end SandboxClient
