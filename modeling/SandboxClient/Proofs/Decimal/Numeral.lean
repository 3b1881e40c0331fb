import Mathlib.Data.List.DropRight
import SandboxClient.Decimal.Numeral
import SandboxClient.Proofs.Text.Reading

/-!
# Integer numerals at the start of a text

A reader of integers finds one exactly where a text begins with a numeral: white space, a sign that may be
missing, and digits up to the first byte that is none.  Whether anything follows the digits makes no
difference to it, so it takes more texts than those that are numerals as a whole.
-/

namespace SandboxClient

namespace Numeral

/-- The ways to write a sign.  Without one a number is not negative. -/
def signs : (negative : Bool) → List Bytes
  | true => [utf8 "-"]
  | false => [[], utf8 "+"]

/-- A text begins with an integer numeral, whose digits end where the rest begins. -/
structure Begins (text : Bytes) (negative : Bool) (digits rest : Bytes) : Prop where
  shape : ∃ space sign, (∀ byte ∈ space, isSpace byte = true) ∧ sign ∈ signs negative ∧
    text = space ++ (sign ++ (digits ++ rest))
  nonempty : digits ≠ []
  numeral : ∀ byte ∈ digits, Text.isDigit byte = true
  ends : ∀ byte ∈ rest.head?, Text.isDigit byte = false

/-- A text is an integer numeral as a whole, but for white space in front, and denotes a value. -/
def IsNumeral (text : Bytes) (value : Int) : Prop :=
  ∃ negative digits, Begins text negative digits [] ∧
    value = Binary64.signed negative (Text.denoted digits)

variable {text digits rest : Bytes} {negative : Bool} {byte : UInt8}

/-! ## Bytes of a numeral -/

theorem isDigit_bounds (digit : Text.isDigit byte = true) : 48 ≤ byte.toNat ∧ byte.toNat ≤ 57 := by
  simpa [Text.isDigit, UInt8.le_iff_toNat_le] using digit

theorem isSpace_eq_false_of_isDigit (digit : Text.isDigit byte = true) : isSpace byte = false := by
  have bounds := isDigit_bounds digit
  by_contra space
  simp only [isSpace, Bool.not_eq_false, Bool.or_eq_true, Bool.and_eq_true, beq_iff_eq,
    decide_eq_true_eq, UInt8.le_iff_toNat_le, ← UInt8.toNat_inj, UInt8.reduceToNat] at space
  omega

theorem ne_zero_of_isDigit (digit : Text.isDigit byte = true) : byte ≠ 0 := by
  rintro rfl
  cases digit

theorem ne_zero_of_isSpace (space : isSpace byte = true) : byte ≠ 0 := by
  rintro rfl
  cases space

theorem ne_zero_of_mem_signs {sign : Bytes} (signed : sign ∈ signs negative) :
    ∀ byte ∈ sign, byte ≠ 0 := by
  cases negative with
  | true =>
      revert sign
      decide +kernel
  | false =>
      revert sign
      decide +kernel

/-! ## Signs -/

theorem readSign_append {sign : Bytes} (signed : sign ∈ signs negative)
    (starts : ∀ byte ∈ text.head?, Text.isDigit byte = true) :
    readSign (sign ++ text) = (negative, text) := by
  cases negative with
  | true =>
      obtain rfl := List.mem_singleton.mp signed
      rfl
  | false =>
      rcases List.mem_cons.mp signed with rfl | plus
      · rw [List.nil_append, readSign.eq_def]
        split
        next => exact absurd (starts _ rfl) (by decide)
        next => exact absurd (starts _ rfl) (by decide)
        next => rfl
      · obtain rfl := List.mem_singleton.mp plus
        rfl

theorem exists_sign_readSign (text : Bytes) :
    ∃ sign ∈ signs (readSign text).1, text = sign ++ (readSign text).2 := by
  rw [readSign.eq_def]
  split
  next text => exact ⟨utf8 "+", .tail _ (.head _), rfl⟩
  next text => exact ⟨utf8 "-", .head _, rfl⟩
  next => exact ⟨[], .head _, rfl⟩

theorem isSpace_eq_false_of_sign {sign : Bytes} (signed : sign ∈ signs negative)
    (starts : ∀ byte ∈ text.head?, Text.isDigit byte = true) :
    ∀ byte ∈ (sign ++ text).head?, isSpace byte = false := by
  have signless : ∀ byte ∈ sign.head?, isSpace byte = false := by
    cases negative with
    | true =>
        revert sign
        decide +kernel
    | false =>
        revert sign
        decide +kernel
  cases sign with
  | nil => exact fun byte first => isSpace_eq_false_of_isDigit (starts byte first)
  | cons letter sign => exact signless

/-! ## Reading -/

theorem dropWhile_eq_self {test : UInt8 → Bool} (starts : ∀ byte ∈ text.head?, test byte = false) :
    text.dropWhile test = text := by
  cases text with
  | nil => rfl
  | cons byte text => exact List.dropWhile_cons_of_neg (by simp [starts byte rfl])

theorem takeWhile_append_of_ends {test : UInt8 → Bool} (inside : ∀ byte ∈ digits, test byte = true)
    (ends : ∀ byte ∈ rest.head?, test byte = false) : (digits ++ rest).takeWhile test = digits := by
  rw [List.takeWhile_append_of_pos inside]
  cases rest with
  | nil => exact List.append_nil digits
  | cons byte rest => simp [ends byte rfl]

theorem eq_false_of_mem_head?_dropWhile {test : UInt8 → Bool} {text : Bytes} {byte : UInt8}
    (first : byte ∈ (text.dropWhile test).head?) : test byte = false := by
  have stops := List.head?_dropWhile_not test text
  rw [Option.mem_def.mp first] at stops
  simpa using stops

theorem Begins.leadingInteger?_eq (begins : Begins text negative digits rest) :
    leadingInteger? text = some (negative, digits) := by
  obtain ⟨⟨space, sign, blank, signed, rfl⟩, nonempty, numeral, ends⟩ := begins
  have nonzero : ∀ {part : Bytes}, (∀ byte ∈ part, byte ≠ 0) → ∀ byte ∈ part, (byte != 0) = true :=
    fun filled byte member => bne_iff_ne.mpr (filled byte member)
  have cut : Text.upToNul (space ++ (sign ++ (digits ++ rest))) =
      space ++ (sign ++ (digits ++ Text.upToNul rest)) := by
    rw [Text.upToNul,
      List.takeWhile_append_of_pos (nonzero fun byte member => ne_zero_of_isSpace (blank byte member)),
      List.takeWhile_append_of_pos (nonzero (ne_zero_of_mem_signs signed)),
      List.takeWhile_append_of_pos (nonzero fun byte member => ne_zero_of_isDigit (numeral byte member)),
      Text.upToNul]
  have starts : ∀ byte ∈ (digits ++ Text.upToNul rest).head?, Text.isDigit byte = true := by
    obtain ⟨first, others, rfl⟩ := List.exists_cons_of_ne_nil nonempty
    intro byte same
    obtain rfl := Option.some_inj.mp same
    exact numeral first (.head _)
  have endsEarly : ∀ byte ∈ (Text.upToNul rest).head?, Text.isDigit byte = false := by
    intro byte first
    rw [Text.upToNul, List.head?_takeWhile] at first
    exact ends byte (Option.mem_filter_iff.mp first).1
  rw [leadingInteger?, cut, List.dropWhile_append_of_pos blank,
    dropWhile_eq_self (isSpace_eq_false_of_sign signed starts), readSign_append signed starts]
  simp only [takeWhile_append_of_ends numeral endsEarly]

theorem exists_begins_of_leadingInteger? (read : leadingInteger? text = some (negative, digits)) :
    ∃ rest, Begins text negative digits rest := by
  let core := (Text.upToNul text).dropWhile isSpace
  let left := (readSign core).2.dropWhile Text.isDigit
  let tail := text.dropWhile (· != 0)
  obtain ⟨sign, signed, core_eq⟩ := exists_sign_readSign core
  simp only [leadingInteger?] at read
  split at read
  next => cases read
  next nonempty =>
    cases read
    let digits := (readSign core).2.takeWhile Text.isDigit
    have core_split : core = sign ++ (digits ++ left) := by
      rw [List.takeWhile_append_dropWhile]
      exact core_eq
    refine ⟨left ++ tail, ⟨(Text.upToNul text).takeWhile isSpace, sign,
      fun byte => List.mem_takeWhile_imp, signed, ?_⟩, nonempty, fun byte => List.mem_takeWhile_imp, ?_⟩
    · calc
        text = Text.upToNul text ++ tail := List.takeWhile_append_dropWhile.symm
        _ = (Text.upToNul text).takeWhile isSpace ++ core ++ tail := by
          rw [List.takeWhile_append_dropWhile]
        _ = (Text.upToNul text).takeWhile isSpace ++ (sign ++ (digits ++ left)) ++ tail :=
          congrArg (_ ++ · ++ tail) core_split
        _ = (Text.upToNul text).takeWhile isSpace ++ (sign ++ (digits ++ (left ++ tail))) := by
          simp only [List.append_assoc]
    · intro byte first
      rw [List.head?_append, Option.mem_def, Option.or_eq_some_iff] at first
      rcases first with inText | ⟨_, atEnd⟩
      · exact eq_false_of_mem_head?_dropWhile inText
      · have zero := eq_false_of_mem_head?_dropWhile atEnd
        obtain rfl : byte = 0 := by simpa using zero
        rfl

/-- What is read is the sign and the digits that the text begins with, whatever follows them. -/
theorem leadingInteger?_eq_some_iff :
    leadingInteger? text = some (negative, digits) ↔ ∃ rest, Begins text negative digits rest :=
  ⟨exists_begins_of_leadingInteger?, fun ⟨_, begins⟩ => begins.leadingInteger?_eq⟩

/-- A text that is a numeral denotes what it begins with. -/
theorem IsNumeral.eq_of_begins {value : Int} (whole : IsNumeral text value)
    (begins : Begins text negative digits rest) :
    value = Binary64.signed negative (Text.denoted digits) := by
  obtain ⟨negative', digits', begins', rfl⟩ := whole
  have same : some (negative', digits') = some (negative, digits) :=
    begins'.leadingInteger?_eq.symm.trans begins.leadingInteger?_eq
  cases same
  rfl

/-- A numeral has nothing behind its digits. -/
theorem IsNumeral.isDigit_of_getLast? {value : Int} (numeral : IsNumeral text value) :
    ∀ byte ∈ text.getLast?, Text.isDigit byte = true := by
  obtain ⟨negative, digits, ⟨⟨space, sign, _, _, rfl⟩, nonempty, isDigit, _⟩, _⟩ := numeral
  intro byte last
  rw [List.append_nil, ← List.append_assoc, List.getLast?_append_of_ne_nil _ nonempty] at last
  exact isDigit byte (List.mem_of_getLast? last)

theorem readInt32_eq_ok_iff {value : Int} :
    readInt32 text = .ok value ↔ ∃ negative digits rest, Begins text negative digits rest ∧
      value = Binary64.signed negative (Text.denoted digits) ∧ -2 ^ 31 ≤ value ∧ value < 2 ^ 31 := by
  have isWord_iff : ∀ value, Binary64.isWord 32 value = true ↔ -2 ^ 31 ≤ value ∧ value < 2 ^ 31 := by
    intro value
    rw [Binary64.isWord, Bool.and_eq_true, decide_eq_true_iff, decide_eq_true_iff]
    rfl
  constructor
  · intro read
    rw [readInt32] at read
    split at read
    next => cases read
    next negative digits found =>
      obtain ⟨rest, begins⟩ := leadingInteger?_eq_some_iff.mp found
      simp only [Text.numeralValue_eq_denoted] at read
      split at read
      next isWord =>
        cases read
        exact ⟨negative, digits, rest, begins, rfl, (isWord_iff _).mp isWord⟩
      next => cases read
  · rintro ⟨negative, digits, rest, begins, rfl, bounds⟩
    rw [readInt32, begins.leadingInteger?_eq]
    simp only [Text.numeralValue_eq_denoted]
    exact if_pos ((isWord_iff _).mpr bounds)

/-- The value of a negative number of bytes is what it is short of `2 ^ 64`. -/
theorem readSize_eq_ok_iff {size : Nat} :
    readSize text = .ok size ↔ ∃ negative digits rest, Begins text negative digits rest ∧
      Text.denoted digits < 2 ^ 64 ∧
      (size : Int) = Binary64.signed negative (Text.denoted digits) % 2 ^ 64 := by
  have bound_eq : Nat.pow 2 64 = 2 ^ 64 := rfl
  constructor
  · intro read
    rw [readSize] at read
    split at read
    next => cases read
    next negative digits found =>
      obtain ⟨rest, begins⟩ := leadingInteger?_eq_some_iff.mp found
      refine ⟨negative, digits, rest, begins, ?_⟩
      simp only [Text.numeralValue_eq_denoted, bound_eq] at read
      split at read
      next => cases read
      next small =>
        cases negative with
        | true =>
            cases read
            simp only [Binary64.signed, if_true]
            omega
        | false =>
            cases read
            simp only [Binary64.signed, Bool.false_eq_true, if_false]
            omega
  · rintro ⟨negative, digits, rest, begins, small, size_eq⟩
    rw [readSize, begins.leadingInteger?_eq]
    simp only [Text.numeralValue_eq_denoted, bound_eq]
    rw [if_neg (Nat.not_le.mpr small)]
    cases negative with
    | true =>
        simp only [Binary64.signed, if_true] at size_eq ⊢
        congr 1
        omega
    | false =>
        simp only [Binary64.signed, Bool.false_eq_true, if_false] at size_eq ⊢
        congr 1
        omega

end Numeral

end SandboxClient
