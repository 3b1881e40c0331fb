import SandboxClient.Observation
import SandboxClient.Proofs.Program.Behaviour
import SandboxClient.Proofs.Text.Utf8

/-!
# Documents of JSON values

A JSON value has a document if all its texts are UTF-8, and then the document is UTF-8 as well.  So what is
read from such a value can be written again, also a member that reads as its document.
-/

namespace SandboxClient

open Utf8 (IsAscii isValid)

namespace Decimal

/-! ## Numbers are written in ASCII -/

theorem isAscii_zeros (count : Nat) : IsAscii (zeros count) := by
  intro byte member
  rw [List.eq_of_mem_replicate member]
  decide

theorem isAscii_significant (digits : Nat) : IsAscii (significant digits) := by
  intro byte member
  have digit : byte ∈ Text.decimal digits :=
    List.mem_reverse.mp ((List.dropWhile_sublist _).subset (List.mem_reverse.mp member))
  exact Utf8.isAscii_decimal digits byte digit

theorem isAscii_exponentText (exponent : Int) : IsAscii (exponentText exponent) := by
  have sign : IsAscii (utf8 (if exponent < 0 then "e-" else "e+")) := by
    split <;> decide
  exact (sign.append (isAscii_zeros _)).append (Utf8.isAscii_decimal _)

theorem isAscii_scientific {digits : Bytes} (ascii : IsAscii digits) (exponent : Int) :
    IsAscii (scientific digits exponent) := by
  have tail := isAscii_exponentText exponent
  match digits with
  | [] => exact tail
  | [first] => exact ascii.append tail
  | first :: next :: rest =>
      have lead : IsAscii [first] := ascii.of_sublist (by simp)
      have fraction : IsAscii (next :: rest) := ascii.of_sublist (List.sublist_cons_self _ _)
      exact ((lead.append (by decide)).append fraction).append tail

theorem isAscii_signText (negative : Bool) : IsAscii (signText negative) := by
  cases negative <;> decide

theorem isAscii_magnitude (decimal : Digits) : IsAscii (Layout.json.magnitude decimal) := by
  have digits := isAscii_significant decimal.digits
  have tail : IsAscii Layout.json.wholeTail := by decide
  simp only [Layout.magnitude]
  split
  next =>
    split
    next => exact (digits.append (isAscii_zeros _)).append tail
    next =>
      split
      next =>
        have whole := digits.of_sublist (List.take_sublist decimal.point.toNat _)
        have fraction := digits.of_sublist (List.drop_sublist decimal.point.toNat _)
        exact (whole.append (by decide)).append fraction
      next => exact (IsAscii.append (by decide) (isAscii_zeros _)).append digits
  next => exact isAscii_scientific digits _

theorem isAscii_render (value : Binary64) : IsAscii (Layout.json.render value) := by
  cases value with
  | nan negative => decide +revert
  | infinite negative => decide +revert
  | finite negative mantissa exponent =>
      rw [Layout.render]
      refine (isAscii_signText negative).append ?_
      split
      next => decide
      next => exact isAscii_magnitude _

end Decimal

namespace Json

/-! ## Strings -/

theorem isAscii_hexByte (byte : UInt8) : IsAscii (Text.hexByte Text.lowerHexDigits byte) := by
  have digit : ∀ value, Text.hexDigit Text.lowerHexDigits value ≤ 0x7F := by
    intro value
    have small : value % 16 < 16 := Nat.mod_lt value (by decide)
    have all : ∀ value < 16, Text.lowerHexDigits.getD value 48 ≤ 0x7F := by decide
    exact all _ small
  intro written member
  simp only [Text.hexByte, List.mem_cons, List.not_mem_nil, or_false] at member
  rcases member with rfl | rfl
  · exact digit _
  · exact digit _

theorem isAscii_shortEscape {byte letter : UInt8} (short : shortEscape? byte = some letter) :
    IsAscii [letter] := by
  simp only [shortEscape?] at short
  repeat' split at short
  all_goals cases short
  all_goals decide

theorem isAscii_escape {byte : UInt8} (low : byte ≤ 0x7F) : IsAscii (escape byte) := by
  rw [escape]
  split
  next letter short =>
    have backslash : IsAscii [92] := by decide
    exact backslash.append (isAscii_shortEscape short)
  next =>
    split
    next => exact IsAscii.append (by decide) (isAscii_hexByte byte)
    next => exact fun written member => List.mem_singleton.mp member ▸ low

theorem escape_of_high {byte : UInt8} (high : ¬ byte ≤ 0x7F) : escape byte = [byte] := by
  have large : ∀ other : UInt8, other ≤ 0x7F → byte ≠ other := by
    rintro other low rfl
    exact high low
  have long : shortEscape? byte = none := by
    simp [shortEscape?, large 34 (by decide), large 92 (by decide), large 8 (by decide),
      large 12 (by decide), large 10 (by decide), large 13 (by decide), large 9 (by decide)]
  have printable : ¬ byte < 32 := fun low => high (UInt8.le_trans (UInt8.le_of_lt low) (by decide))
  rw [escape, long]
  exact if_neg printable

/-- A string has a written form if it is UTF-8, and the form is UTF-8 too. -/
theorem quote_of_isValid {text : Bytes} (valid : isValid text = true) :
    ∃ document, quote text = .ok document ∧ isValid document = true := by
  rw [quote, Utf8.fault?_eq_none_iff.mpr valid]
  have mark : isValid [34] = true := by decide
  have written := Utf8.isValid_flatMap (fun _ => isAscii_escape) (fun _ => escape_of_high) valid
  exact ⟨_, rfl, Utf8.isValid_append (Utf8.isValid_append mark written) mark⟩

/-! ## Values -/

/-- A value whose texts, keys and strings alike, are UTF-8. -/
inductive IsUtf8 : Json → Prop
  | null : IsUtf8 .null
  | boolean (value : Bool) : IsUtf8 (.boolean value)
  | integer (value : Int) : IsUtf8 (.integer value)
  | double (value : Binary64) : IsUtf8 (.double value)
  | string {text : Bytes} (valid : isValid text = true) : IsUtf8 (.string text)
  | array {items : List Json} (valid : ∀ item ∈ items, IsUtf8 item) : IsUtf8 (.array items)
  | object {members : List (Bytes × Json)} (keys : ∀ member ∈ members, isValid member.1 = true)
      (values : ∀ member ∈ members, IsUtf8 member.2) : IsUtf8 (.object members)

/-- A document that is there and is UTF-8. -/
def IsWritable (value : Json) : Prop :=
  ∃ document, render value = .ok document ∧ isValid document = true

theorem renderItems_of_isWritable {items : List Json} (writable : ∀ item ∈ items, item.IsWritable) :
    ∃ documents, renderItems items = .ok documents ∧ ∀ text ∈ documents, isValid text = true := by
  induction items with
  | nil => exact ⟨[], by rw [renderItems], by simp⟩
  | cons item items ih =>
      obtain ⟨document, written, valid⟩ := writable item (by simp)
      obtain ⟨documents, rest, also⟩ := ih fun item member => writable item (by simp [member])
      refine ⟨document :: documents, ?_, List.forall_mem_cons.mpr ⟨valid, also⟩⟩
      rw [renderItems, written, rest]
      rfl

theorem renderMembers_of_isWritable {members : List (Bytes × Json)}
    (keys : ∀ member ∈ members, isValid member.1 = true)
    (writable : ∀ member ∈ members, member.2.IsWritable) :
    ∃ documents, renderMembers members = .ok documents ∧ ∀ text ∈ documents, isValid text = true := by
  induction members with
  | nil => exact ⟨[], by rw [renderMembers], by simp⟩
  | cons member members ih =>
      obtain ⟨name, quoted, named⟩ := quote_of_isValid (keys member (by simp))
      obtain ⟨document, written, valid⟩ := writable member (by simp)
      obtain ⟨documents, rest, also⟩ := ih (fun member present => keys member (by simp [present]))
        fun member present => writable member (by simp [present])
      have whole : isValid (name ++ [58] ++ document) = true :=
        Utf8.isValid_append (Utf8.isValid_append named (by decide)) valid
      refine ⟨_, ?_, List.forall_mem_cons.mpr ⟨whole, also⟩⟩
      rw [renderMembers, quoted, written, rest]
      rfl

theorem isValid_enclosed (first last : Bytes) {texts : List Bytes} (opening : isValid first = true)
    (closing : isValid last = true) (valid : ∀ text ∈ texts, isValid text = true) :
    isValid (first ++ Text.joinWith [44] texts ++ last) = true := by
  have comma : isValid [44] = true := by decide
  have inner := Utf8.isValid_joinWith comma valid
  exact Utf8.isValid_append (Utf8.isValid_append opening inner) closing

/-- A value whose texts are UTF-8 has a document, which is UTF-8. -/
theorem IsUtf8.isWritable {value : Json} (utf8 : value.IsUtf8) : value.IsWritable := by
  induction utf8 with
  | null => exact ⟨_, by rw [render], by decide⟩
  | boolean value => exact ⟨_, by rw [render], by cases value <;> decide⟩
  | integer value => exact ⟨_, by rw [render], (Utf8.isAscii_integer value).isValid⟩
  | double value => exact ⟨_, by rw [render], (Decimal.isAscii_render value).isValid⟩
  | string valid =>
      obtain ⟨document, quoted, also⟩ := quote_of_isValid valid
      exact ⟨document, by rw [render, quoted], also⟩
  | array _ ih =>
      obtain ⟨documents, written, valid⟩ := renderItems_of_isWritable ih
      refine ⟨_, ?_, isValid_enclosed [91] [93] (by decide) (by decide) valid⟩
      rw [render, written]
      rfl
  | object keys _ ih =>
      obtain ⟨documents, written, valid⟩ := renderMembers_of_isWritable keys ih
      refine ⟨_, ?_, isValid_enclosed [123] [125] (by decide) (by decide) valid⟩
      rw [render, written]
      rfl

theorem isValid_of_quote {text document : Bytes} (quoted : quote text = .ok document) :
    isValid text = true := by
  rw [quote] at quoted
  split at quoted
  next => cases quoted
  next sound => exact Utf8.fault?_eq_none_iff.mp sound

mutual

theorem isUtf8_of_render {value : Json} {document : Bytes} (written : render value = .ok document) :
    value.IsUtf8 := by
  match value with
  | .null => exact .null
  | .boolean value => exact .boolean value
  | .integer value => exact .integer value
  | .double value => exact .double value
  | .string text =>
      rw [render] at written
      exact .string (isValid_of_quote written)
  | .array items =>
      rw [render] at written
      obtain ⟨documents, rest, _⟩ := Except.exists_of_bind_eq_ok written
      exact .array (isUtf8_of_renderItems rest)
  | .object members =>
      rw [render] at written
      obtain ⟨documents, rest, _⟩ := Except.exists_of_bind_eq_ok written
      obtain ⟨keys, values⟩ := isUtf8_of_renderMembers rest
      exact .object keys values

theorem isUtf8_of_renderItems {items : List Json} {documents : List Bytes}
    (written : renderItems items = .ok documents) : ∀ item ∈ items, item.IsUtf8 := by
  match items with
  | [] => simp
  | item :: items =>
      rw [renderItems] at written
      obtain ⟨document, first, written⟩ := Except.exists_of_bind_eq_ok written
      obtain ⟨documents, rest, _⟩ := Except.exists_of_bind_eq_ok written
      exact List.forall_mem_cons.mpr ⟨isUtf8_of_render first, isUtf8_of_renderItems rest⟩

theorem isUtf8_of_renderMembers {members : List (Bytes × Json)} {documents : List Bytes}
    (written : renderMembers members = .ok documents) :
    (∀ member ∈ members, isValid member.1 = true) ∧ ∀ member ∈ members, member.2.IsUtf8 := by
  match members with
  | [] => simp
  | (key, value) :: members =>
      rw [renderMembers] at written
      obtain ⟨name, quoted, written⟩ := Except.exists_of_bind_eq_ok written
      obtain ⟨document, first, written⟩ := Except.exists_of_bind_eq_ok written
      obtain ⟨documents, rest, _⟩ := Except.exists_of_bind_eq_ok written
      obtain ⟨keys, values⟩ := isUtf8_of_renderMembers rest
      exact ⟨List.forall_mem_cons.mpr ⟨isValid_of_quote quoted, keys⟩,
        List.forall_mem_cons.mpr ⟨isUtf8_of_render first, values⟩⟩

end

end Json

end SandboxClient
