import SandboxClient.Detached.Marker
import SandboxClient.Proofs.Text.Reading

/-!
# Which process number is taken

A marked number may begin at several places of an output, next to incomplete, nested and overlapping
markers.  The leftmost place decides alone: its number is the process number if that is a signed 64-bit
integer, and otherwise there is none, whatever stands behind it.
-/

namespace SandboxClient

namespace Detached

variable {output text digits : Bytes} {place : Nat}

/-- A marked number begins at a place: a start marker, at least one digit and an end marker. -/
def MarkedAt (output : Bytes) (place : Nat) (digits : Bytes) : Prop :=
  digits ≠ [] ∧ (∀ byte ∈ digits, Text.isDigit byte = true) ∧
    startMarker ++ digits ++ endMarker <+: output.drop place

/-- A marked number begins at a place, and none does before it. -/
def LeftmostMarkedAt (output : Bytes) (place : Nat) (digits : Bytes) : Prop :=
  MarkedAt output place digits ∧ ∀ earlier < place, ∀ other, ¬ MarkedAt output earlier other

theorem not_markedAt_nil : ¬ MarkedAt [] place digits := by
  rintro ⟨_, _, marked⟩
  have length_le := marked.length_le
  have nonempty : 0 < startMarker.length := by decide
  simp only [List.drop_nil, List.length_append, List.length_nil] at length_le
  omega

/-- The digits between two markers are all the digits behind the first one, since the second one does not
begin with a digit. -/
theorem markedDigits?_eq_some_iff : markedDigits? text = some digits ↔ MarkedAt text 0 digits := by
  constructor
  · intro read
    rw [markedDigits?] at read
    split at read
    next => cases read
    next rest cut =>
      dsimp only at read
      split at read
      next => cases read
      next nonempty =>
        split at read
        next closed =>
          cases read
          obtain ⟨tail, dropped⟩ := Option.isSome_iff_exists.mp closed
          have text_eq := Text.dropPrefix?_eq_some_iff.mp cut
          have tail_eq := Text.dropPrefix?_eq_some_iff.mp dropped
          refine ⟨by simpa using nonempty, ?_, tail, ?_⟩
          · exact List.all_eq_true.mp List.all_takeWhile
          · rw [List.drop_zero, text_eq, List.append_assoc, List.append_assoc, ← tail_eq,
              List.takeWhile_append_dropWhile]
        next => cases read
  · rintro ⟨nonempty, numeral, tail, marked⟩
    have closing : endMarker ++ tail = 95 :: (endMarker.tail ++ tail) := rfl
    have taken : (digits ++ (endMarker ++ tail)).takeWhile Text.isDigit = digits := by
      rw [List.takeWhile_append_of_pos numeral, closing, List.takeWhile_cons_of_neg (by decide),
        List.append_nil]
    have left : (digits ++ (endMarker ++ tail)).dropWhile Text.isDigit = endMarker ++ tail := by
      rw [List.dropWhile_append_of_pos numeral, closing, List.dropWhile_cons_of_neg (by decide)]
    rw [List.drop_zero] at marked
    simp [markedDigits?, ← marked, List.append_assoc, Text.dropPrefix?_append, taken, left,
      Text.startsWith_append, nonempty]

theorem firstMarked?_eq_some_iff :
    firstMarked? output = some digits ↔ ∃ place, LeftmostMarkedAt output place digits := by
  induction output with
  | nil => simp [firstMarked?, LeftmostMarkedAt, not_markedAt_nil]
  | cons byte text ih =>
      rw [firstMarked?]
      cases here : markedDigits? (byte :: text) with
      | some found =>
          have marked := markedDigits?_eq_some_iff.mp here
          constructor
          · rintro ⟨⟩
            exact ⟨0, marked, by simp⟩
          · rintro ⟨place, at_place, first⟩
            cases place with
            | zero => rw [← here, markedDigits?_eq_some_iff.mpr at_place]
            | succ place => exact (first 0 (Nat.succ_pos place) found marked).elim
      | none =>
          have unmarked : ∀ other, ¬ MarkedAt (byte :: text) 0 other := by
            intro other marked
            rw [markedDigits?_eq_some_iff.mpr marked] at here
            cases here
          simp only [ih]
          constructor
          · rintro ⟨place, at_place, first⟩
            refine ⟨place + 1, at_place, ?_⟩
            intro earlier before other
            cases earlier with
            | zero => exact unmarked other
            | succ earlier => exact first earlier (Nat.lt_of_succ_lt_succ before) other
          · rintro ⟨place, at_place, first⟩
            cases place with
            | zero => exact (unmarked digits at_place).elim
            | succ place =>
                exact ⟨place, at_place, fun earlier before =>
                  first (earlier + 1) (Nat.succ_lt_succ before)⟩

/-- Of the places where marked numbers begin, one is the leftmost. -/
theorem MarkedAt.exists_leftmost (marked : MarkedAt output place digits) :
    ∃ first found, LeftmostMarkedAt output first found := by
  classical
  have present : ∃ place found, MarkedAt output place found := ⟨place, digits, marked⟩
  obtain ⟨found, at_first⟩ := Nat.find_spec present
  refine ⟨Nat.find present, found, at_first, ?_⟩
  intro earlier before other marked
  exact Nat.find_min present before ⟨other, marked⟩

theorem firstMarked?_eq_none_iff :
    firstMarked? output = none ↔ ∀ place digits, ¬ MarkedAt output place digits := by
  constructor
  · intro unmarked place digits marked
    obtain ⟨first, found, leftmost⟩ := marked.exists_leftmost
    rw [firstMarked?_eq_some_iff.mpr ⟨first, leftmost⟩] at unmarked
    cases unmarked
  · intro unmarked
    rw [Option.eq_none_iff_forall_ne_some]
    intro digits found
    obtain ⟨place, at_place, _⟩ := firstMarked?_eq_some_iff.mp found
    exact unmarked place digits at_place

theorem processId?_eq_of_firstMarked? (found : firstMarked? output = some digits) :
    processId? output =
      if Text.denoted digits ≤ 2 ^ 63 - 1 then some (Text.denoted digits) else none := by
  have limit : Text.denoted digits < Nat.pow 2 63 ↔ Text.denoted digits ≤ 2 ^ 63 - 1 :=
    Nat.lt_succ_iff
  simp only [processId?, found, Text.numeralValue_eq_denoted, limit]

theorem processId?_eq_some_iff {processId : Nat} :
    processId? output = some processId ↔
      ∃ digits, firstMarked? output = some digits ∧ Text.denoted digits = processId ∧
        processId ≤ 2 ^ 63 - 1 := by
  cases found : firstMarked? output with
  | none => simp [processId?, found]
  | some digits =>
      rw [processId?_eq_of_firstMarked? found]
      constructor
      · intro read
        obtain ⟨small, ⟨⟩⟩ := Option.ite_none_right_eq_some.mp read
        exact ⟨digits, rfl, rfl, small⟩
      · rintro ⟨_, ⟨⟩, rfl, small⟩
        exact if_pos small

theorem processId?_eq_none_iff :
    processId? output = none ↔ firstMarked? output = none ∨
      ∃ digits, firstMarked? output = some digits ∧ 2 ^ 63 - 1 < Text.denoted digits := by
  cases found : firstMarked? output with
  | none => simp [processId?, found]
  | some digits => simp [processId?_eq_of_firstMarked? found]

/-- The process number of an output is the number that its leftmost marked number denotes.  There is none
if nothing is marked, or if that number is no signed 64-bit integer. -/
theorem processId?_tells_leftmost (output : Bytes) :
    (∀ processId, processId? output = some processId ↔
      ∃ place digits, LeftmostMarkedAt output place digits ∧ Text.denoted digits = processId ∧
        processId ≤ 2 ^ 63 - 1) ∧
    (processId? output = none ↔
      (∀ place digits, ¬ MarkedAt output place digits) ∨
        ∃ place digits, LeftmostMarkedAt output place digits ∧
          2 ^ 63 - 1 < Text.denoted digits) := by
  constructor
  · intro processId
    rw [processId?_eq_some_iff, exists_comm]
    simp only [firstMarked?_eq_some_iff, exists_and_right]
  · rw [processId?_eq_none_iff, exists_comm, firstMarked?_eq_none_iff]
    simp only [firstMarked?_eq_some_iff, exists_and_right]

/-- An incomplete and a nested marker come before the marked number that is taken. -/
example : processId? (utf8 "__ROCK_PID_START__7__ROCK_PID_START__007__ROCK_PID_END__8__ROCK_PID_END__") =
    some 7 := by
  decide

end Detached

end SandboxClient
