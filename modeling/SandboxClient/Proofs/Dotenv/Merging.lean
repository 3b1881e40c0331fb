import SandboxClient.Dotenv
import SandboxClient.Proofs.Text.Reading

/-!
# Merging assignments into an environment

A variable that is set keeps its value, and one that is not gets the value of its first assignment.
Names and values count up to a zero byte.
-/

namespace SandboxClient

open Text (upToNul)

namespace Environment

variable {name other : Bytes}

theorem equals_notMem_of_canName (can : canName name = true) : (61 : UInt8) ∉ upToNul name := by
  simp only [canName, Bool.and_eq_true, Bool.not_eq_true', List.contains_eq_mem,
    decide_eq_false_iff_not] at can
  exact can.2

theorem upToNul_ne_nil_of_canName (can : canName name = true) : (upToNul name).isEmpty = false := by
  simp only [canName, Bool.and_eq_true, Bool.not_eq_true'] at can
  exact can.1

theorem canName_congr (same : upToNul other = upToNul name) : canName other = canName name := by
  rw [canName, canName, same]

/-- An entry tells the value of its variable and of no other. -/
theorem dropPrefix?_label_entry (can : canName name = true) (canOther : canName other = true)
    (value : Bytes) : Text.dropPrefix? (label name) (entry other value) =
      if upToNul other = upToNul name then some (upToNul value) else none := by
  split
  next same =>
    rw [entry, label, label, same]
    exact Text.dropPrefix?_append _ _
  next different =>
    rw [Option.eq_none_iff_forall_ne_some]
    rintro rest equal
    have shape := Text.dropPrefix?_eq_some_iff.mp equal
    have upToEquals : ∀ {text tail : Bytes}, (61 : UInt8) ∉ text →
        (text ++ 61 :: tail).takeWhile (· != 61) = text := by
      intro text tail absent
      rw [List.takeWhile_append_of_pos]
      · simp
      · intro byte member
        exact bne_iff_ne.mpr fun same => absent (same ▸ member)
    apply different
    have cut := congrArg (List.takeWhile (· != 61)) shape
    simp only [entry, label, List.append_assoc] at cut
    exact (upToEquals (equals_notMem_of_canName canOther)).symm.trans
      (cut.trans (upToEquals (equals_notMem_of_canName can)))

/-- Defining a variable sets it to the value if it has none before. -/
theorem value?_define (can : canName name = true) (environment : Environment) (value : Bytes) :
    (environment.define other value).1.value? name = (environment.value? name).or
      (if upToNul other = upToNul name then some (upToNul value) else none) := by
  have present : environment.value? name = environment.findSome? (Text.dropPrefix? (label name)) := by
    rw [value?, upToNul_ne_nil_of_canName can]
    rfl
  cases canOther : canName other with
  | false =>
      have different : upToNul other ≠ upToNul name := by
        intro same
        rw [canName_congr same, can] at canOther
        cases canOther
      rw [define, canOther, Bool.false_and, if_neg Bool.false_ne_true, if_neg different, Option.or_none]
  | true =>
      rw [define, canOther, Bool.true_and]
      cases set : environment.isSet other with
      | true =>
          rw [if_neg (by decide)]
          split
          next same =>
            have known : (environment.value? name).isSome := by
              rw [isSet, value?, label, same] at set
              exact set
            obtain ⟨former, known⟩ := Option.isSome_iff_exists.mp known
            rw [known, Option.some_or]
          next => rw [Option.or_none]
      | false =>
          rw [if_pos (by decide)]
          show value? (environment ++ [entry other value]) name = _
          rw [value?, upToNul_ne_nil_of_canName can, if_neg Bool.false_ne_true, List.findSome?_append,
            ← present]
          congr 1
          rw [← dropPrefix?_label_entry can canOther value, List.findSome?_singleton]

end Environment

namespace Dotenv

/-- The value that some assignments give a variable: that of the first one to its name. -/
def assigned? (assignments : List Assignment) (name : Bytes) : Option Bytes :=
  (assignments.find? fun assignment => upToNul assignment.name = upToNul name).map fun assignment =>
    upToNul assignment.value

/-- Whatever else is assigned, a variable keeps its value or gets that of the first assignment to it. -/
theorem value?_define {name : Bytes} (can : Environment.canName name = true)
    (assignments : List Assignment) (environment : Environment) :
    (define assignments environment).1.value? name =
      (environment.value? name).or (assigned? assignments name) := by
  induction assignments generalizing environment with
  | nil => exact Option.or_none.symm
  | cons assignment rest ih =>
      simp only [define]
      rw [ih, Environment.value?_define can, Option.or_assoc]
      congr 1
      rw [assigned?, assigned?, List.find?_cons]
      by_cases same : upToNul assignment.name = upToNul name
      · simp [same]
      · simp [same]

end Dotenv

end SandboxClient
