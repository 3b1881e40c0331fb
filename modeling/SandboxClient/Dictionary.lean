import SandboxClient.Text

/-!
# Dictionaries

Finite maps from texts, kept as lists of pairs in ascending order of their keys.  Objects of a JSON
document, request headers, form fields and environment overrides are dictionaries, and the order in
which they are written out is the order of the list.
-/

namespace SandboxClient

/-- A finite map from texts, in ascending order of the keys. -/
abbrev Dictionary (Value : Type) := List (Bytes × Value)

namespace Dictionary

variable {Value : Type}

def get? (dictionary : Dictionary Value) (key : Bytes) : Option Value :=
  match dictionary with
  | [] => none
  | (first, value) :: rest => if first = key then some value else get? rest key

/-- Sets the value at a key, in place if the key is present. -/
def insert (dictionary : Dictionary Value) (key : Bytes) (value : Value) : Dictionary Value :=
  match dictionary with
  | [] => [(key, value)]
  | (first, present) :: rest =>
    if first = key then (key, value) :: rest
    else if key < first then (key, value) :: (first, present) :: rest
    else (first, present) :: insert rest key value

/-- Sets the values of all pairs in turn, so that of two equal keys the last one counts. -/
def insertAll (dictionary : Dictionary Value) (pairs : List (Bytes × Value)) : Dictionary Value :=
  pairs.foldl (fun result pair => insert result pair.1 pair.2) dictionary

/-- The dictionary of a list of pairs; of two equal keys the last one counts. -/
def ofList (pairs : List (Bytes × Value)) : Dictionary Value :=
  insertAll [] pairs

@[simp]
theorem get?_nil (key : Bytes) : get? ([] : Dictionary Value) key = none :=
  rfl

@[simp]
theorem get?_insert_self (dictionary : Dictionary Value) (key : Bytes) (value : Value) :
    get? (insert dictionary key value) key = some value := by
  induction dictionary with
  | nil => simp [insert, get?]
  | cons pair rest ih =>
      obtain ⟨first, present⟩ := pair
      simp only [insert]
      split
      · simp [get?]
      · split
        · simp [get?]
        · simp_all [get?]

theorem get?_insert_of_ne (dictionary : Dictionary Value) {key other : Bytes} (value : Value)
    (distinct : other ≠ key) :
    get? (insert dictionary key value) other = get? dictionary other := by
  induction dictionary with
  | nil => simp [insert, get?, Ne.symm distinct]
  | cons pair rest ih =>
      obtain ⟨first, present⟩ := pair
      simp only [insert]
      split
      · next same => simp [get?, same, Ne.symm distinct]
      · split
        · simp [get?, Ne.symm distinct]
        · simp [get?, ih]

end Dictionary

end SandboxClient
