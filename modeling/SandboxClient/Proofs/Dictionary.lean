import SandboxClient.Dictionary

/-!
# Dictionaries that are made of pairs

A dictionary that is made of pairs has every name once, and the value of a name is that of the last pair
with this name.  Pairs in layers, one after the other, give a name what the last layer gives it that has
the name at all.
-/

namespace SandboxClient

namespace Dictionary

variable {Value : Type} {dictionary : Dictionary Value} {pairs : List (Bytes × Value)} {key name : Bytes}
  {value : Value}

theorem mem_of_get?_eq_some (found : get? dictionary key = some value) : (key, value) ∈ dictionary := by
  induction dictionary with
  | nil => cases found
  | cons pair rest ih =>
      obtain ⟨first, present⟩ := pair
      rw [get?] at found
      split at found
      next same =>
        cases found
        simp [same]
      next => exact List.mem_cons_of_mem _ (ih found)

/-! ## Ascending order -/

/-- The names are in strictly ascending order, so that every name is there once. -/
def Ascending (dictionary : Dictionary Value) : Prop :=
  dictionary.Pairwise fun pair other => pair.1 < other.1

theorem eq_or_mem_of_mem_insert {pair : Bytes × Value} (member : pair ∈ insert dictionary key value) :
    pair = (key, value) ∨ pair ∈ dictionary := by
  induction dictionary with
  | nil => exact .inl (List.mem_singleton.mp member)
  | cons head rest ih =>
      obtain ⟨first, present⟩ := head
      rw [insert] at member
      split at member
      · exact (List.mem_cons.mp member).imp id (List.mem_cons_of_mem _)
      · split at member
        · exact List.mem_cons.mp member
        · rcases List.mem_cons.mp member with rfl | later
          · exact .inr List.mem_cons_self
          · exact (ih later).imp id (List.mem_cons_of_mem _)

theorem lt_of_ne_of_not_lt {first second : Bytes} (distinct : first ≠ second) (unordered : ¬ second < first) :
    first < second :=
  (List.le_iff_lt_or_eq.mp (List.not_lt.mp unordered)).resolve_right distinct

theorem Ascending.insert (ascending : Ascending dictionary) (key : Bytes) (value : Value) :
    Ascending (insert dictionary key value) := by
  induction dictionary with
  | nil => exact List.pairwise_singleton _ _
  | cons head rest ih =>
      obtain ⟨first, present⟩ := head
      obtain ⟨above, rising⟩ := List.pairwise_cons.mp ascending
      rw [Dictionary.insert]
      split
      next same => exact List.pairwise_cons.mpr ⟨same ▸ above, rising⟩
      next different =>
        split
        next before =>
          refine List.pairwise_cons.mpr ⟨?_, ascending⟩
          intro pair member
          rcases List.mem_cons.mp member with rfl | later
          · exact before
          · exact List.lt_trans before (above pair later)
        next behind =>
          refine List.pairwise_cons.mpr ⟨?_, ih rising⟩
          intro pair member
          rcases eq_or_mem_of_mem_insert member with rfl | later
          · exact lt_of_ne_of_not_lt different behind
          · exact above pair later

theorem Ascending.insertAll (ascending : Ascending dictionary) (pairs : List (Bytes × Value)) :
    Ascending (insertAll dictionary pairs) := by
  induction pairs generalizing dictionary with
  | nil => exact ascending
  | cons pair pairs ih => exact ih (ascending.insert pair.1 pair.2)

theorem ascending_ofList (pairs : List (Bytes × Value)) : Ascending (ofList pairs) :=
  Ascending.insertAll .nil pairs

theorem Ascending.get?_eq_some_iff (ascending : Ascending dictionary) :
    get? dictionary name = some value ↔ (name, value) ∈ dictionary := by
  refine ⟨mem_of_get?_eq_some, fun member => ?_⟩
  induction dictionary with
  | nil => cases member
  | cons head rest ih =>
      obtain ⟨first, present⟩ := head
      obtain ⟨above, rising⟩ := List.pairwise_cons.mp ascending
      rw [get?]
      rcases List.mem_cons.mp member with same | later
      · cases same
        exact if_pos rfl
      · have different : first ≠ name := by
          intro same
          exact List.lt_irrefl first (same ▸ above _ later)
        rw [if_neg different]
        exact ih rising later

/-- Dictionaries in ascending order that hold the same are the same. -/
theorem Ascending.eq_of_mem_iff {other : Dictionary Value} (ascending : Ascending dictionary)
    (rising : Ascending other) (same : ∀ pair, pair ∈ dictionary ↔ pair ∈ other) : dictionary = other := by
  have distinct : ∀ {dictionary : Dictionary Value}, Ascending dictionary → dictionary.Nodup := by
    intro dictionary ascending
    refine List.Pairwise.imp ?_ ascending
    rintro pair _ before rfl
    exact List.lt_irrefl _ before
  refine List.Perm.eq_of_pairwise ?_ ascending rising
    ((List.perm_ext_iff_of_nodup (distinct ascending) (distinct rising)).mpr same)
  intro pair among _ _ before behind
  exact (List.lt_asymm before behind).elim

/-! ## The last pair with a name -/

/-- No pair has the name. -/
def Lacks (pairs : List (Bytes × Value)) (name : Bytes) : Prop :=
  ∀ pair ∈ pairs, pair.1 ≠ name

/-- The last pair with the name has the value. -/
def Gives (pairs : List (Bytes × Value)) (name : Bytes) (value : Value) : Prop :=
  ∃ before after, pairs = before ++ (name, value) :: after ∧ Lacks after name

theorem not_gives_nil : ¬ Gives [] name value := by
  rintro ⟨before, after, empty, _⟩
  simp at empty

theorem gives_append_iff {first second : List (Bytes × Value)} :
    Gives (first ++ second) name value ↔
      Gives second name value ∨ Lacks second name ∧ Gives first name value := by
  constructor
  · rintro ⟨before, after, equal, lacks⟩
    rcases List.append_eq_append_iff.mp equal with ⟨between, rfl, rfl⟩ | ⟨between, rfl, rest⟩
    · exact .inl ⟨between, after, rfl, lacks⟩
    · cases between with
      | nil => exact .inl ⟨[], after, rest.symm, lacks⟩
      | cons pair between =>
          obtain ⟨rfl, rfl⟩ := List.cons.inj rest
          obtain ⟨early, late⟩ := List.forall_mem_append.mp lacks
          exact .inr ⟨late, before, between, rfl, early⟩
  · rintro (⟨before, after, rfl, lacks⟩ | ⟨late, before, after, rfl, early⟩)
    · exact ⟨first ++ before, after, by simp, lacks⟩
    · exact ⟨before, after ++ second, by simp, List.forall_mem_append.mpr ⟨early, late⟩⟩

/-- Where no name is there twice, every pair is the last one with its name. -/
theorem gives_iff_mem (distinct : pairs.Pairwise fun pair other => pair.1 ≠ other.1) :
    Gives pairs name value ↔ (name, value) ∈ pairs := by
  constructor
  · rintro ⟨before, after, rfl, _⟩
    simp
  · intro member
    obtain ⟨before, after, rfl⟩ := List.append_of_mem member
    obtain ⟨_, later, _⟩ := List.pairwise_append.mp distinct
    exact ⟨before, after, rfl, fun pair among => ((List.pairwise_cons.mp later).1 pair among).symm⟩

theorem gives_cons_iff {present : Value} :
    Gives ((key, present) :: pairs) name value ↔
      Gives pairs name value ∨ Lacks pairs name ∧ key = name ∧ present = value := by
  have single : Gives [(key, present)] name value ↔ key = name ∧ present = value := by
    rw [gives_iff_mem (List.pairwise_singleton _ _)]
    simp [eq_comm]
  rw [← List.singleton_append, gives_append_iff, single]

theorem get?_insertAll_iff :
    get? (insertAll dictionary pairs) name = some value ↔
      Gives pairs name value ∨ Lacks pairs name ∧ get? dictionary name = some value := by
  induction pairs generalizing dictionary with
  | nil => simp [insertAll, not_gives_nil, Lacks]
  | cons pair pairs ih =>
      obtain ⟨key, present⟩ := pair
      have inserted : insertAll dictionary ((key, present) :: pairs) =
          insertAll (Dictionary.insert dictionary key present) pairs := rfl
      rw [inserted, ih, gives_cons_iff]
      by_cases same : key = name
      · subst same
        simp [Lacks]
      · rw [get?_insert_of_ne dictionary present (Ne.symm same)]
        simp [Lacks, same]

/-- What a dictionary holds that is made of pairs. -/
theorem mem_ofList_iff : (name, value) ∈ ofList pairs ↔ Gives pairs name value := by
  rw [← (ascending_ofList pairs).get?_eq_some_iff, ofList, get?_insertAll_iff]
  simp

end Dictionary

end SandboxClient
