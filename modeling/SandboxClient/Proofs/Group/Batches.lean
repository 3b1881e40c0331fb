import SandboxClient.Proofs.Group.Behaviour
import SandboxClient.Proofs.Program.Contact
import SandboxClient.Group.Basic

/-!
# Batches

A group starts its members batch by batch.  This file describes how far the batches get and what the
members of each have done by then, and numbers the members through all batches: each member belongs to
one batch and acts as one task of it.
-/

namespace SandboxClient

namespace Group

/-! ## Cutting into batches -/

theorem flatten_batches {Element : Type} (width : Nat) (elements : List Element) :
    (batches width elements).flatten = elements := by
  induction elements using batches.induct width with
  | case1 => simp [batches]
  | case2 first rest ih => simp [batches, ih]

/-- Members that are the next batch before the others: as many as fit, and all there are if they are
fewer. -/
structure NextBatch (width : Nat) (batch others : List Sandbox) : Prop where
  length_le : batch.length ≤ width + 1
  length_eq : others ≠ [] → batch.length = width + 1

theorem nextBatch_take (width : Nat) (first : Sandbox) (rest : List Sandbox) :
    NextBatch width (first :: rest.take width) (rest.drop width) where
  length_le := by
    rw [List.length_cons, List.length_take]
    omega
  length_eq := by
    intro more
    have longer : width < rest.length := by
      by_cases short : rest.length ≤ width
      · exact absurd (List.drop_eq_nil_of_le short) more
      · omega
    rw [List.length_cons, List.length_take]
    omega

/-- The task that a member acts as, by its number, if the first batch is the fork of a number. -/
def actorAt (width fork index : Nat) : Actor :=
  .task (fork + index / (width + 1)) (index % (width + 1))

theorem actorAt_of_lt {width index : Nat} (fork : Nat) (inside : index < width + 1) :
    actorAt width fork index = .task fork index := by
  simp [actorAt, Nat.div_eq_of_lt inside, Nat.mod_eq_of_lt inside]

theorem actorAt_add (width fork index : Nat) :
    actorAt width fork (width + 1 + index) = actorAt width (fork + 1) index := by
  have quotient : (width + 1 + index) / (width + 1) = index / (width + 1) + 1 :=
    Nat.add_div_left index (Nat.succ_pos width)
  rw [actorAt, actorAt, quotient, Nat.add_mod_left, Nat.add_assoc fork 1, Nat.add_comm 1]

theorem NextBatch.actorAt_add {width index : Nat} {batch others : List Sandbox}
    (next : NextBatch width batch others) (inside : index < others.length) (fork : Nat) :
    actorAt width fork (batch.length + index) = actorAt width (fork + 1) index := by
  have more : others ≠ [] := List.ne_nil_of_length_pos (by omega)
  rw [next.length_eq more, Group.actorAt_add]

theorem actorAt_inj {width fork index other : Nat}
    (same : actorAt width fork index = actorAt width fork other) : index = other := by
  simp only [actorAt, Actor.task.injEq] at same
  have quotients : index / (width + 1) = other / (width + 1) := by omega
  rw [← Nat.div_add_mod index (width + 1), ← Nat.div_add_mod other (width + 1), quotients, same.2]

/-! ## The first failure -/

def firstError? : List MemberOutcome → Option Error
  | [] => none
  | (.ok (), _) :: outcomes => firstError? outcomes
  | (.error error, _) :: _ => some error

theorem ok_of_firstError?_eq_none {outcomes : List MemberOutcome}
    (succeeds : firstError? outcomes = none) : ∀ outcome ∈ outcomes, outcome.1 = .ok () := by
  induction outcomes with
  | nil => simp
  | cons outcome outcomes ih =>
      obtain ⟨result, handle⟩ := outcome
      cases result with
      | ok result => simpa using ih succeeds
      | error error => cases succeeds

theorem exists_of_firstError?_eq_some {outcomes : List MemberOutcome} {error : Error}
    (fails : firstError? outcomes = some error) :
    ∃ (index : Nat) (handle : Sandbox), outcomes[index]? = some (.error error, handle) ∧
      ∀ earlier < index, ∃ handle, outcomes[earlier]? = some (.ok (), handle) := by
  induction outcomes with
  | nil => cases fails
  | cons outcome outcomes ih =>
      obtain ⟨result, handle⟩ := outcome
      cases result with
      | error other =>
          obtain rfl := Option.some.inj fails
          exact ⟨0, handle, rfl, by simp⟩
      | ok result =>
          obtain ⟨index, failed, error_eq, before⟩ := ih fails
          refine ⟨index + 1, failed, by simpa using error_eq, ?_⟩
          intro earlier bound
          cases earlier with
          | zero => exact ⟨handle, rfl⟩
          | succ earlier => simpa using before earlier (by omega)

/-- Log records of the group itself. -/
def Notes (events : List GroupEvent) : Prop :=
  ∀ entry ∈ events, entry.1 = .group ∧ entry.2.action.isLog = true

theorem admits_of_firstFailure {Result : Type} {logger : Bytes} {index fork : Nat}
    {outcomes : List MemberOutcome} {continuation : Option Error → GroupProgram Result}
    {events : List GroupEvent} {result? : Option Result}
    (admitted : ((firstFailure logger index outcomes).bind continuation).Admits fork events result?) :
    ∃ notes rest, events = notes ++ rest ∧ Notes notes ∧
      (continuation (firstError? outcomes)).Admits fork rest result? := by
  induction outcomes generalizing index events continuation with
  | nil => exact ⟨[], events, rfl, by simp [Notes], admitted⟩
  | cons outcome outcomes ih =>
      obtain ⟨result, handle⟩ := outcome
      cases result with
      | ok result => exact ih admitted
      | error error =>
          obtain ⟨answer, later, rfl, follows⟩ := GroupProgram.admits_act_iff.mp admitted
          have nested : (((firstFailure logger (index + 1) outcomes).bind fun _ =>
              .done (some error)).bind continuation).Admits fork later result? := follows
          rw [GroupProgram.bind_assoc] at nested
          obtain ⟨notes, rest, rfl, quiet, continued⟩ := ih nested
          exact ⟨_ :: notes, rest, rfl, List.forall_mem_cons.mpr ⟨⟨rfl, rfl⟩, quiet⟩, continued⟩

end Group

end SandboxClient
