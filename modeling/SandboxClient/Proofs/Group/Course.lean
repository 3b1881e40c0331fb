import SandboxClient.Proofs.Group.Batches

/-!
# The course of a group start

How far the batches get, and what the members of each have done by then.
-/

namespace SandboxClient

namespace Group

variable {task : Sandbox → Program MemberOutcome} {width fork : Nat} {members : List Sandbox}
  {events : List GroupEvent} {ends : List (Option MemberOutcome)}
  {result? : Option (Except Error Unit × List Sandbox)}

/-- The course of a group start from a batch on: the members, the events, how the members of the
batches that were reached ended, and the result with the members afterwards. -/
inductive Course (task : Sandbox → Program MemberOutcome) (width : Nat) :
    (fork : Nat) → List Sandbox → List GroupEvent → List (Option MemberOutcome) →
      Option (Except Error Unit × List Sandbox) → Prop
  | finished {fork : Nat} : Course task width fork [] [] [] (some (.ok (), []))
  | stuck {fork : Nat} {batch others : List Sandbox} {events : List GroupEvent}
      {ends : List (Option MemberOutcome)} (next : NextBatch width batch others)
      (forked : GroupProgram.Forked (.task fork) (batch.map task) events ends)
      (missing : none ∈ ends) : Course task width fork (batch ++ others) events ends none
  | failed {fork : Nat} {batch others : List Sandbox} {events notes : List GroupEvent}
      {outcomes : List MemberOutcome} {error : Error} (next : NextBatch width batch others)
      (forked : GroupProgram.Forked (.task fork) (batch.map task) events (outcomes.map some))
      (quiet : Notes notes) (fails : firstError? outcomes = some error) :
      Course task width fork (batch ++ others) (events ++ notes) (outcomes.map some)
        (some (.error error, outcomes.map Prod.snd ++ others))
  | started {fork : Nat} {batch others : List Sandbox} {events notes later : List GroupEvent}
      {outcomes : List MemberOutcome} {ends : List (Option MemberOutcome)}
      {result? : Option (Except Error Unit × List Sandbox)} (next : NextBatch width batch others)
      (forked : GroupProgram.Forked (.task fork) (batch.map task) events (outcomes.map some))
      (quiet : Notes notes) (succeeds : firstError? outcomes = none)
      (rest : Course task width (fork + 1) others later ends result?) :
      Course task width fork (batch ++ others) (events ++ notes ++ later)
        (outcomes.map some ++ ends)
        (result?.map fun result => (result.1, outcomes.map Prod.snd ++ result.2))

theorem course_of_startBatches {patience started : Nat} {group : Group}
    (admitted : (startBatches patience group started (batches width members)).Admits fork events
      result?) :
    ∃ ends, Course (startMember patience group) width fork members events ends result? := by
  induction members using batches.induct width generalizing fork started events result? with
  | case1 =>
      simp only [batches, startBatches] at admitted
      obtain ⟨rfl, rfl⟩ := GroupProgram.admits_done_iff.mp admitted
      exact ⟨[], .finished⟩
  | case2 first rest ih =>
      have next := nextBatch_take width first rest
      have split_eq : first :: rest = (first :: rest.take width) ++ rest.drop width := by simp
      rw [batches, startBatches] at admitted
      rcases GroupProgram.admits_fork_iff.mp admitted with
        ⟨outcomes, forth, back, rfl, forked, follows⟩ | ⟨ends, forked, missing, rfl⟩
      · obtain ⟨notes, later, rfl, quiet, continued⟩ := admits_of_firstFailure follows
        cases error_eq : firstError? outcomes with
        | some error =>
            rw [error_eq] at continued
            obtain ⟨rfl, rfl⟩ := GroupProgram.admits_done_iff.mp continued
            rw [flatten_batches, split_eq, List.append_nil]
            exact ⟨_, .failed next forked quiet error_eq⟩
        | none =>
            rw [error_eq] at continued
            obtain ⟨answer, further, rfl, recursed⟩ := GroupProgram.admits_act_iff.mp continued
            have mapped : ((startBatches patience group (started + (first :: rest.take width).length)
                (batches width (rest.drop width))).bind fun result =>
                  .done (result.1, outcomes.map Prod.snd ++ result.2)).Admits (fork + 1) further
                    result? := recursed
            obtain ⟨inner?, inner, rfl⟩ := GroupProgram.admits_of_map mapped
            obtain ⟨ends, course⟩ := ih inner
            have noted : Notes (notes ++ [(.group, ⟨_, answer⟩)]) :=
              List.forall_mem_append.mpr ⟨quiet, List.forall_mem_singleton.mpr ⟨rfl, rfl⟩⟩
            refine ⟨outcomes.map some ++ ends, ?_⟩
            rw [split_eq]
            simpa using Course.started next forked noted error_eq course
      · rw [split_eq]
        exact ⟨ends, .stuck next forked missing⟩

namespace Course

theorem length_of_forked {batch : List Sandbox} {outcomes : List MemberOutcome}
    (forked : GroupProgram.Forked (.task fork) (batch.map task) events (outcomes.map some)) :
    outcomes.length = batch.length := by
  simpa using forked.length_eq

theorem length_le (course : Course task width fork members events ends result?) :
    ends.length ≤ members.length := by
  induction course with
  | finished => exact Nat.le_refl _
  | stuck next forked missing =>
      rw [forked.length_eq, List.length_map, List.length_append]
      omega
  | failed next forked quiet fails =>
      rw [forked.length_eq, List.length_map, List.length_append]
      omega
  | started next forked quiet succeeds rest ih =>
      rw [List.length_append, List.length_append, forked.length_eq, List.length_map]
      omega

theorem exists_actorAt {batch others : List Sandbox} (next : NextBatch width batch others)
    (forked : GroupProgram.Forked (.task fork) (batch.map task) events ends) :
    ∀ entry ∈ events, ∃ index, index < batch.length ∧ entry.1 = actorAt width fork index := by
  intro entry member
  obtain ⟨index, inside, actor_eq⟩ := forked.actors entry member
  rw [List.length_map] at inside
  have within : index < width + 1 := Nat.lt_of_lt_of_le inside next.length_le
  exact ⟨index, inside, by rw [actor_eq, actorAt_of_lt fork within]⟩

/-- Every event is a log record of the group or caused by a member that was reached. -/
theorem actors (course : Course task width fork members events ends result?) :
    ∀ entry ∈ events, (entry.1 = .group ∧ entry.2.action.isLog = true) ∨
      ∃ index, index < ends.length ∧ entry.1 = actorAt width fork index := by
  induction course with
  | finished => simp
  | stuck next forked missing =>
      intro entry member
      obtain ⟨index, inside, actor_eq⟩ := exists_actorAt next forked entry member
      exact .inr ⟨index, by simpa [forked.length_eq] using inside, actor_eq⟩
  | failed next forked quiet fails =>
      intro entry member
      rcases List.mem_append.mp member with first | second
      · obtain ⟨index, inside, actor_eq⟩ := exists_actorAt next forked entry first
        exact .inr ⟨index, by simpa [forked.length_eq] using inside, actor_eq⟩
      · exact .inl (quiet entry second)
  | @started fork batch others events notes later outcomes ends result? next forked quiet succeeds rest ih =>
      have counted := length_of_forked forked
      intro entry member
      rcases List.mem_append.mp member with before | third
      · rcases List.mem_append.mp before with first | second
        · obtain ⟨index, inside, actor_eq⟩ := exists_actorAt next forked entry first
          refine .inr ⟨index, ?_, actor_eq⟩
          rw [List.length_append, List.length_map]
          omega
        · exact .inl (quiet entry second)
      · rcases ih entry third with noted | ⟨index, inside, actor_eq⟩
        · exact .inl noted
        · have within : index < others.length := Nat.lt_of_lt_of_le inside rest.length_le
          refine .inr ⟨batch.length + index, ?_, by rw [actor_eq, next.actorAt_add within]⟩
          rw [List.length_append, List.length_map]
          omega

/-- A member that was not reached has done nothing. -/
theorem untouched (course : Course task width fork members events ends result?) {index : Nat}
    (beyond : ends.length ≤ index) : eventsOf (actorAt width fork index) events = [] := by
  apply eventsOf_eq_nil
  intro entry member same
  rcases course.actors entry member with ⟨noted, _⟩ | ⟨other, inside, actor_eq⟩
  · rw [noted] at same
    cases same
  · rw [actor_eq] at same
    have := actorAt_inj same
    omega

theorem absent_later {others : List Sandbox} {index : Nat}
    (course : Course task width (fork + 1) others events ends result?)
    (inside : index < width + 1) : eventsOf (actorAt width fork index) events = [] := by
  apply eventsOf_eq_nil
  intro entry member same
  rcases course.actors entry member with ⟨noted, _⟩ | ⟨other, _, actor_eq⟩
  · rw [noted] at same
    cases same
  · rw [actor_eq, actorAt_of_lt fork inside, actorAt, Actor.task.injEq] at same
    have later := Nat.zero_le (other / (width + 1))
    omega

theorem eventsOf_notes {notes : List GroupEvent} (quiet : Notes notes) (index : Nat) :
    eventsOf (actorAt width fork index) notes = [] := by
  apply eventsOf_eq_nil
  intro entry member same
  rw [(quiet entry member).1] at same
  cases same

theorem behaves_of_forked {batch others : List Sandbox} {index : Nat} {member : Sandbox}
    {outcome? : Option MemberOutcome} (next : NextBatch width batch others)
    (forked : GroupProgram.Forked (.task fork) (batch.map task) events ends)
    (member_eq : (batch ++ others)[index]? = some member) (end_eq : ends[index]? = some outcome?) :
    (task member).Admits (eventsOf (actorAt width fork index) events) outcome? := by
  have inside : index < batch.length := by
    have bounded := (List.getElem?_eq_some_iff.mp end_eq).1
    simpa [forked.length_eq] using bounded
  rw [actorAt_of_lt fork (Nat.lt_of_lt_of_le inside next.length_le)]
  rw [List.getElem?_append_left inside] at member_eq
  exact forked.behaves index (task member) outcome? (by simp [member_eq]) end_eq

/-- Each member that was reached has behaved like its task. -/
theorem behaves (course : Course task width fork members events ends result?) :
    ∀ (index : Nat) (member : Sandbox) (outcome? : Option MemberOutcome),
      members[index]? = some member → ends[index]? = some outcome? →
        (task member).Admits (eventsOf (actorAt width fork index) events) outcome? := by
  induction course with
  | finished => simp
  | stuck next forked missing =>
      intro index member outcome? member_eq end_eq
      exact behaves_of_forked next forked member_eq end_eq
  | @failed fork batch others events notes outcomes error next forked quiet fails =>
      intro index member outcome? member_eq end_eq
      rw [eventsOf_append, eventsOf_notes quiet, List.append_nil]
      exact behaves_of_forked next forked member_eq end_eq
  | @started fork batch others events notes later outcomes ends result? next forked quiet succeeds rest ih =>
      intro index member outcome? member_eq end_eq
      have counted := length_of_forked forked
      rw [eventsOf_append, eventsOf_append, eventsOf_notes quiet, List.append_nil]
      by_cases inside : index < batch.length
      · have within : index < width + 1 := Nat.lt_of_lt_of_le inside next.length_le
        rw [rest.absent_later within, List.append_nil]
        rw [List.getElem?_append_left (by simpa [counted] using inside)] at end_eq
        exact behaves_of_forked next forked member_eq end_eq
      · -- a member after the batch has a position in the rest, whose first fork is the next one
        obtain ⟨position, rfl⟩ : ∃ position, index = batch.length + position :=
          ⟨index - batch.length, by omega⟩
        have member_eq' : others[position]? = some member := by
          simpa [List.getElem?_append] using member_eq
        have end_eq' : ends[position]? = some outcome? := by
          simpa [List.getElem?_append, counted] using end_eq
        have within : position < others.length := (List.getElem?_eq_some_iff.mp member_eq').1
        rw [next.actorAt_add within]
        have earlier : eventsOf (actorAt width (fork + 1) position) events = [] := by
          apply eventsOf_eq_nil
          intro entry included same
          obtain ⟨other, bounded, actor_eq⟩ := exists_actorAt next forked entry included
          rw [actor_eq, ← next.actorAt_add within] at same
          have := actorAt_inj same
          omega
        rw [earlier, List.nil_append]
        exact ih position member outcome? member_eq' end_eq'

theorem not_batch_lt {batch others : List Sandbox} {notes : List GroupEvent} {entry : GroupEvent}
    {index earlier : Nat} (next : NextBatch width batch others)
    (forked : GroupProgram.Forked (.task fork) (batch.map task) events ends) (quiet : Notes notes)
    (member : entry ∈ events ++ notes) (actor_eq : entry.1 = actorAt width fork index) :
    ¬ earlier / (width + 1) < index / (width + 1) := by
  rcases List.mem_append.mp member with acted | noted
  · obtain ⟨other, inside, other_eq⟩ := exists_actorAt next forked entry acted
    rw [actor_eq] at other_eq
    rw [actorAt_inj other_eq, Nat.div_eq_of_lt (Nat.lt_of_lt_of_le inside next.length_le)]
    exact Nat.not_lt_zero _
  · rw [(quiet entry noted).1] at actor_eq
    cases actor_eq

/-- A list that is cut at an entry of its second part is cut in the second part. -/
theorem later_of_split {first later before after : List GroupEvent} {entry : GroupEvent}
    (split_eq : first ++ later = before ++ entry :: after) (absent : entry ∉ first) :
    ∃ between, later = between ++ entry :: after := by
  rcases List.append_eq_append_iff.mp split_eq with ⟨between, _, later_eq⟩ | ⟨rest, first_eq, tail_eq⟩
  · exact ⟨between, later_eq⟩
  · cases rest with
    | nil => exact ⟨[], by simpa using tail_eq.symm⟩
    | cons other rest =>
        obtain ⟨rfl, _⟩ := List.cons.inj tail_eq
        exact absurd (by simp [first_eq]) absent

/-- When a member acts, every member of an earlier batch has succeeded and does nothing more. -/
theorem ordered (course : Course task width fork members events ends result?) {before after : List GroupEvent}
    {entry : GroupEvent} (split_eq : events = before ++ entry :: after) {index earlier : Nat}
    (actor_eq : entry.1 = actorAt width fork index)
    (batch_lt : earlier / (width + 1) < index / (width + 1)) :
    eventsOf (actorAt width fork earlier) after = [] ∧
      ∃ handle, ends[earlier]? = some (some (.ok (), handle)) := by
  induction course generalizing before index earlier with
  | finished => simp at split_eq
  | @stuck fork batch others events ends next forked missing =>
      have noted : Notes [] := by simp [Notes]
      exact absurd batch_lt (not_batch_lt next forked noted (by simp [split_eq]) actor_eq)
  | @failed fork batch others events notes outcomes error next forked quiet fails =>
      exact absurd batch_lt (not_batch_lt next forked quiet (by simp [split_eq]) actor_eq)
  | @started fork batch others events notes later outcomes ends result? next forked quiet succeeds rest ih =>
      have absent : entry ∉ events ++ notes := fun member =>
        not_batch_lt next forked quiet member actor_eq batch_lt
      -- so the member acts in the rest, after everything that this batch did
      obtain ⟨between, rfl⟩ := later_of_split split_eq absent
      have counted := length_of_forked forked
      by_cases inside : earlier < batch.length
      · have within : earlier < width + 1 := Nat.lt_of_lt_of_le inside next.length_le
        have silent := rest.absent_later within
        have cut : between ++ entry :: after = between ++ [entry] ++ after := by simp
        rw [cut, eventsOf_append] at silent
        refine ⟨(List.append_eq_nil_iff.mp silent).2, ?_⟩
        have bounded : earlier < outcomes.length := by omega
        have succeeded := ok_of_firstError?_eq_none succeeds outcomes[earlier] (by simp)
        refine ⟨outcomes[earlier].2, ?_⟩
        rw [List.getElem?_append_left (by simpa using bounded), List.getElem?_map,
          List.getElem?_eq_getElem bounded, Option.map_some, ← succeeded]
      · rcases rest.actors entry (by simp) with ⟨noted, _⟩ | ⟨position, reached, position_eq⟩
        · rw [noted] at actor_eq
          cases actor_eq
        · have within : position < others.length := Nat.lt_of_lt_of_le reached rest.length_le
          have full := next.length_eq (List.ne_nil_of_length_pos (by omega))
          obtain ⟨previous, rfl⟩ : ∃ previous, earlier = width + 1 + previous :=
            ⟨earlier - (width + 1), by omega⟩
          have same : actorAt width fork index = actorAt width fork (width + 1 + position) := by
            rw [← actor_eq, position_eq, actorAt_add]
          obtain rfl := actorAt_inj same
          rw [Nat.add_div_left _ (Nat.succ_pos width), Nat.add_div_left _ (Nat.succ_pos width)]
            at batch_lt
          rw [actorAt_add]
          obtain ⟨silent, handle, end_eq⟩ := ih rfl position_eq (Nat.lt_of_succ_lt_succ batch_lt)
          refine ⟨silent, handle, ?_⟩
          have beyond : (outcomes.map some).length ≤ width + 1 + previous := by
            rw [List.length_map]
            omega
          rw [List.getElem?_append_right beyond]
          simpa [counted, full] using end_eq

/-! ## How it ends -/

/-- The number of members in the batches up to that of a member. -/
def reach (width count index : Nat) : Nat :=
  min count ((index / (width + 1) + 1) * (width + 1))

theorem reach_of_lt {batch others : List Sandbox} {index : Nat} (next : NextBatch width batch others)
    (inside : index < batch.length) : reach width (batch ++ others).length index = batch.length := by
  have bounded := next.length_le
  rw [reach, Nat.div_eq_of_lt (by omega), List.length_append, Nat.zero_add, Nat.one_mul]
  by_cases last : others = []
  · simp [last]
    omega
  · have full := next.length_eq last
    omega

theorem reach_add {batch others : List Sandbox} {index : Nat} (next : NextBatch width batch others)
    (inside : index < others.length) :
    reach width (batch ++ others).length (batch.length + index) =
      batch.length + reach width others.length index := by
  have full := next.length_eq (List.ne_nil_of_length_pos (by omega))
  rw [reach, reach, full, Nat.add_div_left _ (Nat.succ_pos width), List.length_append, full,
    Nat.succ_mul (index / (width + 1) + 1)]
  omega

/-- A start that never ends reached a batch with a member that never ended. -/
theorem endless (course : Course task width fork members events ends none) :
    ∃ index, ends[index]? = some none ∧ ends.length = reach width members.length index := by
  generalize result_eq : none = result? at course
  induction course with
  | finished => cases result_eq
  | @stuck fork batch others events ends next forked missing =>
      obtain ⟨index, end_eq⟩ := List.mem_iff_getElem?.mp missing
      have counted : ends.length = batch.length := by simpa using forked.length_eq
      have inside : index < batch.length := by
        rw [← counted]
        exact (List.getElem?_eq_some_iff.mp end_eq).1
      exact ⟨index, end_eq, by rw [reach_of_lt next inside, counted]⟩
  | failed next forked quiet fails => cases result_eq
  | @started fork batch others events notes later outcomes ends result? next forked quiet succeeds rest ih =>
      obtain ⟨index, end_eq, length_eq⟩ := ih (Option.map_eq_none_iff.mp result_eq.symm).symm
      have counted := length_of_forked forked
      have within : index < others.length :=
        Nat.lt_of_lt_of_le (List.getElem?_eq_some_iff.mp end_eq).1 rest.length_le
      refine ⟨batch.length + index, ?_, ?_⟩
      · simpa [List.getElem?_append, counted] using end_eq
      · rw [reach_add next within, ← length_eq]
        simp [counted]

/-- A start that succeeds has seen every member succeed. -/
theorem succeeded {after : List Sandbox}
    (course : Course task width fork members events ends (some (.ok (), after))) :
    ends = after.map (fun handle => some (.ok (), handle)) ∧ ends.length = members.length := by
  generalize result_eq : some (Except.ok (), after) = result? at course
  induction course generalizing after with
  | finished =>
      cases result_eq
      exact ⟨rfl, rfl⟩
  | stuck next forked missing => cases result_eq
  | failed next forked quiet fails => cases result_eq
  | @started fork batch others events notes later outcomes ends result? next forked quiet succeeds rest ih =>
      obtain ⟨⟨outcome, handles⟩, rfl, equal⟩ := Option.map_eq_some_iff.mp result_eq.symm
      cases equal
      obtain ⟨rfl, length_eq⟩ := ih rfl
      have counted := length_of_forked forked
      have handles_eq : outcomes.map some =
          (outcomes.map Prod.snd).map fun handle => some (Except.ok (), handle) := by
        rw [List.map_map]
        apply List.map_congr_left
        intro outcome member
        rw [Function.comp_apply, ← ok_of_firstError?_eq_none succeeds outcome member]
      refine ⟨by rw [handles_eq, List.map_append], ?_⟩
      simp only [List.length_append, List.length_map, counted] at length_eq ⊢
      omega

/-- A start that fails has reached a batch with a member that failed, has the error of the first of
them, and has seen every member up to the end of that batch to its end. -/
theorem failed_first {error : Error} {after : List Sandbox}
    (course : Course task width fork members events ends (some (.error error, after))) :
    ∃ (outcomes : List MemberOutcome) (index : Nat) (handle : Sandbox),
      ends = outcomes.map some ∧
      after = outcomes.map Prod.snd ++ members.drop outcomes.length ∧
      outcomes[index]? = some (.error error, handle) ∧
      (∀ earlier < index, ∃ handle, outcomes[earlier]? = some (.ok (), handle)) ∧
      outcomes.length = reach width members.length index := by
  generalize result_eq : some (Except.error error, after) = result? at course
  induction course generalizing after with
  | finished => cases result_eq
  | stuck next forked missing => cases result_eq
  | @failed fork batch others events notes outcomes other next forked quiet fails =>
      cases result_eq
      have counted := length_of_forked forked
      obtain ⟨index, handle, error_eq, before⟩ := exists_of_firstError?_eq_some fails
      have inside : index < batch.length := by
        rw [← counted]
        exact (List.getElem?_eq_some_iff.mp error_eq).1
      refine ⟨outcomes, index, handle, rfl, by simp [counted], error_eq, before, ?_⟩
      rw [reach_of_lt next inside, counted]
  | @started fork batch others events notes later outcomes ends result? next forked quiet succeeds rest ih =>
      obtain ⟨⟨outcome, handles⟩, rfl, equal⟩ := Option.map_eq_some_iff.mp result_eq.symm
      cases equal
      obtain ⟨further, index, handle, rfl, rfl, error_eq, before, length_eq⟩ := ih rfl
      have counted := length_of_forked forked
      have within : index < others.length := by
        have bounded := rest.length_le
        have inside := (List.getElem?_eq_some_iff.mp error_eq).1
        rw [List.length_map] at bounded
        omega
      refine ⟨outcomes ++ further, batch.length + index, handle, by simp, ?_, ?_, ?_, ?_⟩
      · simp [counted, List.drop_append]
      · simpa [List.getElem?_append, counted] using error_eq
      · intro earlier bound
        by_cases inside : earlier < outcomes.length
        · have ok_eq := ok_of_firstError?_eq_none succeeds outcomes[earlier] (by simp)
          refine ⟨outcomes[earlier].2, ?_⟩
          rw [List.getElem?_append_left inside, List.getElem?_eq_getElem inside, ← ok_eq]
        · obtain ⟨handle, ok_eq⟩ := before (earlier - outcomes.length) (by omega)
          refine ⟨handle, ?_⟩
          rw [List.getElem?_append_right (by omega)]
          exact ok_eq
      · rw [reach_add next within, ← length_eq]
        simp [counted]

end Course

end Group

end SandboxClient
