import SandboxClient.Proofs.Http.Sending
import SandboxClient.Proofs.Program.Time

/-!
# Programs carried over HTTP

A program whose calls are carried over HTTP does what the program does, with each call replaced by what
is done to send it.  So whatever holds of the calls of a program, for all answers, holds of the calls
that are carried, and each of them makes at most one transfer, to its address.
-/

namespace SandboxClient

/-- An action of a program whose calls are not carried over HTTP yet. -/
def Action.AboveHttp : Action → Prop
  | .acquire _ | .transfer _ => False
  | _ => True

theorem Action.aboveHttp_of_isQuiet {action : Action} (quiet : action.IsQuiet) : action.AboveHttp := by
  cases action <;> first | exact quiet.elim | trivial

/-- Some events with their calls replaced by what is done to send them. -/
inductive Carried : List Event → List Event → Prop
  | idle : Carried [] []
  | call {request : Request} {answer : Except Error Json} {sent events carried : List Event}
      (sending : (Exchange.send (some Exchange.logger) Exchange.defaultConnectTimeout
        request).outcome.Admits sent (some answer))
      (rest : Carried events carried) :
      Carried (⟨.request request, answer⟩ :: events) (sent ++ carried)
  | other {event : Event} {events carried : List Event} (quiet : event.action.IsQuiet)
      (rest : Carried events carried) : Carried (event :: events) (event :: carried)

/-- Whatever the transfer library reports, a program carried over HTTP behaves like the program. -/
theorem Program.admits_of_overHttp {Result : Type} {program : Program Result} {carried : List Event}
    {result? : Option Result} (above : program.Confined Action.AboveHttp)
    (admitted : program.overHttp.Admits carried result?) :
    ∃ events, program.Admits events result? ∧ Carried events carried := by
  induction program generalizing carried with
  | done result =>
      obtain ⟨rfl, rfl⟩ := admits_done_iff.mp admitted
      exact ⟨[], .done result, .idle⟩
  | stalled =>
      obtain ⟨rfl, rfl⟩ := admits_stalled_iff.mp admitted
      exact ⟨[], .stalled, .idle⟩
  | act action next ih =>
      have kept : action.IsQuiet → (Program.act action fun answer => (next answer).overHttp).Admits
          carried result? → ∃ events, (Program.act action next).Admits events result? ∧
            Carried events carried := by
        intro quiet admitted
        obtain ⟨answer, rest, rfl, follows⟩ := admits_act_iff.mp admitted
        obtain ⟨events, inner, carries⟩ := ih answer (above.2 answer) follows
        exact ⟨⟨action, answer⟩ :: events, .act answer inner, .other quiet carries⟩
      cases action with
      | request request =>
          rcases admits_bind_iff.mp admitted with
            ⟨answer, sent, later, rfl, sending, follows⟩ | ⟨stalls, _⟩
          · obtain ⟨events, inner, carries⟩ := ih answer (above.2 answer) follows
            exact ⟨⟨.request request, answer⟩ :: events,
              admits_act_iff.mpr ⟨answer, events, rfl, inner⟩, .call sending carries⟩
          · -- a send always comes to an end
            rcases Exchange.send_cases stalls with ⟨_, _, impossible⟩ | ⟨_, _, _, _, impossible⟩ <;>
              cases impossible
      | acquire resource => exact above.1.elim
      | transfer transfer => exact above.1.elim
      | _ => exact kept trivial admitted

/-- The clock of the program is the clock of the world that carries its calls. -/
theorem Carried.timePasses {events carried : List Event} (carries : Carried events carried)
    (passes : Event.TimePasses carried) : Event.TimePasses events := by
  obtain ⟨least, passes⟩ := passes
  refine ⟨least, ?_⟩
  induction carries generalizing least with
  | idle => trivial
  | call sending rest ih => exact ih least (passes.sublist (List.sublist_append_right _ _))
  | @other event events carried quiet rest ih =>
      obtain ⟨action, answer⟩ := event
      cases action with
      | now => exact ⟨passes.1, ih _ passes.2⟩
      | _ => exact ih _ passes

/-- Each call makes at most one transfer, to its own address, and the transfers keep the order of the
calls. -/
theorem Carried.transfers_sublist {events carried : List Event} (carries : Carried events carried) :
    ((Event.exchanges carried).map fun exchanged => exchanged.transfer.url).Sublist
      ((Event.contacts events).map fun contact => Text.upToNul contact.request.url) := by
  induction carries with
  | idle => exact .slnil
  | call sending _ ih =>
      rw [Event.exchanges_append, Event.contacts_request, List.map_append, List.map_cons]
      rcases Exchange.send_cases sending with ⟨unsent, _⟩ | ⟨content, outcome, _, sent, _⟩
      · rw [unsent]
        exact ih.cons _
      · rw [sent]
        exact ih.cons_cons _
  | @other event _ _ quiet _ ih =>
      obtain ⟨action, answer⟩ := event
      cases action <;> first | exact quiet.elim | exact ih

end SandboxClient
