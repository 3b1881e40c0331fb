import SandboxClient.Program

/-!
# Rehearsals

A small world in which a run can be worked out by hand: the service answers from a list, and the clock
moves by the pauses only.
-/

namespace SandboxClient

/-- What is left to be answered, and the time in nanoseconds. -/
structure Rehearsal where
  replies : List (Except Error Json)
  clock : Int := 0

namespace Rehearsal

/-- The answer to an action.  A service without replies left fails. -/
def answer : (action : Action) → Rehearsal → action.Answer × Rehearsal
  | .request _, rehearsal =>
    match rehearsal.replies with
    | [] => (.error (.failure (utf8 "no reply left")), rehearsal)
    | reply :: replies => (reply, { rehearsal with replies })
  | .sleep millis, rehearsal =>
    ((), { rehearsal with clock := rehearsal.clock + millis * 1000000 })
  | .now, rehearsal => (rehearsal.clock, rehearsal)
  | .epochMillis, rehearsal => (rehearsal.clock.tdiv 1000000, rehearsal)
  | .acquire _, rehearsal => (true, rehearsal)
  | .transfer _, rehearsal => ({}, rehearsal)
  | .draw _, rehearsal => (0, rehearsal)
  | .loadFile _, rehearsal => (.missing, rehearsal)
  | .log _, rehearsal => ((), rehearsal)
  | .print _ _, rehearsal => ((), rehearsal)
  | .openLogging _, rehearsal => ((), rehearsal)
  | .closeLogging, rehearsal => ((), rehearsal)

def world : World Rehearsal := ⟨answer⟩

/-- The same world, but every call takes some nanoseconds. -/
def slowWorld (span : Int) : World Rehearsal where
  answer
    | .request request, rehearsal =>
      let (reply, after) := answer (.request request) rehearsal
      (reply, { after with clock := after.clock + span })
    | action, rehearsal => answer action rehearsal

/-- The same world, but the calls take some nanoseconds in turn. -/
def unevenWorld : World (Rehearsal × List Int) where
  answer
    | .request request, (rehearsal, spans) =>
      let (reply, after) := answer (.request request) rehearsal
      (reply, { after with clock := after.clock + spans.headD 0 }, spans.tail)
    | action, (rehearsal, spans) =>
      let (answer, after) := answer action rehearsal
      (answer, after, spans)

/-- A world that answers every request with a body alike, and one without by the time. -/
def timetable (posted : Except Error Json) (looked : (clock : Int) → Except Error Json) :
    World Int where
  answer
    | .request request, clock =>
      match request.payload with
      | .get => (looked clock, clock)
      | _ => (posted, clock)
    | action, clock =>
      let (answer, after) := answer action ⟨[], clock⟩
      (answer, after.clock)

/-- A reply that reports success with a result. -/
def success (members : List (Bytes × Json)) : Except Error Json :=
  .ok (.object [(utf8 "result", .object members), (utf8 "status", .string (utf8 "Success"))])

end Rehearsal

end SandboxClient
