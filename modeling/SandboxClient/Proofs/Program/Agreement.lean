import SandboxClient.Proofs.Program.Contact

/-!
# Programs that agree

Two programs agree if they perform the same actions but for log records, as long as the answers they
get are alike, and end with the same result.  Run in worlds that answer them alike, programs that agree
cannot be told apart by what they do.
-/

namespace SandboxClient

namespace Program

variable {Result Other First Second : Type}
  {alike : (action : Action) → action.Answer → action.Answer → Prop}

/-- Two programs do the same, up to log records, as long as they get answers that are alike. -/
inductive Agrees (alike : (action : Action) → action.Answer → action.Answer → Prop) :
    Program Result → Program Result → Prop
  | done (result : Result) : Agrees alike (.done result) (.done result)
  | stalled : Agrees alike .stalled .stalled
  | act {action : Action} {next other : action.Answer → Program Result}
      (lasting : action.isLog = false)
      (follows : ∀ one another, alike action one another →
        Agrees alike (next one) (other another)) :
      Agrees alike (.act action next) (.act action other)
  | log_first {record : Log.Record} {next : (Action.log record).Answer → Program Result}
      {other : Program Result} (follows : Agrees alike (next ()) other) :
      Agrees alike (.act (.log record) next) other
  | log_second {record : Log.Record} {next : (Action.log record).Answer → Program Result}
      {other : Program Result} (follows : Agrees alike other (next ())) :
      Agrees alike other (.act (.log record) next)

namespace Agrees

theorem log_both {record other : Log.Record} {next : (Action.log record).Answer → Program Result}
    {next' : (Action.log other).Answer → Program Result}
    (follows : Agrees alike (next ()) (next' ())) :
    Agrees alike (.act (.log record) next) (.act (.log other) next') :=
  .log_first (.log_second follows)

theorem bind {one another : Program Result} {next other : Result → Program Other}
    (agrees : one.Agrees alike another) (follows : ∀ result, (next result).Agrees alike (other result)) :
    (one.bind next).Agrees alike (another.bind other) := by
  induction agrees with
  | done result => exact follows result
  | stalled => exact .stalled
  | act lasting _ ih => exact .act lasting ih
  | log_first _ ih => exact .log_first ih
  | log_second _ ih => exact .log_second ih

theorem refl (equal : ∀ action one another, alike action one another → one = another)
    (program : Program Result) : program.Agrees alike program := by
  induction program with
  | done result => exact .done result
  | stalled => exact .stalled
  | act action next ih =>
      cases lasting : action.isLog with
      | false =>
          refine .act lasting ?_
          intro one another same
          rw [equal action one another same]
          exact ih another
      | true =>
          cases action with
          | log record => exact .log_both (ih ())
          | _ => cases lasting

end Agrees

end Program

end SandboxClient
