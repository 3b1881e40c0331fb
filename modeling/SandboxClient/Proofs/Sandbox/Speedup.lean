import SandboxClient.Proofs.Detached.Protocol
import SandboxClient.Proofs.Sandbox.Service
import SandboxClient.Proofs.Text.Shell

/-!
# Scripts handed to the shell

The script of a package source is handed to the shell as one word.  Whatever the value in it, the shell reads
that word as the script, every byte of it quoted, and what the launch line says behind it is no part
of the word.
-/

namespace SandboxClient

namespace Speedup

open Shell Detached

/-- The launch line behind the command: where the output goes, and telling the process. -/
def lineEnd (file : Bytes) : Bytes :=
  utf8 " < /dev/null > " ++ file ++ utf8 " 2>&1 & echo " ++ startMarker ++ utf8 "$!" ++ endMarker ++
    utf8 ";disown"

/-- The command that hands over a script has three words, up to where no word goes on. -/
theorem nextWords_command (script : Bytes) {line : Bytes} (stops : Stops line) :
    nextWords 3 (command script ++ line) =
      some ([bare (utf8 "bash"), bare (utf8 "-c"), verbatim script], line) := by
  have shell : nextWord (command script ++ line) =
      some (bare (utf8 "bash"), utf8 " -c " ++ shellQuote script ++ line) := by rfl
  have option : nextWord (utf8 " -c " ++ shellQuote script ++ line) =
      some (bare (utf8 "-c"), utf8 " " ++ (shellQuote script ++ line)) := by rfl
  refine nextWords_cons shell (nextWords_cons option (nextWords_cons ?_ rfl))
  rw [nextWord_blank, nextWord_shellQuote script stops]

/-- A launch line has one word more, and its operators are all behind the last word. -/
theorem nextWords_launchLine (script file : Bytes) :
    nextWords 4 (launchLine (command script) file) =
      some ([bare (utf8 "nohup"), bare (utf8 "bash"), bare (utf8 "-c"), verbatim script],
        lineEnd file) := by
  have line_eq : launchLine (command script) file =
      utf8 "nohup " ++ (command script ++ lineEnd file) := by
    simp [launchLine, lineEnd]
  have first : nextWord (utf8 "nohup " ++ (command script ++ lineEnd file)) =
      some (bare (utf8 "nohup"), utf8 " " ++ (command script ++ lineEnd file)) := by rfl
  have stops : Stops (lineEnd file) := by
    rintro byte ⟨⟩
    rfl
  rw [line_eq]
  exact nextWords_cons first (nextWords_command script stops)

/-! ## Runs -/

variable {sandbox : Sandbox} {kind : Speedup} {value : Bytes} {patience : Nat} {timeout : Int}
  {events : List Event} {outcome? : Option (Except Error Observation)}

theorem exists_script (known : kind ≠ .unknown) (given : value ≠ []) :
    ∃ script, kind.script value = .ok script := by
  have present : value.isEmpty = false := by simpa using given
  cases kind with
  | unknown => exact absurd rfl known
  | _ => exact ⟨_, by rw [script, present]; rfl⟩

theorem script_unknown (given : value ≠ []) :
    script .unknown value = .error (.invalidParameter (utf8 "Unsupported speedup type")) := by
  have present : value.isEmpty = false := by simpa using given
  rw [script, present]
  rfl

/-- After a record, a script is run if there is one. -/
theorem admits_of_apply (live : sandbox.IsLive)
    (admitted : (apply patience sandbox kind value timeout).outcome.Admits events outcome?) :
    ∃ rest, Event.contacts events = Event.contacts rest ∧
      (Attempt.ofExcept (kind.script value) >>= fun script =>
        sandbox.run patience (command script) (options timeout)).outcome.Admits rest outcome? := by
  rw [apply, live.sandboxId, Attempt.outcome_ok_bind] at admitted
  exact Attempt.exists_of_log_bind admitted

/-- Whatever the value, the command that a run launches is a single word behind the call of the shell, which
is the script with every byte quoted, and the launch line goes on behind that word.  A kind that is not
known has no script and launches nothing. -/
theorem apply_hands_over_script (live : sandbox.IsLive) (given : value ≠ []) (patience : Nat)
    (timeout : Int) {State : Type} (world : World State) (state : State) :
    let run := (apply patience sandbox kind value timeout).outcome.run world state
    (kind = .unknown → Event.contacts run.events = [] ∧
      run.result? = some (.error (.invalidParameter (utf8 "Unsupported speedup type")))) ∧
    (kind ≠ .unknown → ∃ script word, kind.script value = .ok script ∧
      command script = utf8 "bash -c " ++ word ∧ nextWord word = some (verbatim script, []) ∧
      ∃ timestamp creation launch probes reading,
        Event.contacts run.events = creation ++ launch ++ probes ++ reading ∧
        Protocol sandbox (command script) (options timeout) patience timestamp run.result?.isSome
          creation launch probes reading ∧
        let file := fileOf (options timeout) timestamp
        nextWords 4 (launchLine (command script) file) =
          some ([bare (utf8 "nohup"), bare (utf8 "bash"), bare (utf8 "-c"), verbatim script],
            lineEnd file)) := by
  intro run
  obtain ⟨rest, contacts_eq, follows⟩ := admits_of_apply live
    (Program.admits_run world (apply patience sandbox kind value timeout).outcome state)
  constructor
  · rintro rfl
    rw [script_unknown given, Attempt.outcome_error_bind] at follows
    obtain ⟨rfl, result_eq⟩ := Program.admits_done_iff.mp follows
    exact ⟨contacts_eq, result_eq⟩
  · intro known
    obtain ⟨script, scripted⟩ := exists_script known given
    rw [scripted, Attempt.outcome_ok_bind, Sandbox.run, live.requireAlive,
      Attempt.outcome_ok_bind] at follows
    obtain ⟨timestamp, creation, launch, probes, reading, _, calls_eq, protocol⟩ :=
      protocol_of_run live follows
    have read := nextWord_shellQuote script (show Stops [] by rintro byte ⟨⟩)
    rw [List.append_nil] at read
    exact ⟨script, shellQuote script, scripted, rfl, read, timestamp, creation, launch, probes, reading,
      contacts_eq.trans calls_eq, protocol, nextWords_launchLine script _⟩

/-- An address that ends the quotes, starts a line of its own and has the signs of the shell in it. -/
theorem apply_hands_over_script_rehearsed :
    let sandbox : Sandbox := { config := { cpus := .finite false 1 0 }, routeKey := [], state := .alive,
                               id := utf8 "sb-1" }
    let value := utf8 "''\n$(reboot)\\; ' #"
    let replies := [
      Rehearsal.success [],
      Rehearsal.success [(utf8 "exit_code", .integer 0),
        (utf8 "output", .string (utf8 "__ROCK_PID_START__42__ROCK_PID_END__"))],
      Rehearsal.success [(utf8 "exit_code", .integer 1)],
      Rehearsal.success [(utf8 "output", .string (utf8 "done"))]]
    let run := (apply 3 sandbox .github value 300).outcome.run Rehearsal.world ⟨replies, 0⟩
    (sandbox.IsLive ∧ value ≠ []) ∧ run.result?.isSome = true ∧ (Event.contacts run.events).length = 4 ∧
      ∃ word, command (githubScript value) = utf8 "bash -c " ++ word ∧
        nextWord word = some (verbatim (githubScript value), []) := by
  intro sandbox value replies run
  have live : sandbox.IsLive := ⟨rfl, by decide⟩
  have given : value ≠ [] := by decide
  obtain ⟨_, word, ⟨⟩, command_eq, read, _⟩ :=
    (@apply_hands_over_script sandbox .github value live given 3 300 _ Rehearsal.world
      ⟨replies, 0⟩).2 (by decide)
  exact ⟨⟨live, given⟩, by rfl, by rfl, word, command_eq, read⟩

end Speedup

end SandboxClient
