import SandboxClient.Proofs.Detached.Extraction

/-!
# The launcher and the reader of process numbers agree

A shell may echo the line that launches a command before it prints the marked process number, and other
output may stand around both.  None of it is taken for a marked number: what is between two markers of
the launch line is no numeral, and a start marker that begins inside the noise and ends inside the real
one is followed by a letter or an underscore.
-/

namespace SandboxClient

namespace Detached

variable {noise text command file : Bytes}

/-! ## Text that is passed over -/

/-- No start marker that begins before a text and ends inside it has a digit behind it. -/
def Fences (text : Bytes) : Prop :=
  ∀ before inside after, before ≠ [] → inside ≠ [] → startMarker = before ++ inside →
    text = inside ++ after → after.takeWhile Text.isDigit = []

theorem fences_nil : Fences [] := by
  intro before inside after _ nonempty _ cut
  have none_inside : inside = [] := (List.append_eq_nil_iff.mp cut.symm).1
  exact absurd none_inside nonempty

/-- A text that starts with a byte no marker has cuts every marker short. -/
theorem fences_of_head {byte : UInt8} (foreign : byte ∉ startMarker) : Fences (byte :: text) := by
  intro before inside after _ nonempty marker cut
  cases inside with
  | nil => exact absurd rfl nonempty
  | cons first inside =>
      obtain ⟨rfl, _⟩ := List.cons.inj cut
      exact absurd (by simp [marker]) foreign

/-- Words that start with such a byte are a fence as well, whatever follows them. -/
theorem fences_words_append {words : Bytes} (foreign : words.headD 95 ∉ startMarker) :
    Fences (words ++ text) := by
  cases words with
  | nil => exact absurd (by decide) foreign
  | cons byte words => exact fences_of_head foreign

theorem isDigit_eq_false_of_mem_startMarker {byte : UInt8} (member : byte ∈ startMarker) :
    Text.isDigit byte = false := by
  have letters : (startMarker.all fun other => !Text.isDigit other) = true := by decide
  simpa using List.all_eq_true.mp letters byte member

/-- A marker that begins early ends before the real one does, and what is left of that is no digit. -/
theorem fences_startMarker : Fences (startMarker ++ text) := by
  intro before inside after early _ marker cut
  have shorter : inside.length < startMarker.length := by
    have positive := List.length_pos_iff.mpr early
    rw [marker, List.length_append]
    omega
  rcases List.append_eq_append_iff.mp cut with ⟨rest, inside_eq, _⟩ | ⟨rest, marker_eq, after_eq⟩
  · rw [inside_eq, List.length_append] at shorter
    omega
  · cases rest with
    | nil =>
        rw [marker_eq, List.append_nil] at shorter
        omega
    | cons byte rest =>
        have letter := isDigit_eq_false_of_mem_startMarker
          (show byte ∈ startMarker by simp [marker_eq])
        rw [after_eq, List.cons_append, List.takeWhile_cons_of_neg (by simp [letter])]

theorem markedDigits?_eq_none
    (unmarked : ∀ rest, text = startMarker ++ rest → rest.takeWhile Text.isDigit = []) :
    markedDigits? text = none := by
  rw [markedDigits?]
  cases cut : Text.dropPrefix? startMarker text with
  | none => rfl
  | some rest =>
      have digits := unmarked rest (Text.dropPrefix?_eq_some_iff.mp cut)
      simp [digits]

theorem not_infix_of_shorter (shorter : text.length < startMarker.length) :
    ¬ startMarker <:+: text :=
  fun found => absurd found.length_le (Nat.not_le.mpr shorter)

/-- Noise without a start marker is passed over, whatever the text behind it is, as long as that fences
the noise off. -/
theorem firstMarked?_noise_append (free : ¬ startMarker <:+: noise) (fences : Fences text) :
    firstMarked? (noise ++ text) = firstMarked? text := by
  induction noise with
  | nil => rfl
  | cons byte noise ih =>
      have here : markedDigits? (byte :: (noise ++ text)) = none := by
        apply markedDigits?_eq_none
        intro rest cut
        rw [← List.cons_append] at cut
        -- the marker either ends within the noise, which has none, or reaches into the text
        rcases List.append_eq_append_iff.mp cut with ⟨inside, marker, text_eq⟩ | ⟨more, noise_eq, _⟩
        · cases inside with
          | nil =>
              rw [List.append_nil] at marker
              exact absurd (marker ▸ List.infix_rfl) free
          | cons first inside =>
              exact fences _ _ rest (List.cons_ne_nil byte noise) (List.cons_ne_nil first inside)
                marker text_eq
        · exact absurd (noise_eq ▸ (List.prefix_append startMarker more).isInfix) free
      have rest_free : ¬ startMarker <:+: noise := fun found => free (List.infix_cons found)
      simp only [List.cons_append, firstMarked?, here]
      exact ih rest_free

/-- Words without the byte that markers begin with are passed over, whatever follows. -/
theorem firstMarked?_words_append {words : Bytes} (plain : 95 ∉ words) (text : Bytes) :
    firstMarked? (words ++ text) = firstMarked? text := by
  induction words with
  | nil => rfl
  | cons byte words ih =>
      rw [List.mem_cons, not_or] at plain
      obtain ⟨other, rest_plain⟩ := plain
      have here : markedDigits? (byte :: (words ++ text)) = none := by
        apply markedDigits?_eq_none
        intro rest cut
        have first : byte = 95 := (List.cons.inj cut).1
        exact absurd first.symm other
      simp only [List.cons_append, firstMarked?, here]
      exact ih rest_plain

/-! ## The launch line -/

/-- A start marker that has no digit behind it is passed over. -/
theorem firstMarked?_startMarker_append (letter : text.takeWhile Text.isDigit = [])
    (fences : Fences text) : firstMarked? (startMarker ++ text) = firstMarked? text := by
  have here : markedDigits? (startMarker ++ text) = none := by
    apply markedDigits?_eq_none
    intro rest cut
    rw [← List.append_cancel_left cut, letter]
  -- from the second byte on the marker is noise like any other
  have split : startMarker = 95 :: startMarker.tail := by decide
  have tail_free : ¬ startMarker <:+: startMarker.tail := not_infix_of_shorter (by decide)
  rw [split, List.cons_append] at here ⊢
  rw [firstMarked?, here]
  exact firstMarked?_noise_append tail_free fences

/-- The line that launches a command is passed over, if neither the command nor the file has a start
marker. -/
theorem firstMarked?_launchLine_append (commandFree : ¬ startMarker <:+: command)
    (fileFree : ¬ startMarker <:+: file) (text : Bytes) :
    firstMarked? (launchLine command file ++ text) = firstMarked? text := by
  have endFree : ¬ startMarker <:+: endMarker := not_infix_of_shorter (by decide)
  simp only [launchLine, List.append_assoc]
  calc firstMarked? (utf8 "nohup " ++ (command ++ (utf8 " < /dev/null > " ++ (file ++
          (utf8 " 2>&1 & echo " ++ (startMarker ++ (utf8 "$!" ++ (endMarker ++
            (utf8 ";disown" ++ text)))))))))
      = firstMarked? (utf8 " < /dev/null > " ++ (file ++ (utf8 " 2>&1 & echo " ++ (startMarker ++
          (utf8 "$!" ++ (endMarker ++ (utf8 ";disown" ++ text))))))) := by
        rw [firstMarked?_words_append (by decide)]
        exact firstMarked?_noise_append commandFree (fences_words_append (by decide))
    _ = firstMarked? (utf8 " 2>&1 & echo " ++ (startMarker ++ (utf8 "$!" ++ (endMarker ++
          (utf8 ";disown" ++ text))))) := by
        rw [firstMarked?_words_append (by decide)]
        exact firstMarked?_noise_append fileFree (fences_words_append (by decide))
    _ = firstMarked? (utf8 "$!" ++ (endMarker ++ (utf8 ";disown" ++ text))) := by
        rw [firstMarked?_words_append (by decide)]
        exact firstMarked?_startMarker_append rfl (fences_words_append (by decide))
    _ = firstMarked? (utf8 ";disown" ++ text) := by
        rw [firstMarked?_words_append (by decide)]
        exact firstMarked?_noise_append endFree (fences_words_append (by decide))
    _ = firstMarked? text := firstMarked?_words_append (by decide) text

/-! ## The marked number -/

/-- A process number between the markers, as the launch line makes the shell print it. -/
def markedNumber (processId : Nat) : Bytes :=
  startMarker ++ Text.decimal processId ++ endMarker

theorem markedDigits?_markedNumber_append (processId : Nat) (tail : Bytes) :
    markedDigits? (markedNumber processId ++ tail) = some (Text.decimal processId) :=
  markedDigits?_eq_some_iff.mpr
    ⟨Text.decimal_ne_nil processId, fun _ member => Text.isDigit_of_mem_decimal member, tail, rfl⟩

theorem firstMarked?_markedNumber_append (processId : Nat) (tail : Bytes) :
    firstMarked? (markedNumber processId ++ tail) = some (Text.decimal processId) := by
  have here := markedDigits?_markedNumber_append processId tail
  have nonempty : markedNumber processId ++ tail = 95 :: (markedNumber processId ++ tail).tail := rfl
  rw [nonempty] at here ⊢
  rw [firstMarked?, here]

theorem firstMarked?_noise_markedNumber_append (free : ¬ startMarker <:+: noise) (processId : Nat)
    (tail : Bytes) :
    firstMarked? (noise ++ markedNumber processId ++ tail) = some (Text.decimal processId) := by
  have fences : Fences (markedNumber processId ++ tail) := by
    simpa only [markedNumber, List.append_assoc] using fences_startMarker
  rw [List.append_assoc, firstMarked?_noise_append free fences, firstMarked?_markedNumber_append]

theorem firstMarked?_echo_append (commandFree : ¬ startMarker <:+: command)
    (fileFree : ¬ startMarker <:+: file) (free : ¬ startMarker <:+: noise) (text : Bytes) :
    firstMarked? (noise ++ launchLine command file ++ text) = firstMarked? text := by
  have start : launchLine command file ++ text =
      110 :: ((launchLine command file).tail ++ text) := rfl
  have fences : Fences (launchLine command file ++ text) := start ▸ fences_of_head (by decide)
  rw [List.append_assoc, firstMarked?_noise_append free fences,
    firstMarked?_launchLine_append commandFree fileFree]

theorem processId?_of_unmarked (unmarked : firstMarked? text = none) : processId? text = none := by
  rw [processId?, unmarked]

theorem processId?_of_marked {processId : Nat} (small : processId < Nat.pow 2 63)
    (marked : firstMarked? text = some (Text.decimal processId)) :
    processId? text = some processId := by
  simp only [processId?, marked, Text.numeralValue_decimal, if_pos small]

/-- The launch line tells no process by itself, however it is echoed.  A marked number is read back
exactly, behind any noise without a start marker and with or without the launch line in front. -/
theorem processId?_reads_launch (commandFree : ¬ startMarker <:+: command)
    (fileFree : ¬ startMarker <:+: file) :
    processId? (launchLine command file) = none ∧
      ∀ noise further tail : Bytes, ¬ startMarker <:+: noise → ¬ startMarker <:+: further →
        processId? (noise ++ launchLine command file ++ further) = none ∧
        ∀ processId : Nat, processId < Nat.pow 2 63 →
          processId? (noise ++ launchLine command file ++ further ++ markedNumber processId ++ tail) =
              some processId ∧
            processId? (further ++ markedNumber processId ++ tail) = some processId := by
  have empty_free : ¬ startMarker <:+: [] := not_infix_of_shorter (by decide)
  have unmarked : ∀ {noise further : Bytes}, ¬ startMarker <:+: noise → ¬ startMarker <:+: further →
      processId? (noise ++ launchLine command file ++ further) = none := by
    intro noise further noiseFree furtherFree
    have silent := firstMarked?_noise_append furtherFree fences_nil
    rw [List.append_nil] at silent
    apply processId?_of_unmarked
    rw [firstMarked?_echo_append commandFree fileFree noiseFree, silent]
    rfl
  constructor
  · simpa using unmarked empty_free empty_free
  · intro noise further tail noiseFree furtherFree
    refine ⟨unmarked noiseFree furtherFree, fun processId small => ?_⟩
    have marked := firstMarked?_noise_markedNumber_append furtherFree processId tail
    constructor
    · apply processId?_of_marked small
      rw [List.append_assoc, List.append_assoc, firstMarked?_echo_append commandFree fileFree noiseFree,
        ← List.append_assoc, marked]
    · exact processId?_of_marked small marked

/-- The output of a shell that echoes the launch line and prints all but the last byte of a start marker
before the marked number. -/
theorem processId?_reads_launch_straddled :
    (¬ startMarker <:+: utf8 "make" ∧ ¬ startMarker <:+: utf8 "/tmp/out" ∧
      ¬ startMarker <:+: utf8 "bash-5.2$ " ∧ ¬ startMarker <:+: utf8 "__ROCK_PID_START_") ∧
      processId? (utf8 "bash-5.2$ " ++ launchLine (utf8 "make") (utf8 "/tmp/out") ++
        utf8 "__ROCK_PID_START_" ++ markedNumber 4242 ++ utf8 "\n") = some 4242 := by
  have commandFree : ¬ startMarker <:+: utf8 "make" := not_infix_of_shorter (by decide)
  have fileFree : ¬ startMarker <:+: utf8 "/tmp/out" := not_infix_of_shorter (by decide)
  have noiseFree : ¬ startMarker <:+: utf8 "bash-5.2$ " := not_infix_of_shorter (by decide)
  have furtherFree : ¬ startMarker <:+: utf8 "__ROCK_PID_START_" := not_infix_of_shorter (by decide)
  obtain ⟨_, reads⟩ := processId?_reads_launch commandFree fileFree
  obtain ⟨_, marked⟩ := reads _ _ (utf8 "\n") noiseFree furtherFree
  exact ⟨⟨commandFree, fileFree, noiseFree, furtherFree⟩, (marked 4242 (by decide)).1⟩

end Detached

end SandboxClient
