import SandboxClient.Sandbox.Speedup

/-!
# Words of the shell

How a shell takes the words off the start of a line.  Between single quotes every byte stands for itself,
outside of quotes a backslash quotes the byte behind it, and a word ends at a blank, at the end of the line
and where an operator starts.  Each byte of a word is read together with whether it was quoted, since only
then the shell leaves it alone.

A text in single quotes is read as one word of quoted bytes, whatever it is and whatever ends the word.
-/

namespace SandboxClient

namespace Shell

/-- A byte of a word, and whether it was quoted. -/
structure Glyph where
  byte : UInt8
  quoted : Bool
  deriving DecidableEq, Repr

/-- A text of which no byte is quoted. -/
def bare (text : Bytes) : List Glyph :=
  text.map (⟨·, false⟩)

/-- A text of which every byte is quoted. -/
def verbatim (text : Bytes) : List Glyph :=
  text.map (⟨·, true⟩)

/-- Where a reader of a word is. -/
inductive Mode where
  | plain
  /-- Behind a backslash. -/
  | escaped
  /-- Between single quotes. -/
  | quoted
  deriving DecidableEq, Repr

/-- Space and tab. -/
def isBlank (byte : UInt8) : Bool :=
  byte == 32 || byte == 9

/-- The bytes that end a word unless they are quoted: blanks, the line feed, and the bytes that operators
start with. -/
def endsWord (byte : UInt8) : Bool :=
  isBlank byte || byte == 10 || (utf8 "|&;<>()").contains byte

/-- The bytes that start an expansion or double quotes unless they are quoted.  A word with one of them
is not read. -/
def isActive (byte : UInt8) : Bool :=
  (utf8 "$\"").contains byte || byte == 96

/-- A reading that starts with one more byte. -/
def push (glyph : Glyph) : Option (List Glyph × Bytes) → Option (List Glyph × Bytes) :=
  Option.map fun (glyphs, rest) => (glyph :: glyphs, rest)

/-- The rest of a word, and what is left of the line behind it.  An open quote has no reading. -/
def readFrom : Mode → Bytes → Option (List Glyph × Bytes)
  | .plain, [] => some ([], [])
  | .escaped, [] | .quoted, [] => none
  | .plain, byte :: text =>
    if byte = 39 then readFrom .quoted text
    else if byte = 92 then readFrom .escaped text
    else if endsWord byte then some ([], byte :: text)
    else if isActive byte then none
    else push ⟨byte, false⟩ (readFrom .plain text)
  -- an escaped line feed joins two lines
  | .escaped, byte :: text =>
    if byte = 10 then readFrom .plain text else push ⟨byte, true⟩ (readFrom .plain text)
  | .quoted, byte :: text =>
    if byte = 39 then readFrom .plain text else push ⟨byte, true⟩ (readFrom .quoted text)

/-- The next word of a line, if there is one before the next operator or comment. -/
def nextWord (line : Bytes) : Option (List Glyph × Bytes) :=
  match line.dropWhile isBlank with
  | [] => none
  | byte :: text =>
    if endsWord byte || byte == 35 then none else readFrom .plain (byte :: text)

/-- The next words of a line, as many as are asked for, and what is left of it. -/
def nextWords : Nat → Bytes → Option (List (List Glyph) × Bytes)
  | 0, line => some ([], line)
  | count + 1, line => do
    let (word, line) ← nextWord line
    let (words, line) ← nextWords count line
    return (word :: words, line)

theorem nextWords_cons {count : Nat} {line between last : Bytes} {word : List Glyph}
    {words : List (List Glyph)} (first : nextWord line = some (word, between))
    (others : nextWords count between = some (words, last)) :
    nextWords (count + 1) line = some (word :: words, last) := by
  rw [nextWords, first]
  show (nextWords count between).bind _ = _
  rw [others]
  rfl

/-- A blank in front of a word is passed over. -/
theorem nextWord_blank (line : Bytes) : nextWord (utf8 " " ++ line) = nextWord line :=
  rfl

/-- No word goes on into a line. -/
def Stops (line : Bytes) : Prop :=
  ∀ byte ∈ line.head?, endsWord byte = true

theorem readFrom_of_stops {line : Bytes} (stops : Stops line) :
    readFrom .plain line = some ([], line) := by
  cases line with
  | nil => rfl
  | cons byte text =>
      have ends : endsWord byte = true := stops byte rfl
      have unquoting : byte ≠ 39 := by
        rintro rfl
        exact absurd ends (by decide)
      have unescaping : byte ≠ 92 := by
        rintro rfl
        exact absurd ends (by decide)
      rw [readFrom, if_neg unquoting, if_neg unescaping, if_pos ends]

/-- A quote of a quoted text is read outside of the quotes, escaped, and leads back between them. -/
theorem readFrom_quote (line : Bytes) :
    readFrom .quoted (utf8 "'\\''" ++ line) = push ⟨39, true⟩ (readFrom .quoted line) :=
  rfl

theorem readFrom_quoted (text line : Bytes) :
    readFrom .quoted
        (text.flatMap (fun byte => if byte = 39 then utf8 "'\\''" else [byte]) ++ 39 :: line) =
      (readFrom .plain line).map fun (glyphs, rest) => (verbatim text ++ glyphs, rest) := by
  induction text with
  | nil =>
      rw [List.flatMap_nil, List.nil_append, readFrom, if_pos rfl]
      cases readFrom .plain line <;> rfl
  | cons byte text ih =>
      rw [List.flatMap_cons, List.append_assoc]
      by_cases quote : byte = 39
      · rw [if_pos quote, readFrom_quote, ih, quote]
        cases readFrom .plain line <;> rfl
      · rw [if_neg quote, List.singleton_append, readFrom, if_neg quote, ih]
        cases readFrom .plain line <;> rfl

/-- A quoted text is one word of quoted bytes that are those of the text. -/
theorem nextWord_shellQuote (text : Bytes) {line : Bytes} (stops : Stops line) :
    nextWord (Speedup.shellQuote text ++ line) = some (verbatim text, line) := by
  have opened : nextWord (Speedup.shellQuote text ++ line) = readFrom .quoted
      (text.flatMap (fun byte => if byte = 39 then utf8 "'\\''" else [byte]) ++ 39 :: line) := by
    rw [Speedup.shellQuote, List.append_assoc, List.append_assoc]
    rfl
  rw [opened, readFrom_quoted, readFrom_of_stops stops]
  simp

/-- Quotes, a semicolon and a dollar sign in a quoted text are left alone; outside of quotes they are
not. -/
example :
    nextWords 2 (utf8 "echo 'it'\\''s; $x'; ls") =
      some ([bare (utf8 "echo"), verbatim (utf8 "it's; $x")], utf8 "; ls") ∧
    nextWords 3 (utf8 "echo it; ls") = none ∧ nextWords 2 (utf8 "echo $x") = none := by
  decide

end Shell

end SandboxClient
