import SandboxClient.Log.Level

/-!
# Layout of log lines

A layout is a text with directives, each a percent sign and a letter, that stand for the parts of a
record and of the time at which it was written.
-/

namespace SandboxClient

namespace Log

namespace Layout

/-- Replaces the directives of a layout by their values.  A directive without a value stands for
itself. -/
def expand (value? : UInt8 → Option Bytes) : Bytes → Bytes
  | [] => []
  | [byte] => [byte]
  | byte :: letter :: layout =>
    if byte = 37 then (value? letter).getD [byte, letter] ++ expand value? layout
    else byte :: expand value? (letter :: layout)

/-- The value of a directive that stands for a part of a record.  Colours are left out. -/
def part? (record : Record) (letter : UInt8) : Option Bytes :=
  if letter = 110 then some record.logger
  else if letter = 108 then some record.level.name
  else if letter = 118 then some record.message
  else if letter = 94 || letter = 36 then some []
  else none

/-- A record as a line.  The values of the other directives are given by their letters. -/
def render (layout : Bytes) (stamp : List (UInt8 × Bytes)) (record : Record) : Bytes :=
  expand (fun letter => (part? record letter).or (stamp.lookup letter)) layout ++ utf8 "\n"

end Layout

end Log

end SandboxClient
