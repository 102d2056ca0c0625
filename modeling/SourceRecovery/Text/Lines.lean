import SourceRecovery.Text.Basic

/-! # Lines of a text

A line ends at a line feed; one carriage return right before the line feed belongs to the ending.
What stands behind the last line feed is a line of its own unless it is empty, and a carriage
return at its end stays, since no line feed follows it. -/

namespace SourceRecovery

namespace Text

/-- A line without the carriage return in front of its line feed. -/
def dropReturn (line : Text) : Text :=
  if line.getLast? = some '\r' then line.dropLast else line

/-- The **lines** of a text, without their endings. -/
def lines (t : Text) : List Text :=
  let parts := t.splitOn '\n'
  let rest := parts.getLast?.getD []
  parts.dropLast.map dropReturn ++ if rest = [] then [] else [rest]

@[simp] theorem lines_nil : lines [] = [] := rfl

/-- Both endings separate lines, and the last ending adds no empty line. -/
example : lines "a\r\nb\n".toList = ["a".toList, "b".toList] := by decide

/-- A carriage return alone separates nothing. -/
example : lines "a\rb\r".toList = ["a\rb\r".toList] := by decide

end Text

end SourceRecovery
