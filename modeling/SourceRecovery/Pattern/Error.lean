import SourceRecovery.Pattern.Syntax
import SourceRecovery.Text.Lines

/-! # Errors in patterns

What can be wrong with a pattern, and the report of it: the pattern with carets below the spans
that are at fault, and a description. A pattern of several lines is shown with line numbers
between two rules. -/

namespace SourceRecovery

namespace Pattern

/-- What is wrong with a pattern. -/
inductive Fault where
  | classEscape
  | classRange
  | classRangeBoundary
  | classUnclosed
  | decimalInvalid
  | hexEmpty
  | hexNoCharacter
  | hexDigit
  | escapeUnfinished
  | escapeUnknown
  | flagDangling
  /-- The flag stands elsewhere as well. -/
  | flagRepeated (other : Span)
  /-- The minus sign stands elsewhere as well. -/
  | minusRepeated (other : Span)
  | flagExpected
  | flagUnknown
  /-- Another group has the name. -/
  | groupNameTaken (other : Span)
  | groupNameEmpty
  | groupNameCharacter
  | groupNameUnclosed
  | groupUnclosed
  | groupUnopened
  | tooDeep
  | repetitionBounds
  | repetitionDecimal
  | repetitionUnclosed
  | repetitionOfNothing
  | boundaryUnclosed
  | boundaryUnknown
  | boundaryOrRepetition
  | propertyInvalid
  | backreference
  | lookAround
  | unicodeNotAllowed
  | invalidUtf8
  | propertyUnknown
  | propertyValueUnknown
deriving Repr, DecidableEq

/-- The greatest number of trees and sets that may be nested in each other. -/
def depthLimit : Nat := 250

/-- The description of a fault. -/
def Fault.message : Fault → String
  | classEscape => "invalid escape sequence found in character class"
  | classRange => "invalid character class range, the start must be <= the end"
  | classRangeBoundary => "invalid range boundary, must be a literal"
  | classUnclosed => "unclosed character class"
  | decimalInvalid => "decimal literal invalid"
  | hexEmpty => "hexadecimal literal empty"
  | hexNoCharacter => "hexadecimal literal is not a Unicode scalar value"
  | hexDigit => "invalid hexadecimal digit"
  | escapeUnfinished => "incomplete escape sequence, reached end of pattern prematurely"
  | escapeUnknown => "unrecognized escape sequence"
  | flagDangling => "dangling flag negation operator"
  | flagRepeated _ => "duplicate flag"
  | minusRepeated _ => "flag negation operator repeated"
  | flagExpected => "expected flag but got end of regex"
  | flagUnknown => "unrecognized flag"
  | groupNameTaken _ => "duplicate capture group name"
  | groupNameEmpty => "empty capture group name"
  | groupNameCharacter => "invalid capture group character"
  | groupNameUnclosed => "unclosed capture group name"
  | groupUnclosed => "unclosed group"
  | groupUnopened => "unopened group"
  | tooDeep => "exceed the maximum number of nested parentheses/brackets (250)"
  | repetitionBounds => "invalid repetition count range, the start must be <= the end"
  | repetitionDecimal => "repetition quantifier expects a valid decimal"
  | repetitionUnclosed => "unclosed counted repetition"
  | repetitionOfNothing => "repetition operator missing expression"
  | boundaryUnclosed =>
    "special word boundary assertion is either unclosed or contains an invalid character"
  | boundaryUnknown =>
    "unrecognized special word boundary assertion, " ++
      "valid choices are: start, end, start-half or end-half"
  | boundaryOrRepetition =>
    "found either the beginning of a special word boundary or a bounded repetition on a \\b " ++
      "with an opening brace, but no closing brace"
  | propertyInvalid => "invalid Unicode character class"
  | backreference => "backreferences are not supported"
  | lookAround => "look-around, including look-ahead and look-behind, is not supported"
  | unicodeNotAllowed => "Unicode not allowed here"
  | invalidUtf8 => "pattern can match invalid UTF-8"
  | propertyUnknown => "Unicode property not found"
  | propertyValueUnknown => "Unicode property value not found"

/-- The other span that a fault points at. -/
def Fault.other? : Fault → Option Span
  | flagRepeated other | minusRepeated other | groupNameTaken other => some other
  | _ => none

/-- A fault at a span of a pattern. -/
structure Mistake where
  /-- What is wrong. -/
  fault : Fault
  /-- Where it is wrong. -/
  span : Span
deriving Repr, DecidableEq

/-! ## Reporting -/

/-- A place of a text of several lines. -/
structure LinePlace where
  /-- The number of line feeds in front of the place. -/
  line : Nat
  /-- The number of characters between the last of them and the place. -/
  column : Nat
deriving Repr, DecidableEq

/-- The place behind the first `n` characters of a text. -/
def placeAt (t : Text) (n : Nat) : LinePlace where
  line := (t.take n).count '\n'
  column := ((t.take n).reverse.takeWhile (· ≠ '\n')).length

/-- Whether a span starts in front of another, or stops in front of it if they start together. -/
def Span.isBefore (a b : Span) : Bool := a.start < b.start || (a.start = b.start && a.stop ≤ b.stop)

/-- The spans of a mistake, in order. -/
def Mistake.spans (m : Mistake) : List Span :=
  match m.fault.other? with
  | none => [m.span]
  | some other => if m.span.isBefore other then [m.span, other] else [other, m.span]

/-- Whether a span starts and stops on the same line. -/
def Span.isOnOneLine (t : Text) (s : Span) : Bool :=
  (placeAt t s.start).line = (placeAt t s.stop).line

/-- Carets below the spans of a line, from a column on. -/
def carets (t : Text) (column : Nat) : List Span → Text
  | [] => []
  | s :: spans =>
    let start := (placeAt t s.start).column
    let width := Nat.max 1 ((placeAt t s.stop).column - start)
    List.replicate (start - column) ' ' ++ List.replicate width '^' ++
      carets t (Nat.max column start + width) spans

/-- The lines of a pattern, each behind a margin, with carets below the spans. `margin` gives the
margin of a line and `width` its width. -/
def notate (t : Text) (spans : List Span) (margin : Nat → Text) (width : Nat) : Text :=
  (Text.lines t).zipIdx.flatMap fun (line, n) =>
    let here := spans.filter fun s => s.isOnOneLine t ∧ (placeAt t s.start).line = n
    let below := if here = [] then [] else List.replicate width ' ' ++ carets t 0 here ++ ['\n']
    margin n ++ line ++ '\n' :: below

/-- The number of lines of a pattern, the empty one behind a last line feed included. -/
def lineCount (t : Text) : Nat :=
  (Text.lines t).length + if t.getLast? = some '\n' then 1 else 0

/-- A note on a span that goes over several lines. -/
def spreadNote (t : Text) (s : Span) : Text :=
  let start := placeAt t s.start
  let stop := placeAt t s.stop
  "on line ".toList ++ Text.ofNat (start.line + 1) ++ " (column ".toList ++
    Text.ofNat (start.column + 1) ++ ") through line ".toList ++ Text.ofNat (stop.line + 1) ++
    " (column ".toList ++ Text.ofNat stop.column ++ ")".toList

/-- The report of a mistake in a pattern. -/
def Mistake.report (t : Text) (m : Mistake) : Text :=
  let title := "regex parse error:\n".toList
  let error := "error: ".toList ++ m.fault.message.toList
  if '\n' ∈ t then
    let digits := (Text.ofNat (lineCount t)).length
    let width := if lineCount t ≤ 1 then 0 else digits
    let margin (n : Nat) : Text :=
      let number := Text.ofNat (n + 1)
      if width = 0 then "    ".toList
      else List.replicate (width - number.length) ' ' ++ number ++ ": ".toList
    let rule := List.replicate 79 '~' ++ ['\n']
    let notes := (m.spans.filter fun s => !s.isOnOneLine t).map (spreadNote t)
    let notes := if notes = [] then [] else Text.join ['\n'] notes ++ ['\n']
    let lines := notate t m.spans margin (if width = 0 then 4 else width + 2)
    title ++ rule ++ lines ++ rule ++ notes ++ error
  else title ++ notate t m.spans (fun _ => "    ".toList) 4 ++ error

/-- Two spans of one line have carets of their own. -/
example : Mistake.report "(?i-i)".toList ⟨.flagRepeated ⟨2, 3⟩, ⟨4, 5⟩⟩ =
    "regex parse error:\n    (?i-i)\n      ^ ^\nerror: duplicate flag".toList := by decide +kernel

end Pattern

end SourceRecovery
