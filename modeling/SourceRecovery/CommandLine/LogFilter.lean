import SourceRecovery.Log
import SourceRecovery.Pattern.Meaning
import SourceRecovery.Text.ControlSequence

/-! # Which log lines are shown

Log lines are shown from a **threshold** up. It follows from the verbosity asked for, unless a
**logging spec** sets another one for this program: a list of directives separated by commas, each
a name with a level behind an equals sign, or one of the two alone. Directives for other names, or
for no name, leave the threshold alone. A **pattern** behind a slash restricts the lines to those
in which it is found. -/

namespace SourceRecovery

namespace CommandLine

/-- The least level that is shown. -/
inductive Threshold where
  | off
  | error
  | warn
  | info
  | debug
  | trace
deriving Repr, DecidableEq

/-- Whether a line of a level is shown. -/
def Threshold.shows : Threshold → LogLevel → Bool
  | off, _ | error, _ => false
  | warn, level => level = .warn
  | info, level => level ≠ .debug
  | debug, _ | trace, _ => true

/-- The threshold that a word stands for, in letters of either case. -/
def Threshold.ofWord? (word : Text) : Option Threshold :=
  [(off, "off"), (error, "error"), (warn, "warn"), (info, "info"), (debug, "debug"),
    (trace, "trace")].findSome? fun p =>
      if Text.equalsIgnoringCase p.2.toList word then some p.1 else none

/-- The name under which this program logs. -/
def logName : Text := "apksource".toList

/-- Which log lines are shown, and what is wrong with the logging spec. -/
structure LogFilter where
  /-- The least level that is shown. -/
  threshold : Threshold
  /-- The pattern that must be found in a line. -/
  pattern? : Option Pattern
  /-- The parts of the logging spec that mean nothing, as they are reported. -/
  invalid : List Text
deriving Repr, DecidableEq

namespace LogFilter

/-- The filter for a verbosity. -/
def ofVerbosity (verbose : Bool) : LogFilter := ⟨if verbose then .debug else .info, none, []⟩

/-- Sets the threshold for a name. -/
def set (f : LogFilter) (name : Text) (threshold : Threshold) : LogFilter :=
  if name = logName then { f with threshold } else f

/-- Reports a part of the spec that means nothing. -/
def reject (f : LogFilter) (part : Text) (reason : Text) : LogFilter :=
  { f with invalid := f.invalid ++ ["invalid logging spec '".toList ++ part ++ ['\''] ++ reason] }

/-- Restricts the lines to those in which a pattern is found, or reports what is wrong with it. -/
def restrict (f : LogFilter) (pattern : Text) : LogFilter :=
  match Pattern.ofText pattern with
  | .ok p => { f with pattern? := some p }
  | .error report => { f with invalid := f.invalid ++ ["invalid regex filter - ".toList ++ report] }

/-- Follows one directive. -/
def follow (f : LogFilter) (directive : Text) : LogFilter :=
  match directive.splitOn '=' with
  | [word] => if (Threshold.ofWord? word).isSome then f else f.set word .trace
  | [name, level] =>
    let level := Text.trim level
    if level = [] then f.set name .trace
    else
      match Threshold.ofWord? level with
      | some threshold => f.set name threshold
      | none => f.reject level []
  | _ => f.reject directive []

/-- Follows a logging spec. -/
def followSpec (f : LogFilter) (spec : Text) : LogFilter :=
  let directives (t : Text) := ((t.splitOn ',').map Text.trim).filter (· ≠ [])
  match spec.splitOn '/' with
  | [list] => (directives list).foldl follow f
  | [list, pattern] => ((directives list).foldl follow f).restrict pattern
  | _ => f.reject spec " (too many '/'s)".toList

/-- Whether a log line is shown. -/
def shows (f : LogFilter) (line : LogLine) : Bool :=
  f.threshold.shows line.level && f.pattern?.all fun p => p.found line.text

/-- The warnings about the logging spec, a line each. -/
def warnings (f : LogFilter) : Text :=
  f.invalid.flatMap fun reason => "warning: ".toList ++ reason ++ ", ignoring it\n".toList

end LogFilter

/-- A log line as it is shown: the level, filled up to five characters, and the text, whose further
lines are indented. There is no terminal to follow the control sequences of the text. -/
def renderLogLine (line : LogLine) : Text :=
  let word := line.level.word
  Text.withoutControls <|
    '[' :: word ++ List.replicate (5 - word.length) ' ' ++ "] ".toList ++
      Text.join "\n    ".toList (line.text.splitOn '\n') ++ ['\n']

end CommandLine

end SourceRecovery
