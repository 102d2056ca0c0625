import SourceRecovery.Text.Basic

/-! # Log lines

What happens during a run is kept as a list of events. An event is shown as a **log line**: a text
with a level that says how much attention it wants. -/

namespace SourceRecovery

/-- How much attention a log line wants. -/
inductive LogLevel where
  | debug
  | info
  | warn
deriving Repr, DecidableEq

/-- The word for a level. -/
def LogLevel.word : LogLevel → Text
  | debug => "DEBUG".toList
  | info => "INFO".toList
  | warn => "WARN".toList

/-- A line of the log. -/
structure LogLine where
  /-- The level of the line. -/
  level : LogLevel
  /-- The text of the line. -/
  text : Text
deriving Repr, DecidableEq

end SourceRecovery
