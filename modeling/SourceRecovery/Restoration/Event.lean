import SourceRecovery.Log
import SourceRecovery.Relocation

/-! # Events of a restoration

What a restoration reports while it runs, and how each event reads in the log. -/

namespace SourceRecovery

namespace Restoration

/-- How many entries had each outcome. -/
structure Tally where
  /-- The entries whose source file was relocated. -/
  relocated : Nat
  /-- The entries without a source file. -/
  skipped : Nat
  /-- The entries whose relocation failed. -/
  failed : Nat
deriving Repr, DecidableEq

/-- The tally of no entries. -/
def Tally.zero : Tally := ⟨0, 0, 0⟩

/-- The tally of a list of outcomes. -/
def Tally.ofOutcomes (outcomes : List Outcome) : Tally where
  relocated := outcomes.countP fun | .relocated _ _ => true | _ => false
  skipped := outcomes.countP fun | .skipped => true | _ => false
  failed := outcomes.countP fun | .failed _ _ => true | _ => false

/-- An **event** of a restoration. -/
inductive Event where
  /-- The working directory does not exist. -/
  | workingDirectoryUnknown (cause : IoError)
  /-- The mapping file does not exist. -/
  | mappingMissing (mapping : Path)
  /-- The mapping file exists. -/
  | mappingFound (mapping root : Path)
  /-- The mapping file could not be read. -/
  | mappingUnreadable (mapping : Path) (cause : IoError)
  /-- The mapping file was read. -/
  | mappingRead (counts : LineCounts)
  /-- The mapping file has no class line. -/
  | mappingEmpty (mapping : Path)
  /-- An entry is about to be applied; entries are numbered from one. -/
  | entryBegun (number total : Nat) (entry : Entry)
  /-- The relocation of a source file failed. -/
  | entryFailed (source : Path) (error : RelocationError)
  /-- All entries have been applied. -/
  | finished (tally : Tally)
deriving Repr, DecidableEq

/-- The level of an event. -/
def Event.level : Event → LogLevel
  | workingDirectoryUnknown _ | mappingUnreadable _ _ | entryFailed _ _ => .warn
  | mappingMissing _ | mappingFound _ _ | mappingRead _ | mappingEmpty _ | finished _ => .info
  | entryBegun _ _ _ => .debug

/-- The text of an event. -/
def Event.text : Event → Text
  | workingDirectoryUnknown cause =>
    "Cannot resolve the working directory: ".toList ++ cause.message ++
      ". Skipping deobfuscation.".toList
  | mappingMissing mapping =>
    "No ".toList ++ mapping ++ " found. Skipping class deobfuscation.".toList
  | mappingFound mapping root =>
    "Found ".toList ++ mapping ++ ". Deobfuscating sources in ".toList ++ root ++ "...".toList
  | mappingUnreadable mapping cause =>
    "Failed to read ".toList ++ mapping ++ ": ".toList ++ cause.message
  | mappingRead counts =>
    "Read ".toList ++ Text.ofNat counts.classes ++ " class lines, ".toList ++
      Text.ofNat counts.members ++ " member lines ignored.".toList
  | mappingEmpty mapping =>
    "No valid class mapping found in ".toList ++ mapping ++ ". Skipping.".toList
  | entryBegun number total entry =>
    "[".toList ++ Text.ofNat number ++ "/".toList ++ Text.ofNat total ++ "] ".toList ++
      entry.obfuscated ++ " -> ".toList ++ entry.restored
  | entryFailed source error =>
    "Failed to rename/update ".toList ++ source ++ ": ".toList ++ error.message
  | finished tally =>
    "Class deobfuscation finished: ".toList ++ Text.ofNat tally.relocated ++ " renamed, ".toList ++
      Text.ofNat tally.skipped ++ " skipped, ".toList ++ Text.ofNat tally.failed ++
      " failed.".toList

/-- The log line of an event. -/
def Event.line (e : Event) : LogLine := ⟨e.level, e.text⟩

end Restoration

end SourceRecovery
