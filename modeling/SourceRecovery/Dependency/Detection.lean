import SourceRecovery.Dependency.Rule
import SourceRecovery.FileTree.Walk
import SourceRecovery.Log
import SourceRecovery.Source.Kind

/-! # Detecting libraries

The libraries of a source tree are **detected** by a walk over it. Each source file is searched
for the markers of the rules not found so far; a file that cannot be read is passed over. The
order of the walk is a parameter: `Detection.ofItems` takes what the walk came across. -/

namespace SourceRecovery

namespace Detection

/-- An **event** of a detection. -/
inductive Event where
  /-- A directory, or the start of the walk, could not be entered. -/
  | unreadableEntry (path : Path) (cause : IoError)
  /-- The first Kotlin file. -/
  | kotlinFound
  /-- A source file could not be read. -/
  | unreadableFile (path : Path) (cause : IoError)
  /-- The marker of a rule was found for the first time. -/
  | markerFound (rule : Rule)
deriving Repr, DecidableEq

/-- The log line of an event. -/
def Event.line : Event → LogLine
  | unreadableEntry path cause =>
    ⟨.warn, "Skipping unreadable source entry: IO error for operation on ".toList ++ path ++
      ": ".toList ++ cause.message⟩
  | kotlinFound => ⟨.info, "Kotlin sources detected.".toList⟩
  | unreadableFile path cause =>
    ⟨.warn, "Failed to scan ".toList ++ path ++ ": ".toList ++ cause.message⟩
  | markerFound rule =>
    ⟨.info, "Pattern '".toList ++ rule.pattern ++ "' detected for ".toList ++ rule.name ++
      ".".toList⟩

/-- What a walk has brought to light so far. -/
structure Findings where
  /-- Whether there was a Kotlin file. -/
  kotlin : Bool
  /-- The rules whose markers were found, in the order of their finding. -/
  rules : List Rule
  /-- What was reported, in order. -/
  events : List Event
deriving Repr, DecidableEq

/-- The findings before the walk. -/
def Findings.empty : Findings := ⟨false, [], []⟩

/-- The findings after a Kotlin file has been met. -/
def Findings.meetKotlin (f : Findings) : Findings :=
  if f.kotlin then f else { f with kotlin := true, events := f.events ++ [.kotlinFound] }

/-- The findings after the text of a source file has been searched. -/
def Findings.searchText (f : Findings) (text : Text) : Findings :=
  let found := Rule.marked.filter fun r => !f.rules.contains r && r.matchesText text
  { f with rules := f.rules ++ found, events := f.events ++ found.map .markerFound }

/-- The kind of the source file at a path, told by the extension of its last segment. -/
def kindOf? (path : Path) : Option SourceKind :=
  (path.segments.getLast?.bind Path.extension?).bind SourceKind.ofExtension?

/-- The findings after a source file. -/
def Findings.scanFile (t : FileTree) (f : Findings) (path : Path) (kind : SourceKind) : Findings :=
  let f := if kind = .kotlin then f.meetKotlin else f
  match t.read path with
  | .error c => { f with events := f.events ++ [.unreadableFile path c] }
  | .ok bytes => f.searchText (Utf8.decodeLossy bytes)

/-- The findings after one more item of the walk. -/
def Findings.meet (t : FileTree) (f : Findings) : WalkItem → Findings
  | .unreadable path cause => { f with events := f.events ++ [.unreadableEntry path cause] }
  | .file path =>
    match kindOf? path with
    | some kind => f.scanFile t path kind
    | none => f

/-- The rules that the findings speak for, in the order of the rules. -/
def Findings.detected (f : Findings) : List Rule :=
  (if f.kotlin then [Rule.kotlin] else []) ++ Rule.marked.filter f.rules.contains

/-- The findings of a walk that came across the items, in their order. -/
def ofItems (t : FileTree) (items : List WalkItem) : Findings :=
  items.foldl (Findings.meet t) .empty

end Detection

/-- **Detects** the libraries used by the sources at or below a path. -/
def FileTree.detect (t : FileTree) (root : Path) : Detection.Findings :=
  Detection.ofItems t (t.walk root)

end SourceRecovery
