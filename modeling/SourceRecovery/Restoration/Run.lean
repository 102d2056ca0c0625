import SourceRecovery.Configuration.Basic
import SourceRecovery.Restoration.Event

/-! # Restoring a whole source tree

A **restoration** applies all entries of a mapping table, one after another in the order of the
table, each to the tree that the entries before it left. An entry that fails does not stop the
ones behind it.

* **`FileTree.restoreEach`** — the tree and the outcomes of a list of entries.
* **`FileTree.restoreTable`** — the same for a table, with summary and events.
* **`FileTree.restoreWith`** — the same for a mapping file.
* **`Configuration.restore`** — the same for a project and a configuration. -/

namespace SourceRecovery

namespace Restoration

/-- How a restoration ended. -/
inductive Status where
  /-- The entries of a table were applied. -/
  | completed
  /-- There is no mapping file. -/
  | mappingNotFound
  /-- The mapping file could not be read. -/
  | mappingUnreadable
  /-- The mapping file has no class line. -/
  | noMappingFound
deriving Repr, DecidableEq

/-- The word for a status. -/
def Status.word : Status → Text
  | completed => "completed".toList
  | mappingNotFound => "mapping_not_found".toList
  | mappingUnreadable => "mapping_unreadable".toList
  | noMappingFound => "no_mapping_found".toList

/-- What a restoration comes to. -/
structure Summary where
  /-- How it ended. -/
  status : Status
  /-- The outcomes of the entries. -/
  tally : Tally
  /-- The line counts of the mapping file, once it was read. -/
  counts? : Option LineCounts
deriving Repr, DecidableEq

/-- A **restoration** that has come to its end. -/
structure Result where
  /-- The tree it leaves. -/
  tree : FileTree
  /-- What it came to. -/
  summary : Summary
  /-- What it reported, in order. -/
  events : List Event
deriving Repr, DecidableEq

/-- The events of the entries of a table, numbered on from `done`: each entry is announced, and
its failure follows. -/
def entryEvents (total : Nat) : (done : Nat) → List (Entry × Outcome) → List Event
  | _, [] => []
  | done, (e, .failed source error) :: rest =>
    .entryBegun (done + 1) total e :: .entryFailed source error :: entryEvents total (done + 1) rest
  | done, (e, _) :: rest => .entryBegun (done + 1) total e :: entryEvents total (done + 1) rest

end Restoration

open Restoration

namespace FileTree

/-- Applies entries one after another, each to the tree left by the one before it. -/
def restoreEach (t : FileTree) (root : Path) : List Entry → FileTree × List Outcome
  | [] => (t, [])
  | e :: es =>
    let first := t.restore root e
    let others := first.1.restoreEach root es
    (others.1, first.2 :: others.2)

/-- Applying entries in two parts is applying the second part to the tree left by the first. -/
theorem restoreEach_append (t : FileTree) (root : Path) (es fs : List Entry) :
    t.restoreEach root (es ++ fs) =
      (((t.restoreEach root es).1.restoreEach root fs).1,
        (t.restoreEach root es).2 ++ ((t.restoreEach root es).1.restoreEach root fs).2) := by
  induction es generalizing t with
  | nil => rfl
  | cons e es ih => simp [restoreEach, ih]

/-- **Applies a table** to the sources below a root. -/
def restoreTable (t : FileTree) (root : Path) (table : Table) : Result :=
  let (tree, outcomes) := t.restoreEach root table.entries
  let tally := Tally.ofOutcomes outcomes
  { tree
    summary := ⟨.completed, tally, some table.counts⟩
    events := entryEvents table.size 0 (table.entries.zip outcomes) ++ [.finished tally] }

/-- A restoration that ended before its first entry. -/
def endEarly (t : FileTree) (status : Status) (counts? : Option LineCounts) (events : List Event) :
    Result :=
  ⟨t, ⟨status, .zero, counts?⟩, events⟩

/-- **Applies a mapping file** to the sources below a root. -/
def restoreWith (t : FileTree) (order : CaptureOrder) (mapping root : Path) : Result :=
  if !t.contains mapping then t.endEarly .mappingNotFound none [.mappingMissing mapping]
  else
    match t.readText mapping with
    | .error c =>
      t.endEarly .mappingUnreadable none
        [.mappingFound mapping root, .mappingUnreadable mapping c]
    | .ok text =>
      let table := Table.parse order text
      let events := [Event.mappingFound mapping root, .mappingRead table.counts]
      if table.size = 0 then
        t.endEarly .noMappingFound (some table.counts) (events ++ [.mappingEmpty mapping])
      else
        let result := t.restoreTable root table
        { result with events := events ++ result.events }

end FileTree

/-- **Restores a project** as a configuration says. The path of the working directory is missing
when that directory has been deleted. -/
def Configuration.restore (c : Configuration) (t : FileTree) (workingDirectory? : Option Path)
    (project : Path) : Result :=
  match workingDirectory? with
  | none => t.endEarly .mappingUnreadable none [.workingDirectoryUnknown .missing]
  | some d => t.restoreWith c.captureOrder (c.mappingPath d) (c.sourceRoot project)

end SourceRecovery
