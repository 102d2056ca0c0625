import SourceRecovery.FileTree.Operations

/-! # Walking a directory

A **walk** visits everything at or below a path. What it yields of interest are the regular files
and the directories it could not enter; their order means nothing. -/

namespace SourceRecovery

/-- What a walk comes across. -/
inductive WalkItem where
  /-- A regular file. -/
  | file (path : Path)
  /-- A directory, or the start of the walk, that could not be entered. -/
  | unreadable (path : Path) (error : IoError)
deriving Repr, DecidableEq

namespace FileTree

/-- What a walk that started at `root` comes across for the entry at the names `below` the start.
A directory whose path is too long cannot be entered, so nothing below it is reached. -/
def walkItem? (root : Path) (below : List Text) (n : Node) : Option WalkItem :=
  let path := below.foldl Path.join root
  if Path.isTooLong (below.dropLast.foldl Path.join root) then none
  else
    match n with
    | .file _ => some (.file path)
    | .directory => if path.isTooLong then some (.unreadable path .nameTooLong) else none
    | .nullDevice => none

/-- The items of a **walk** over all that is at or below a path. -/
def walk (t : FileTree) (root : Path) : List WalkItem :=
  match t.resolve root with
  | .error e => [.unreadable root e]
  | .ok l =>
    match t.node? l with
    | some (.file _) => [.file root]
    | some .directory =>
      t.entries.filterMap fun e =>
        match l.isPrefixOf? e.1 with
        | some (name :: below) => walkItem? root (name :: below) e.2
        | _ => none
    | _ => []

end FileTree

end SourceRecovery
