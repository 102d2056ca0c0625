import SourceRecovery.FileTree.Basic
import SourceRecovery.FileTree.IoError
import SourceRecovery.FileTree.Path

/-! # Resolving a path

A path is **resolved** segment by segment, from the root directory or from the working directory.
An idle segment stays where it is, two dots go up, any other segment goes down to the node of that
name; each of them needs a directory to start from. A path that holds a NUL character, is empty,
or is too long is refused before its first segment. -/

namespace SourceRecovery

/-- The number of bytes at which a path is too long. -/
def Path.lengthLimit : Nat := 4096

/-- The greatest number of bytes of a name. -/
def Path.nameLimit : Nat := 255

/-- Whether a path is too long to be resolved. -/
def Path.isTooLong (p : Path) : Bool := lengthLimit ≤ p.utf8Length

/-- Whether a name is too long for a directory entry. -/
def Path.nameIsTooLong (name : Text) : Bool := nameLimit < name.utf8Length

/-- Refuses a path that no file can have. -/
def Path.check (p : Path) : Except IoError Unit :=
  if '\x00' ∈ p then .error .nulInPath
  else if p = [] then .error .missing
  else if p.isTooLong then .error .nameTooLong
  else .ok ()

namespace FileTree

/-- Follows the segments of a path from a location. -/
def follow (t : FileTree) : Location → List Text → Except IoError Location
  | l, [] => .ok l
  | l, s :: rest =>
    if !t.hasDirectory l then .error .notDirectory
    else if Path.isIdle s then t.follow l rest
    else if s = ['.', '.'] then t.follow l.dropLast rest
    else if Path.nameIsTooLong s then .error .nameTooLong
    else
      match t.node? (l ++ [s]) with
      | none => .error .missing
      | some _ => t.follow (l ++ [s]) rest

/-- The absolute path of the working directory. -/
def workingPath (t : FileTree) : Path := '/' :: Text.join ['/'] t.workingDirectory

/-- Where the segments of a path are followed from. -/
def startOf (t : FileTree) (p : Path) : Location :=
  if p.isAbsolute then [] else t.workingDirectory

/-- The location of what is at a path. -/
def resolve (t : FileTree) (p : Path) : Except IoError Location := do
  p.check
  t.follow (t.startOf p) p.segments

/-- The location of the directory reached by the segments of a path in front of its last name. -/
def resolveDirectory (t : FileTree) (p : Path) (segments : List Text) :
    Except IoError Location := do
  let l ← t.follow (t.startOf p) segments
  if t.hasDirectory l then .ok l else .error .notDirectory

/-- Whether a last name is one of the two that only a directory entry made by the system has. -/
def isDotName (name : Text) : Bool := name = ['.'] || name = ['.', '.']

/-- The node at a path. -/
def nodeAt? (t : FileTree) (p : Path) : Option Node :=
  match t.resolve p with
  | .ok l => t.node? l
  | .error _ => none

/-- Whether something is at a path. -/
def contains (t : FileTree) (p : Path) : Bool :=
  match t.resolve p with
  | .ok _ => true
  | .error _ => false

/-- Whether a regular file is at a path. -/
def isFile (t : FileTree) (p : Path) : Bool :=
  match t.nodeAt? p with
  | some (.file _) => true
  | _ => false

/-- Whether a directory is at a path. -/
def isDirectory (t : FileTree) (p : Path) : Bool := t.nodeAt? p == some .directory

/-- The empty path names nothing. -/
@[simp] theorem resolve_nil (t : FileTree) : t.resolve [] = .error .missing := by
  simp [resolve, Path.check, bind, Except.bind]

/-- Following a path in two parts is following the first and then the second from there. -/
theorem follow_append (t : FileTree) (l : Location) (p q : List Text) :
    t.follow l (p ++ q) = (t.follow l p).bind fun m => t.follow m q := by
  induction p generalizing l with
  | nil => rfl
  | cons s p ih =>
    simp only [List.cons_append, follow]
    split
    · rfl
    split
    · exact ih l
    split
    · exact ih _
    split
    · rfl
    split
    · rfl
    · exact ih _

end FileTree

end SourceRecovery
