import SourceRecovery.Text.Basic

/-! # Paths

A **path** is the text by which a program names a file. It is kept as it was written: joining two
paths puts a slash between them and nothing is simplified, so a message names a file by the very
text the program used. Only the directories above a path are told apart by its components, among
which an empty one and a dot stand for nothing. -/

namespace SourceRecovery

/-- The text that names a file or a directory. -/
abbrev Path := Text

namespace Path

/-- Whether a path starts at the root directory. -/
def isAbsolute (p : Path) : Bool := p.head? == some '/'

/-- The parts of a path between its slashes, the empty ones included. -/
def segments (p : Path) : List Text := p.splitOn '/'

/-- The path `q` read from the directory `p`: `q` itself if it is absolute or `p` is empty. -/
def join (p q : Path) : Path :=
  if q.isAbsolute ∨ p = [] then q
  else if p.getLast? = some '/' then p ++ q
  else p ++ '/' :: q

/-- An absolute path is read from the root directory, wherever it is read. -/
theorem join_of_isAbsolute {p q : Path} (h : q.isAbsolute) : p.join q = q := by simp [join, h]

@[simp] theorem join_nil_left (q : Path) : join [] q = q := by simp [join]

/-- Whether a segment of a path names nothing: it is empty or a dot. -/
def isIdle (segment : Text) : Bool := segment = [] || segment = ['.']

/-- A path with the directories above it, the path first, from the segments of the path read
backwards. -/
def climb : List Text → List Path
  | [] => [[]]
  | [s] => if s = [] then [['/']] else [s, []]
  | s :: up => if isIdle s then climb up else Text.join ['/'] (s :: up).reverse :: climb up

/-- The **ancestors** of a path: the path itself without idle segments at its end, and the paths
of the directories above it, up to the root directory or to the empty path. -/
def ancestors (p : Path) : List Path := if p = [] then [[]] else climb p.segments.reverse

/-- The path of the directory that holds the last component of a path. -/
def parent? (p : Path) : Option Path := p.ancestors[1]?

/-- The name in front of the trailing slashes, with the segments before it. -/
def splitLast? (p : Path) : Option (List Text × Text) :=
  match p.segments.reverse.dropWhile (· = []) with
  | [] => none
  | last :: up => some (up.reverse, last)

/-- Whether a path ends in a slash. -/
def hasTrailingSlash (p : Path) : Bool := p.getLast? == some '/'

/-- The **extension** of a file name: what follows its last dot, unless that dot is its first
character. -/
def extension? (name : Text) : Option Text :=
  if '.' ∈ name.drop 1 then some (name.reverse.takeWhile (· ≠ '.')).reverse else none

/-- The ancestors drop a component with all the slashes in front of it. -/
example : ancestors "d//e/./X".toList = ["d//e/./X".toList, "d//e".toList, "d".toList, []] := by
  decide

/-- A dot at the very front is a component, and so is the root directory. -/
example : parent? "./X".toList = some ".".toList ∧ parent? "//X".toList = some "/".toList ∧
    parent? "X".toList = some [] := by decide

/-- A name that starts with its only dot has no extension. -/
example : extension? ".kt".toList = none ∧ extension? "a.b.kt".toList = some "kt".toList := by
  decide

end Path

end SourceRecovery
