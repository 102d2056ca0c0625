import SourceRecovery.FileTree.Resolve

/-! # Operations on a file tree

The operations of a file system as functions on file trees. Each of the single steps either
changes the tree or fails and leaves it alone:

* **`makeDirectory`** makes one directory in a directory that exists.
* **`rename`** moves a file or a directory and replaces a file in its way.
* **`read`**, **`readText`** give the contents of a file, **`write`** replaces them.

**`makeDirectories`** repeats the first of them and may fail half way, so it gives the tree in
either case. -/

namespace SourceRecovery

namespace FileTree

/-- Makes a directory. The directory above it must exist, and nothing may be at the path. -/
def makeDirectory (t : FileTree) (p : Path) : Except IoError FileTree := do
  p.check
  match p.splitLast? with
  | none => .error .alreadyExists
  | some (dirs, name) =>
    let parent ← t.resolveDirectory p dirs
    if isDotName name then .error .alreadyExists
    else if Path.nameIsTooLong name then .error .nameTooLong
    else
      match t.node? (parent ++ [name]) with
      | some _ => .error .alreadyExists
      | none => .ok (t.put (parent ++ [name]) .directory)

/-- Makes the first of a list of directories, each of which lies above the one before it, after
making those above it where they are missing. A failure is ignored when the directory is there
all the same; the empty path needs no directory. -/
def makeDirectoriesOf (t : FileTree) : List Path → FileTree × Except IoError Unit
  | [] => (t, .ok ())
  | p :: up =>
    if p = [] then (t, .ok ())
    else
      match t.makeDirectory p with
      | .ok made => (made, .ok ())
      | .error .missing =>
        match t.makeDirectoriesOf up with
        -- What was made above stays, although nothing is made here.
        | (t, .error e) => (t, .error e)
        | (t, .ok ()) =>
          match t.makeDirectory p with
          | .ok made => (made, .ok ())
          | .error e => if t.isDirectory p then (t, .ok ()) else (t, .error e)
      | .error e => if t.isDirectory p then (t, .ok ()) else (t, .error e)

/-- Makes a directory and the directories above it. -/
def makeDirectories (t : FileTree) (p : Path) : FileTree × Except IoError Unit :=
  t.makeDirectoriesOf (if p = [] then [] else p :: p.ancestors.tail)

/-- Whether two locations lie on one device: what is below `/dev` is apart from all else. -/
def sameDevice (a b : Location) : Bool :=
  (a.head? == some "dev".toList) == (b.head? == some "dev".toList)

/-- Whether anything is below a location. -/
def hasEntriesBelow (t : FileTree) (l : Location) : Bool :=
  t.entries.any fun e => l.isPrefixOf e.1 && l.length < e.1.length

/-- Moves what is at one location to another, both in directories that exist. `slashed` says that
one of the two paths ends in a slash, which only the path of a directory may do. -/
def renameAt (t : FileTree) (source target : Location) (slashed : Bool) : Except IoError FileTree :=
  match t.node? source with
  | none => .error .missing
  | some n =>
    if n ≠ .directory ∧ slashed then .error .notDirectory
    else if source = target then .ok t
    else if source.isPrefixOf target then .error .belowItself
    else if target.isPrefixOf source then .error .notEmpty
    else
      match n, t.node? target with
      | .directory, some .directory =>
        if t.hasEntriesBelow target then .error .notEmpty else .ok (t.move source target)
      | .directory, some _ => .error .notDirectory
      | _, some .directory => .error .directory
      | _, _ => .ok (t.move source target)

/-- The directory in which the last name of a path lies, and that name. -/
def resolveLast (t : FileTree) (p : Path) : Except IoError (Location × Option Text) := do
  p.check
  match p.splitLast? with
  | none => .ok ([], none)
  | some (dirs, name) =>
    let parent ← t.resolveDirectory p dirs
    .ok (parent, if isDotName name then none else some name)

/-- Moves a file or a directory. A file in the way is replaced, an empty directory only by a
directory; a move onto itself does nothing. -/
def rename (t : FileTree) (source target : Path) : Except IoError FileTree := do
  if '\x00' ∈ source ++ target then .error .nulInPath
  else
    let (sourceParent, sourceName?) ← t.resolveLast source
    let (targetParent, targetName?) ← t.resolveLast target
    match sourceName?, targetName? with
    | some a, some b =>
      -- The devices of the two directories are compared before either name is looked up.
      if !sameDevice (sourceParent ++ [a]) (targetParent ++ [b]) then .error .otherDevice
      else if Path.nameIsTooLong a then .error .nameTooLong
      else if (t.node? (sourceParent ++ [a])).isNone then .error .missing
      else if Path.nameIsTooLong b then .error .nameTooLong
      else
        t.renameAt (sourceParent ++ [a]) (targetParent ++ [b])
          (source.hasTrailingSlash || target.hasTrailingSlash)
    -- The root directory and the dot names cannot be moved or replaced.
    | _, _ => .error .busy

/-- The bytes of a file. -/
def read (t : FileTree) (p : Path) : Except IoError Bytes := do
  let l ← t.resolve p
  match t.node? l with
  | some (.file contents) => .ok contents
  | some .nullDevice => .ok []
  | some .directory => .error .directory
  | none => .error .missing

/-- The text of a file. -/
def readText (t : FileTree) (p : Path) : Except IoError Text := do
  match Utf8.decode? (← t.read p) with
  | some text => .ok text
  | none => .error .notUtf8

/-- Replaces the contents of a file, which is made if it is missing. -/
def write (t : FileTree) (p : Path) (contents : Bytes) : Except IoError FileTree := do
  p.check
  match p.splitLast? with
  | none => .error .directory
  | some (dirs, name) =>
    let parent ← t.resolveDirectory p dirs
    if p.hasTrailingSlash || isDotName name then .error .directory
    else if Path.nameIsTooLong name then .error .nameTooLong
    else
      match t.node? (parent ++ [name]) with
      | some .directory => .error .directory
      | some .nullDevice => .ok t
      | _ => .ok (t.put (parent ++ [name]) (.file contents))

end FileTree

end SourceRecovery
