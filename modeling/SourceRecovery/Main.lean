import SourceRecovery.CommandLine.Run

/-! # The program

Everything the program decides it decides on a file tree. This outer layer **observes** the part
of the disk that a command line names, runs the command on the tree observed, and **settles** the
disk to the tree that the command leaves. -/

namespace SourceRecovery

namespace Disk

/-- The absolute path of a location. -/
def pathOf (l : Location) : String := String.ofList ('/' :: Text.join ['/'] l)

/-- What is at a location of the disk. -/
def nodeOnDisk? (l : Location) : IO (Option Node) := do
  let entry : IO.FS.DirEntry := ⟨"/", pathOf l⟩
  try
    match (← entry.path.metadata).type with
    | .dir => return some .directory
    | .file => return some (.file (← IO.FS.readBinFile (pathOf l)).toList)
    | _ => return if pathOf l = "/dev/null" then some .nullDevice else none
  catch _ => return none

/-- The tree with all that is on the disk below a directory. -/
partial def observeBelow (t : FileTree) (l : Location) : IO FileTree := do
  let entry : IO.FS.DirEntry := ⟨"/", pathOf l⟩
  let children ← try entry.path.readDir catch _ => pure #[]
  let mut t := t
  for child in children do
    let m := l ++ [child.fileName.toList]
    if let some n ← nodeOnDisk? m then
      t := t.put m n
      if n = .directory then
        t ← observeBelow t m
  return t

/-- The tree with all that is on the disk along the segments of a path, and, if `deep`, below its
end. -/
def observeAlong (t : FileTree) (l : Location) (deep : Bool) : List Text → IO FileTree
  | [] => if deep && t.hasDirectory l then observeBelow t l else return t
  | s :: rest => do
    if Path.isIdle s then
      observeAlong t l deep rest
    else if s = ['.', '.'] then
      observeAlong t l.dropLast deep rest
    else
      match ← nodeOnDisk? (l ++ [s]) with
      | some n => observeAlong (t.put (l ++ [s]) n) (l ++ [s]) deep rest
      | none => return t

/-- The tree with all that is on the disk at a path, and, if `deep`, below it. -/
def observePath (t : FileTree) (deep : Bool) (p : Path) : IO FileTree :=
  if p.isAbsolute then observeAlong t [] deep p.segments
  else do
    let t ← observeAlong t [] false (t.workingDirectory)
    observeAlong t t.workingDirectory deep p.segments

/-- The tree of the disk, as far as a command depends on it. -/
def observeFor (t : FileTree) (i : CommandLine.Invocation) : IO FileTree := do
  match i.command with
  | .deobfuscate project mapping? sourceDirectory? config? conventional =>
    let t ← (config?.map (observePath t false)).getD (pure t)
    match CommandLine.loadBase t config? with
    | .error _ => return t
    | .ok base =>
      let c := CommandLine.chooseConfiguration base mapping? sourceDirectory? conventional
      let t ← observePath t false (c.mappingPath t.workingPath)
      observePath t true (c.sourceRoot project)
  | .detect project _ =>
    let t ← observePath t false (CommandLine.buildFile project)
    observePath t true (Configuration.default.sourceRoot project)

/-- Makes the disk agree with `after`, where it agreed with `before`. -/
def settle (before after : FileTree) : IO Unit := do
  let changed := after.entries.filter fun (l, n) => before.node? l != some n
  for (l, n) in changed do
    if n = .directory then
      IO.FS.createDirAll (pathOf l)
  for (l, n) in changed do
    if let .file contents := n then
      IO.FS.writeBinFile (pathOf l) ⟨contents.toArray⟩
  for (l, n) in before.entries do
    if n != .directory && (after.node? l).isNone then
      IO.FS.removeFile (pathOf l)

end Disk

/-- Runs the program on the disk and gives its exit code. -/
def runOnDisk (args : List String) : IO UInt32 := do
  let directory? ← try pure (some (← IO.currentDir).toString) catch _ => pure none
  let location := (directory?.map fun d => (d.toList.splitOn '/').filter (· ≠ [])).getD []
  let args := args.map String.toList
  let logSpec? := (← IO.getEnv "RUST_LOG").map String.toList
  let empty : FileTree := ⟨[], location⟩
  let tree ←
    match CommandLine.parse args with
    | .ok i => Disk.observeFor empty i
    | .error _ => pure empty
  let output := CommandLine.run tree (directory?.map String.toList) logSpec? args
  Disk.settle tree output.tree
  (← IO.getStdout).putStr (String.ofList output.out)
  (← IO.getStderr).putStr (String.ofList output.err)
  return output.exitCode.toUInt32

end SourceRecovery

/-- The program. -/
def main (args : List String) : IO UInt32 := SourceRecovery.runOnDisk args
