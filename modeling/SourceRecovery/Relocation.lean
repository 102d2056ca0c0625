import SourceRecovery.FileTree.Operations
import SourceRecovery.Mapping.Table
import SourceRecovery.Source.Declaration
import SourceRecovery.Source.Kind
import SourceRecovery.Source.Package

/-! # Relocating the source file of a class

The source file of a class lies at the place its class path names below a **source root**. An
entry of a mapping table is applied by **locating** the file of the obfuscated path and
**relocating** it: the file moves to the place of the restored path, its first declaration of the
obfuscated simple name is renamed, and its first package statement is exchanged.

A relocation that fails leaves the tree as the last step that succeeded made it. -/

namespace SourceRecovery

/-- A source file that was found. -/
structure SourceFile where
  /-- The path of the file. -/
  path : Path
  /-- The kind of the file. -/
  kind : SourceKind
deriving Repr, DecidableEq

/-- The path of the source file of a class below a source root. -/
def classFile (root : Path) (path : ClassPath) (kind : SourceKind) : Path :=
  root.join (path ++ '.' :: kind.extension)

/-- The text of a source file after its class has been restored. -/
def Entry.editText (e : Entry) (text : Text) : Text :=
  PackageStatement.replace e.restored.package
    (Declaration.rename e.obfuscated.simpleName e.restored.simpleName text)

/-- Why a relocation failed. -/
inductive RelocationError where
  /-- An operation on the file tree failed at the path. -/
  | io (path : Path) (cause : IoError)
  /-- The declaration could not be looked for. -/
  | declaration (cause : Declaration.Error)
deriving Repr, DecidableEq

/-- The description of an error. -/
def RelocationError.message : RelocationError → Text
  | io path cause => path ++ (": ".toList ++ cause.message)
  | declaration cause => cause.message

/-- What became of an entry. -/
inductive Outcome where
  /-- The class has no source file. -/
  | skipped
  /-- The source file was relocated. -/
  | relocated (source target : Path)
  /-- The source file was found, but its relocation failed. -/
  | failed (source : Path) (error : RelocationError)
deriving Repr, DecidableEq

namespace FileTree

/-- The source file of a class, if it is a regular file; Java comes before Kotlin. -/
def locate? (t : FileTree) (root : Path) (path : ClassPath) : Option SourceFile :=
  SourceKind.all.findSome? fun kind =>
    if t.isFile (classFile root path kind) then some ⟨classFile root path kind, kind⟩ else none

/-- Edits the file at a path for an entry whose file has been moved there. -/
def editFile (t : FileTree) (target : Path) (e : Entry) :
    FileTree × Except RelocationError Path :=
  match t.readText target with
  | .error c => (t, .error (.io target c))
  | .ok text =>
    if Declaration.isTooLong e.obfuscated.simpleName then (t, .error (.declaration .nameTooLong))
    else
      match t.write target (Utf8.encode (e.editText text)) with
      | .error c => (t, .error (.io target c))
      | .ok t => (t, .ok target)

/-- **Relocates** a source file for an entry: makes the directories of the target, moves the file
and edits it. The answer is the path of the target. -/
def relocate (t : FileTree) (root : Path) (file : SourceFile) (e : Entry) :
    FileTree × Except RelocationError Path :=
  let target := classFile root e.restored file.kind
  let parent := target.parent?.getD []
  match t.makeDirectories parent with
  | (t, .error c) => (t, .error (.io parent c))
  | (t, .ok ()) =>
    match t.rename file.path target with
    | .error c => (t, .error (.io file.path c))
    | .ok t => t.editFile target e

/-- Applies one entry: locates the file of its class and relocates it. -/
def restore (t : FileTree) (root : Path) (e : Entry) : FileTree × Outcome :=
  match t.locate? root e.obfuscated with
  | none => (t, .skipped)
  | some file =>
    match t.relocate root file e with
    | (t, .ok target) => (t, .relocated file.path target)
    | (t, .error error) => (t, .failed file.path error)

/-- A class without a source file leaves the tree alone. -/
theorem restore_of_locate?_eq_none {t : FileTree} {root : Path} {e : Entry}
    (h : t.locate? root e.obfuscated = none) : t.restore root e = (t, .skipped) := by
  simp [restore, h]

end FileTree

end SourceRecovery
