import SourceRecovery.FileTree.Path
import SourceRecovery.Mapping.Table

/-! # Configuration

A **configuration** says where the mapping file and the source root of a project are and how the
class lines of the mapping file are read. -/

namespace SourceRecovery

/-- A **configuration**. -/
structure Configuration where
  /-- The mapping file, relative to the working directory. -/
  mappingFile : Path
  /-- The source root, relative to the project. -/
  sourceDirectory : Path
  /-- How class lines are read. -/
  captureOrder : CaptureOrder
deriving Repr, DecidableEq

namespace Configuration

/-- The configuration in which nothing has been chosen. -/
def default : Configuration where
  mappingFile := "mapping.txt".toList
  sourceDirectory := "app/src/main/java".toList
  captureOrder := .obfuscatedFirst

instance : Inhabited Configuration := ⟨default⟩

/-- The path of the mapping file, from the path of the working directory. -/
def mappingPath (c : Configuration) (workingDirectory : Path) : Path :=
  workingDirectory.join c.mappingFile

/-- The source root of a project. -/
def sourceRoot (c : Configuration) (project : Path) : Path := project.join c.sourceDirectory

end Configuration

end SourceRecovery
