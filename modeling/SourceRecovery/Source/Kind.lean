import SourceRecovery.Text.Basic

/-! # Kinds of source files

A source file is a Java or a Kotlin file, told by the extension of its name. -/

namespace SourceRecovery

/-- The **kind** of a source file. -/
inductive SourceKind where
  | java
  | kotlin
deriving Repr, DecidableEq

namespace SourceKind

/-- The kinds in the order in which a class is looked for. -/
def all : List SourceKind := [java, kotlin]

/-- The extension of the file names of a kind. -/
def extension : SourceKind → Text
  | java => "java".toList
  | kotlin => "kt".toList

/-- The word for a kind. -/
def word : SourceKind → Text
  | java => "java".toList
  | kotlin => "kotlin".toList

/-- The kind that an extension stands for. Upper case letters make another extension. -/
def ofExtension? (e : Text) : Option SourceKind := all.find? (·.extension == e)

/-- An extension stands for the kind that has it. -/
theorem ofExtension?_eq_some_iff {e : Text} {k : SourceKind} :
    ofExtension? e = some k ↔ e = k.extension := by
  constructor
  · intro h
    exact (by simpa using List.find?_some h : k.extension = e).symm
  · rintro rfl
    cases k <;> decide

end SourceKind

end SourceRecovery
