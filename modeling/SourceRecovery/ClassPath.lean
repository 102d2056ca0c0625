import SourceRecovery.Text.Basic

/-! # Class paths

A class name `a.b.C` names a **package** `a.b` and a **simple name** `C`. Its **class path**
`a/b/C` is the same name as a relative path without an extension, and it is the form in which
classes are looked up in a source tree. -/

namespace SourceRecovery

/-- A class name written as a relative path: slashes instead of dots, no extension. -/
abbrev ClassPath := Text

namespace ClassPath

/-- The class path of a class name: every dot becomes a slash. -/
def ofName (name : Text) : ClassPath := name.map fun c => if c = '.' then '/' else c

/-- The part behind the last slash, or the whole path if it has none. -/
def simpleName (path : ClassPath) : Text := (path.reverse.takeWhile (· ≠ '/')).reverse

/-- The part in front of the last slash, or nothing if the path has none. -/
def directory (path : ClassPath) : Text := ((path.reverse.dropWhile (· ≠ '/')).drop 1).reverse

/-- The **package** of a class path: its directory with dots instead of slashes. -/
def package (path : ClassPath) : Text := path.directory.map fun c => if c = '/' then '.' else c

/-- A class path has no dots. -/
theorem not_mem_ofName (name : Text) : '.' ∉ ofName name := by
  simp only [ofName, List.mem_map, not_exists, not_and]
  intro c _
  split <;> simp_all

/-- The package and the simple name of a class path. -/
example : (ofName "a.b.C".toList).package = "a.b".toList ∧
    (ofName "a.b.C".toList).simpleName = "C".toList := by decide

/-- A path without a slash lies in the default package. -/
example : package "C".toList = [] ∧ simpleName "C".toList = "C".toList := by decide

end ClassPath

end SourceRecovery
