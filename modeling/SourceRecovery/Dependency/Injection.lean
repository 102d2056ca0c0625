import SourceRecovery.Dependency.Rule
import SourceRecovery.FileTree.Operations
import SourceRecovery.Log

/-! # Injecting dependencies

The lines of the detected rules are **injected** into a build file by putting them in the place of
every **placeholder**. Without a rule the build file is not even read. -/

namespace SourceRecovery

namespace Injection

/-- The comment in a build file that the lines replace. -/
def placeholder : Text := "// Add auto-detected dependencies here".toList

/-- What stands between two injected lines. -/
def lineBreak : Text := "\n    ".toList

/-- The text that replaces a placeholder. -/
def block (rules : List Rule) : Text := Text.join lineBreak (rules.flatMap Rule.lines)

/-- A build file with the lines of the rules injected. -/
def editText (rules : List Rule) (text : Text) : Text :=
  Text.replaceAll placeholder (block rules) text

/-- An **event** of an injection. -/
inductive Event where
  /-- There is no rule. -/
  | nothingDetected
  /-- The lines of some rules are about to be injected. -/
  | injecting (count : Nat) (path : Path)
deriving Repr, DecidableEq

/-- The log line of an event. -/
def Event.line : Event → LogLine
  | nothingDetected => ⟨.info, "No additional dependencies detected.".toList⟩
  | injecting count path =>
    ⟨.info, "Injecting ".toList ++ Text.ofNat count ++ " detected dependencies into ".toList ++
      path ++ ".".toList⟩

/-- Why an injection failed: an operation on the build file failed. -/
structure Error where
  /-- The path of the build file. -/
  path : Path
  /-- Why the operation failed. -/
  cause : IoError
deriving Repr, DecidableEq

/-- The description of an error. -/
def Error.message (e : Error) : Text := e.path ++ ": ".toList ++ e.cause.message

/-- An injection that has come to its end. -/
structure Result where
  /-- The tree it leaves. -/
  tree : FileTree
  /-- The number of rules injected. -/
  count : Except Error Nat
  /-- What it reported, in order. -/
  events : List Event

/-- Reads a file, edits its text and writes it back. -/
def editFile (t : FileTree) (path : Path) (edit : Text → Text) : Except IoError FileTree := do
  let text ← t.readText path
  t.write path (Utf8.encode (edit text))

end Injection

open Injection

/-- **Injects** the lines of rules into a build file and counts the rules. -/
def FileTree.inject (t : FileTree) (path : Path) (rules : List Rule) : Injection.Result :=
  if rules = [] then ⟨t, .ok 0, [.nothingDetected]⟩
  else
    let events := [Injection.Event.injecting rules.length path]
    match editFile t path (editText rules) with
    | .error cause => ⟨t, .error ⟨path, cause⟩, events⟩
    | .ok edited => ⟨edited, .ok rules.length, events⟩

end SourceRecovery
