import SourceRecovery.CommandLine.Arguments
import SourceRecovery.CommandLine.LogFilter
import SourceRecovery.Configuration.Document
import SourceRecovery.Dependency.Detection
import SourceRecovery.Dependency.Injection
import SourceRecovery.Restoration.Run

/-! # Running a command

A command is a function on file trees: from a tree and a command line it makes another tree, what
is printed, and the **exit code**: 0 when the command was carried out, 1 when a configuration
could not be loaded or a build file not be updated, 2 when the command line is rejected. -/

namespace SourceRecovery

namespace CommandLine

/-- The name and version of the program. -/
def versionText : Text := "apksource 1.3.0\n".toList

/-- How the program is used. -/
def usageText : Text :=
  ("Usage: apksource [--json] [-v] deobfuscate [-m FILE] [--source-dir DIR] [--conventional] " ++
    "[--config FILE] PROJECT_DIR\n" ++
    "       apksource [--json] [-v] detect-deps [--no-inject] PROJECT_DIR\n").toList

/-- What a run of the program comes to. -/
structure Output where
  /-- The tree it leaves. -/
  tree : FileTree
  /-- The exit code. -/
  exitCode : Nat
  /-- What is printed to standard output. -/
  out : Text
  /-- What is printed to standard error. -/
  err : Text
deriving Repr, DecidableEq

/-! ## Printing -/

/-- An error with its causes: each cause has a number, and its further lines are indented. Behind
the description of an error in a JSON document the program prints its line and column, which are
left out here. -/
def renderError (message : Text) (causes : List Text) : Text :=
  let cause (p : Text × Nat) : Text :=
    "    ".toList ++ Text.ofNat p.2 ++ ": ".toList ++
      Text.join "\n       ".toList (p.1.splitOn '\n') ++ ['\n']
  "Error: ".toList ++ message ++ "\n\nCaused by:\n".toList ++ causes.zipIdx.flatMap cause

/-- The log lines that a filter lets through. -/
def renderLog (filter : LogFilter) (lines : List LogLine) : Text :=
  filter.warnings ++ (lines.filter filter.shows).flatMap renderLogLine

/-- The line counts of a mapping file as JSON. -/
def countsValue (c : LineCounts) : Json.Value :=
  .object
    [("class_count".toList, .number c.classes), ("member_count".toList, .number c.members),
      ("comment_count".toList, .number c.comments)]

/-- The summary of a restoration as JSON. -/
def summaryValue (s : Restoration.Summary) : Json.Value :=
  .object
    [("status".toList, .string s.status.word), ("rewritten".toList, .number s.tally.relocated),
      ("skipped".toList, .number s.tally.skipped), ("failed".toList, .number s.tally.failed),
      ("mapping".toList, (s.counts?.map countsValue).getD .null)]

/-- The summary of a restoration in words. -/
def summaryText (s : Restoration.Summary) : Text :=
  let counts :=
    match s.counts? with
    | some c =>
      Text.ofNat c.classes ++ " class lines, ".toList ++ Text.ofNat c.members ++
        " member lines ignored\n".toList
    | none => []
  counts ++ (Text.ofNat s.tally.relocated ++ " renamed, ".toList ++ Text.ofNat s.tally.skipped ++
    " skipped, ".toList ++ Text.ofNat s.tally.failed ++ " failed\n".toList)

/-- A value printed over several lines. -/
def renderValue (v : Json.Value) : Text := v.pretty 0 ++ ['\n']

/-- The result of a detection as JSON. -/
def detectionValue (names : List Text) (injected : Nat) : Json.Value :=
  .object
    [("detected".toList, .list (names.map .string)), ("injected".toList, .number injected)]

/-! ## Commands -/

/-- The configuration of a restoration: what is given on the command line comes before what a
configuration file says. -/
def chooseConfiguration (base : Configuration) (mapping? sourceDirectory? : Option Path)
    (conventional : Bool) : Configuration where
  mappingFile := mapping?.getD base.mappingFile
  sourceDirectory := sourceDirectory?.getD base.sourceDirectory
  captureOrder := if conventional then .restoredFirst else base.captureOrder

/-- The configuration in a file, or the default one. -/
def loadBase (t : FileTree) (config? : Option Path) :
    Except (Path × ConfigurationError) Configuration :=
  match config? with
  | none => .ok .default
  | some p =>
    match t.loadConfiguration p with
    | .ok c => .ok c
    | .error e => .error (p, e)

/-- Restores the classes of a project as a configuration says. -/
def runDeobfuscate (t : FileTree) (workingDirectory? : Option Path) (filter : LogFilter)
    (json : Bool) (project : Path) (c : Configuration) : Output :=
  let r := c.restore t workingDirectory? project
  { tree := r.tree
    exitCode := 0
    out := if json then renderValue (summaryValue r.summary) else summaryText r.summary
    err := renderLog filter (r.events.map Restoration.Event.line) }

/-- The build file of a project. -/
def buildFile (project : Path) : Path := (project.join "app".toList).join "build.gradle".toList

/-- Detects the libraries of a project and injects them into its build file. -/
def runDetect (t : FileTree) (filter : LogFilter) (json : Bool) (project : Path) (inject : Bool) :
    Output :=
  let found := t.detect (Configuration.default.sourceRoot project)
  let detected := found.detected
  let names := detected.map Rule.name
  let print (injected : Nat) : Text :=
    if json then renderValue (detectionValue names injected) else names.flatMap (· ++ ['\n'])
  let scanned := found.events.map Detection.Event.line
  -- Without an injection the build file is neither read nor needed.
  if !inject then ⟨t, 0, print 0, renderLog filter scanned⟩
  else
    let r := t.inject (buildFile project) detected
    let err := renderLog filter (scanned ++ r.events.map Injection.Event.line)
    match r.count with
    | .ok n => ⟨r.tree, 0, print n, err⟩
    | .error e =>
      let message := "updating ".toList ++ buildFile project
      ⟨r.tree, 1, [], err ++ renderError message [e.message, e.cause.message]⟩

/-- Carries out an accepted command line. -/
def Invocation.run (i : Invocation) (t : FileTree) (workingDirectory? : Option Path)
    (filter : LogFilter) : Output :=
  match i.command with
  | .deobfuscate project mapping? sourceDirectory? config? conventional =>
    match loadBase t config? with
    | .error (p, e) =>
      ⟨t, 1, [], filter.warnings ++
        renderError ("loading ".toList ++ p) [e.message, e.causeMessage]⟩
    | .ok base =>
      runDeobfuscate t workingDirectory? filter i.json project
        (chooseConfiguration base mapping? sourceDirectory? conventional)
  | .detect project inject => runDetect t filter i.json project inject

/-- The filter of an accepted command line under a logging spec. -/
def Invocation.filter (i : Invocation) (logSpec? : Option Text) : LogFilter :=
  let base := LogFilter.ofVerbosity i.verbose
  (logSpec?.map base.followSpec).getD base

/-- **Runs the program.** The path of the working directory is missing when that directory has
been deleted. -/
def run (t : FileTree) (workingDirectory? : Option Path) (logSpec? : Option Text)
    (args : List Text) : Output :=
  match parse args with
  | .error .rejected => ⟨t, 2, [], usageText⟩
  | .error .help => ⟨t, 0, usageText, []⟩
  | .error .version => ⟨t, 0, versionText, []⟩
  | .ok i => i.run t workingDirectory? (i.filter logSpec?)

/-- A rejected command line changes nothing. -/
theorem run_of_rejected {args : List Text} (h : parse args = .error .rejected) (t : FileTree)
    (workingDirectory? : Option Path) (logSpec? : Option Text) :
    run t workingDirectory? logSpec? args = ⟨t, 2, [], usageText⟩ := by
  simp [run, h]

end CommandLine

end SourceRecovery
