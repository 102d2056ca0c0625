import SourceRecovery.FileTree.Path

/-! # Command line arguments

A command line is a list of texts: options, the word of a **command**, more options and the path
of a project. Options with two dashes are written out in full; options with one dash may be joined
(`-vm FILE`). A value follows its option as the next text, behind an equals sign, or right behind
the letter. Two dashes alone end the options.

A command line is **rejected** when an option is unknown, is given twice, has a value it does not
take or lacks one it needs, when a value or path is empty, and when the command or its path is
missing or followed by another. -/

namespace SourceRecovery

namespace CommandLine

/-- An option of the command line. -/
inductive Flag where
  | json
  | verbose
  | help
  | version
  | mapping
  | sourceDirectory
  | conventional
  | config
  | noInject
deriving Repr, DecidableEq

namespace Flag

/-- The name of an option behind two dashes. -/
def name : Flag → Text
  | json => "json".toList
  | verbose => "verbose".toList
  | help => "help".toList
  | version => "version".toList
  | mapping => "mapping".toList
  | sourceDirectory => "source-dir".toList
  | conventional => "conventional".toList
  | config => "config".toList
  | noInject => "no-inject".toList

/-- The letter of an option behind one dash. -/
def letter? : Flag → Option Char
  | verbose => some 'v'
  | help => some 'h'
  | version => some 'V'
  | mapping => some 'm'
  | _ => none

/-- Whether an option takes a value. -/
def takesValue : Flag → Bool
  | mapping | sourceDirectory | config => true
  | _ => false

end Flag

/-- A command. -/
inductive CommandWord where
  | deobfuscate
  | detect
deriving Repr, DecidableEq

/-- The commands. -/
def CommandWord.all : List CommandWord := [deobfuscate, detect]

/-- The word of a command. -/
def CommandWord.word : CommandWord → Text
  | deobfuscate => "deobfuscate".toList
  | detect => "detect-deps".toList

/-- The options allowed in front of a command. -/
def commonFlags : List Flag := [.json, .verbose, .help, .version]

/-- The options allowed behind a command. -/
def CommandWord.flags : CommandWord → List Flag
  | deobfuscate => [.json, .verbose, .help, .mapping, .sourceDirectory, .conventional, .config]
  | detect => [.json, .verbose, .help, .noInject]

/-- Why the reading of a command line ends before its last text. -/
inductive Stop where
  /-- The command line is rejected. -/
  | rejected
  /-- Help is asked for. -/
  | help
  /-- The version is asked for. -/
  | version
deriving Repr, DecidableEq

/-- What has been read of the texts on one side of the command. -/
structure Reading where
  /-- The options given, the last one first, with their values. -/
  given : List (Flag × Text)
  /-- The option whose value is the next text. -/
  pending? : Option Flag
  /-- Whether two dashes have ended the options. -/
  ended : Bool
  /-- The path of the project. -/
  project? : Option Path
deriving Repr, DecidableEq

namespace Reading

/-- The reading before the first text. -/
def start : Reading := ⟨[], none, false, none⟩

/-- The value of an option that has been given. -/
def value? (r : Reading) (f : Flag) : Option Text := r.given.lookup f

/-- Whether an option has been given. -/
def has (r : Reading) (f : Flag) : Bool := (r.value? f).isSome

/-- Takes up an option with its value, which is empty for an option that takes none. -/
def give (r : Reading) (f : Flag) (value : Text) : Except Stop Reading :=
  if r.has f then .error .rejected
  else if f.takesValue && value = [] then .error .rejected
  else
    match f with
    | .help => .error .help
    | .version => .error .version
    | _ => .ok { r with given := (f, value) :: r.given, pending? := none }

/-- Reads the text behind an option that lacks its value. -/
def givePending (r : Reading) (f : Flag) (arg : Text) : Except Stop Reading :=
  if arg.head? = some '-' ∧ arg ≠ ['-'] then .error .rejected else r.give f arg

/-- Reads an option written out, behind its two dashes. -/
def readLong (r : Reading) (allowed : List Flag) (body : Text) : Except Stop Reading :=
  let name := body.takeWhile (· ≠ '=')
  let value? := if '=' ∈ body then some (body.drop (name.length + 1)) else none
  match allowed.find? (·.name == name), value? with
  | none, _ => .error .rejected
  | some f, none => if f.takesValue then .ok { r with pending? := some f } else r.give f []
  | some f, some value => if f.takesValue then r.give f value else .error .rejected

/-- Reads joined letters, behind their dash. The first one that takes a value takes the rest. -/
def readLetters (r : Reading) (allowed : List Flag) : Text → Except Stop Reading
  | [] => .ok r
  | c :: rest =>
    match allowed.find? (·.letter? == some c) with
    | none => .error .rejected
    | some f =>
      if f.takesValue then
        match rest with
        | [] => .ok { r with pending? := some f }
        | '=' :: value => r.give f value
        | value => r.give f value
      else
        match r.give f [] with
        | .error stop => .error stop
        | .ok r => r.readLetters allowed rest

/-- Reads the path of the project. -/
def readProject (r : Reading) (allowed : Bool) (arg : Text) : Except Stop Reading :=
  if !allowed || r.project?.isSome || arg = [] then .error .rejected
  else .ok { r with project? := some arg }

/-- Reads one text. In front of the command no path is allowed. -/
def read (allowed : List Flag) (pathAllowed : Bool) (r : Reading) (arg : Text) :
    Except Stop Reading :=
  match r.pending? with
  | some f => r.givePending f arg
  | none =>
    if r.ended then r.readProject pathAllowed arg
    else
      match arg with
      | ['-', '-'] => .ok { r with ended := true }
      | '-' :: '-' :: body => r.readLong allowed body
      | '-' :: c :: letters => r.readLetters allowed (c :: letters)
      | arg => r.readProject pathAllowed arg

end Reading

/-- What is to be done. -/
inductive Command where
  /-- Restore the classes of a project. -/
  | deobfuscate (project : Path) (mapping? sourceDirectory? config? : Option Path)
      (conventional : Bool)
  /-- Detect the libraries of a project and inject them unless told otherwise. -/
  | detect (project : Path) (inject : Bool)
deriving Repr, DecidableEq

/-- A command line that has been accepted. -/
structure Invocation where
  /-- Whether the result is printed as JSON. -/
  json : Bool
  /-- Whether debug lines are logged. -/
  verbose : Bool
  /-- What is to be done. -/
  command : Command
deriving Repr, DecidableEq

/-- The command of what has been read behind its word. -/
def CommandWord.command (w : CommandWord) (r : Reading) (project : Path) : Command :=
  match w with
  | .deobfuscate =>
    .deobfuscate project (r.value? .mapping) (r.value? .sourceDirectory) (r.value? .config)
      (r.has .conventional)
  | .detect => .detect project (!r.has .noInject)

/-- Reads the texts behind the word of a command; `front` is what has been read in front of it. -/
def parseCommand (w : CommandWord) (front : Reading) (args : List Text) : Except Stop Invocation :=
  match args.foldlM (Reading.read w.flags true) Reading.start with
  | .error stop => .error stop
  | .ok r =>
    match r.pending?, r.project? with
    | none, some project =>
      .ok
        { json := front.has .json || r.has .json
          verbose := front.has .verbose || r.has .verbose
          command := w.command r project }
    | _, _ => .error .rejected

/-- The word that asks for help in the place of a command. -/
def helpWord : Text := "help".toList

/-- Reads the texts behind the word `help`: at most one, the word of a command or `help` again. -/
def parseHelp : List Text → Stop
  | [] => .help
  | [arg] =>
    if arg = helpWord ∨ arg ∈ CommandWord.all.map CommandWord.word then .help else .rejected
  | _ => .rejected

/-- Reads the texts from one in front of the command on. -/
def parseFrom (front : Reading) : List Text → Except Stop Invocation
  | [] => .error .rejected
  | arg :: args =>
    match if front.ended then none else CommandWord.all.find? (·.word == arg) with
    | some w => parseCommand w front args
    | none =>
      if !front.ended && arg = helpWord then .error (parseHelp args)
      else
        match Reading.read commonFlags false front arg with
        | .error stop => .error stop
        | .ok front => parseFrom front args

/-- Reads a **command line**. -/
def parse (args : List Text) : Except Stop Invocation := parseFrom Reading.start args

/-- Options stand on either side of the command. -/
example : (parse ["-v".toList, "deobfuscate".toList, "P".toList, "--mapping=m".toList,
      "--json".toList]).toOption =
    some ⟨true, true, .deobfuscate ['P'] (some ['m']) none none false⟩ := by decide

/-- An option given twice on one side is rejected. -/
example : (parse ["-vv".toList, "deobfuscate".toList, "P".toList]).toOption = none := by decide

end CommandLine

end SourceRecovery
