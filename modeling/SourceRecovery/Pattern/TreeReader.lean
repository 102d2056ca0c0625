import SourceRecovery.Pattern.ClassReader
import SourceRecovery.Text.Letter

/-! # Reading the tree of a pattern

The parts of a pattern that stand side by side make a **branch**, and the branches between bars an
alternation. A group opens a **level** of branches of its own, and the reader keeps the levels
around it on a stack. A repetition takes the part in front of it.

* **`readTree`** — the syntax tree of a pattern, or the first mistake in it. -/

namespace SourceRecovery

namespace Pattern

/-- The branches of a group, or of the whole pattern, as far as they have been read. -/
structure Level where
  /-- The branches that have ended, the last one first. -/
  branches : List Tree
  /-- The parts of the branch that is being read, the last one first. -/
  parts : List Tree
  /-- Where the first branch starts. -/
  first : Nat
  /-- Where the branch that is being read starts. -/
  start : Nat
deriving Repr

namespace Level

/-- The level that opens at a cursor. -/
def opened (c : Cursor) : Level := ⟨[], [], c.offset, c.offset⟩

/-- The level with one more part. -/
def push (l : Level) (part : Tree) : Level := { l with parts := part :: l.parts }

/-- The tree of the branch that is being read. -/
def branch (l : Level) (stop : Nat) : Tree :=
  match l.parts with
  | [] => .empty ⟨l.start, stop⟩
  | [part] => part
  | parts => .sequence parts.reverse ⟨l.start, stop⟩

/-- The level at the start of the next branch, behind the bar at a cursor. -/
def nextBranch (l : Level) (c : Cursor) : Level :=
  { l with branches := l.branch c.offset :: l.branches, parts := [], start := c.bump.offset }

/-- The tree of a level. -/
def toTree (l : Level) (stop : Nat) : Tree :=
  match l.branches with
  | [] => l.branch stop
  | branches => .alternation (l.branch stop :: branches).reverse ⟨l.first, stop⟩

/-- The part that a repetition takes, and the level without it. Flags cannot be repeated. -/
def lastPart? (l : Level) : Option (Tree × Level) :=
  match l.parts with
  | [] => none
  | .flags _ _ :: _ => none
  | part :: parts => some (part, { l with parts })

end Level

/-! ## Groups -/

/-- A group that has been opened. -/
structure OpenGroup where
  /-- The level around the group. -/
  outer : Level
  /-- The flags of the group. -/
  flags : List FlagItem
  /-- Where the group is opened. -/
  opening : Span
  /-- Whether blanks and comments mean nothing around the group. -/
  verbose : Bool
deriving Repr

/-- Where the reading of a pattern stands. -/
structure TreeState where
  /-- The level that is being read. -/
  level : Level
  /-- The groups it is in, the innermost first. -/
  groups : List OpenGroup
  /-- The names of the groups in front, and where they are written. -/
  names : List (Text × Span)
deriving Repr

/-- Whether a character can stand at the front of the name of a group. -/
def isGroupNameStart (c : Char) : Bool := c = '_' || Text.isAlphabetic c

/-- Whether a character can stand further behind in the name of a group. -/
def isGroupNamePart (c : Char) : Bool := "_.[]".toList.contains c || Text.isAlphanumeric c

/-- Reads the name of a group, and adds it to those in front. -/
def readGroupName (names : List (Text × Span)) (c : Cursor) :
    Except Mistake (List (Text × Span) × Cursor) :=
  let name :=
    match c.rest with
    | d :: t => if isGroupNameStart d then d :: t.takeWhile isGroupNamePart else []
    | [] => []
  let close := c.advance name.length
  let span := close.since c.offset
  match close.char? with
  | none => fail .groupNameUnclosed close.here
  | some '>' =>
    if name = [] then fail .groupNameEmpty span
    else
      match names.lookup name with
      | some other => fail (.groupNameTaken other) span
      | none => .ok ((name, span) :: names, close.bump)
  | some _ => fail .groupNameCharacter close.hereCharacter

/-- The item of a list of flags that a character stands for. -/
def FlagItem.ofChar? (c : Char) : Option FlagItem :=
  if c = '-' then some .minus else (Flag.ofLetter? c).map .flag

/-- The fault that an item stands in a list of flags a second time. -/
def FlagItem.repeated (other : Span) : FlagItem → Fault
  | minus => .minusRepeated other
  | flag _ => .flagRepeated other

/-- Reads flags up to a colon or a closing bracket. `found` are those in front, the last one
first. -/
def readFlags (found : List (FlagItem × Span)) (c : Cursor) :
    Except Mistake (List FlagItem × Cursor) :=
  match _h : c.rest with
  | [] => fail .flagExpected c.here
  | d :: _ =>
    if d = ':' ∨ d = ')' then
      match found with
      | (.minus, span) :: _ => fail .flagDangling span
      | _ => .ok ((found.map (·.1)).reverse, c)
    else
      match FlagItem.ofChar? d with
      | none => fail .flagUnknown c.hereCharacter
      | some item =>
        match found.lookup item with
        | some other => fail (item.repeated other) c.hereCharacter
        | none => readFlags ((item, c.hereCharacter) :: found) c.bump
termination_by c.rest.length
decreasing_by exact Cursor.length_bump_lt (by simp [_h])

/-- The signs of the groups that look around, which are not supported. -/
def lookAroundSigns : List String := ["?=", "?!", "?<=", "?<!"]

namespace TreeState

/-- Sets the flags that concern the reading itself. -/
def follow (flags : List FlagItem) (c : Cursor) : Cursor :=
  { c with verbose := (flagState? .verbose flags).getD c.verbose }

/-- Goes into a group, whose sign ends at a cursor. -/
def enter (s : TreeState) (opening : Span) (flags : List FlagItem) (c : Cursor) :
    TreeState × Cursor :=
  ({ s with level := Level.opened c, groups := ⟨s.level, flags, opening, c.verbose⟩ :: s.groups },
    follow flags c)

/-- Reads the sign of a group, or of flags for what follows, from its opening bracket on. -/
def openGroup (s : TreeState) (c : Cursor) : Except Mistake (TreeState × Cursor) :=
  let opening := c.hereCharacter
  let inside := c.bumpIgnoring
  match lookAroundSigns.findSome? fun sign => inside.take? sign.toList with
  | some behind => fail .lookAround (behind.since opening.start)
  | none =>
    match (inside.take? "?P<".toList).or (inside.take? "?<".toList), inside.take? ['?'] with
    | some c, _ =>
      (readGroupName s.names c).map fun (names, c) => enter { s with names } opening [] c
    | none, none => .ok (s.enter opening [] inside)
    | none, some c =>
      if c.rest = [] then fail .groupUnclosed opening
      else do
        let (flags, close) ← readFlags [] c
        let behind := close.bump
        if close.char? = some ':' then
          return s.enter opening flags behind
        else if flags = [] then
          fail .repetitionOfNothing inside.here
        else
          let part := .flags flags (behind.since opening.start)
          return ({ s with level := s.level.push part }, follow flags behind)

/-- Closes the innermost group at a cursor. -/
def closeGroup (s : TreeState) (c : Cursor) : Except Mistake (TreeState × Cursor) :=
  match s.groups with
  | [] => fail .groupUnopened c.hereCharacter
  | group :: groups =>
    let behind := c.bump
    let part := .group group.flags (s.level.toTree c.offset) (behind.since group.opening.start)
    let level := group.outer.push part
    .ok ({ s with level, groups }, { behind with verbose := group.verbose })

end TreeState

/-! ## Repetitions -/

/-- How often a part is repeated. -/
structure Rounds where
  /-- The least number of rounds. -/
  low : Nat
  /-- The greatest number of rounds, if there is one. -/
  high? : Option Nat
deriving Repr, DecidableEq

/-- Whether some number of rounds lies between the bounds. -/
def Rounds.isPossible (r : Rounds) : Bool := r.high?.all (r.low ≤ ·)

/-- The repetitions with a sign of their own. -/
def repetitionSigns : List (Char × Rounds) :=
  [('*', ⟨0, none⟩), ('+', ⟨1, none⟩), ('?', ⟨0, some 1⟩)]

/-- Reads the bounds of a repetition, from the opening brace up to the closing one. -/
def readBounds (c : Cursor) : Except Mistake (Rounds × Cursor) :=
  let unclosed (front : Cursor) := fail .repetitionUnclosed (front.since c.offset)
  let front := c.bumpIgnoring
  if front.rest = [] then unclosed front
  else
    let (low, behind) := readCount front
    match behind.char? with
    | none => unclosed behind
    | some ',' =>
      let front := behind.bumpIgnoring
      match front.char? with
      | none => unclosed front
      | some '}' => low.map fun low => (⟨low, none⟩, front)
      | some _ => do
        let low ← low
        let (high, behind) := readCount front
        let high ← high
        return (⟨low, some high⟩, behind)
    | some _ => low.map fun n => (⟨n, some n⟩, behind)

/-- Moves over the mark of a repetition that prefers few rounds, which are found all the same. -/
def skipLazyMark (c : Cursor) : Cursor := if c.char? = some '?' then c.bump else c

/-- Reads a repetition with bounds. -/
def readBoundedRepetition (c : Cursor) : Except Mistake (Rounds × Cursor) := do
  let (rounds, close) ← readBounds c
  if close.char? ≠ some '}' then
    fail .repetitionUnclosed (close.since c.offset)
  else
    let behind := skipLazyMark close.bumpIgnoring
    if rounds.isPossible then return (rounds, behind)
    else fail .repetitionBounds (behind.since c.offset)

/-- Reads a repetition of the last part, whose sign may be one of `repetitionSigns`. -/
def TreeState.repeatLast (s : TreeState) (sign : Option Rounds) (c : Cursor) :
    Except Mistake (TreeState × Cursor) :=
  match s.level.lastPart? with
  | none => fail .repetitionOfNothing c.here
  | some (part, level) => do
    let (rounds, behind) ←
      match sign with
      | some rounds => pure (rounds, skipLazyMark c.bump)
      | none => readBoundedRepetition c
    let span := behind.since part.span.start
    return ({ s with level := level.push (.repetition part rounds.low rounds.high? span) }, behind)

/-! ## Trees -/

/-- A single part as a tree. -/
def Atom.toTree : Atom → Tree
  | literal l => .literal l
  | assertion a span => .assertion a span
  | letter kind negated span => .letter kind negated span
  | property p => .property p

/-- Reads a part that is neither a group nor a repetition. -/
def readPart (d : Char) (c : Cursor) : Except Mistake (Tree × Cursor) :=
  let span := c.hereCharacter
  match d with
  | '[' => readClass c
  | '\\' => (readEscape c).map fun (atom, c) => (atom.toTree, c)
  | '.' => .ok (.dot span, c.bump)
  | '^' => .ok (.assertion .lineStart span, c.bump)
  | '$' => .ok (.assertion .lineEnd span, c.bump)
  | _ => .ok (.literal ⟨d, false, span⟩, c.bump)

namespace TreeState

/-- Reads what is at a cursor. -/
def read (s : TreeState) (d : Char) (c : Cursor) : Except Mistake (TreeState × Cursor) :=
  match d, repetitionSigns.lookup d with
  | '(', _ => s.openGroup c
  | ')', _ => s.closeGroup c
  | '|', _ => .ok ({ s with level := s.level.nextBranch c }, c.bump)
  | '{', _ => s.repeatLast none c
  | _, some rounds => s.repeatLast (some rounds) c
  | _, none =>
    (readPart d c).map fun (part, c) => ({ s with level := s.level.push part }, c)

/-- One step of the reading of a pattern. -/
def step (s : TreeState) (d : Char) (c : Cursor) :
    Except Mistake (Cursor.Progress TreeState Tree) :=
  (s.read d c).map fun (s, c) => .more s c

/-- The tree at the end of a pattern. -/
def finish (s : TreeState) (c : Cursor) : Except Mistake Tree :=
  match s.groups with
  | [] => .ok (s.level.toTree c.offset)
  | group :: _ => fail .groupUnclosed group.opening

end TreeState

/-- The syntax tree of a pattern. -/
def readTree (t : Text) : Except Mistake Tree := do
  let c := Cursor.start t
  let (tree, _) ← c.iterate TreeState.step TreeState.finish ⟨Level.opened c, [], []⟩
  match tree.tooDeep? depthLimit with
  | some span => fail .tooDeep span
  | none => return tree

end Pattern

end SourceRecovery
