import SourceRecovery.Pattern.Escape

/-! # Reading classes in brackets

A class in brackets holds characters, ranges of characters, named classes and classes in brackets
of their own. All that stands side by side makes a **union**; the signs of the set operations take
the unions on either side, from the left. The reader keeps the brackets and operations it is in on
a stack. -/

namespace SourceRecovery

namespace Pattern

/-- The sets that stand side by side, the last one first. -/
structure Union where
  /-- The sets. -/
  items : List ClassSet
  /-- Where they are written. -/
  span : Span
deriving Repr

namespace Union

/-- The union of no sets at a cursor. -/
def start (c : Cursor) : Union := ⟨[], c.here⟩

/-- The union with one more set. -/
def push (u : Union) (s : ClassSet) : Union where
  items := s :: u.items
  span := ⟨if u.items.isEmpty then s.span.start else u.span.start, s.span.stop⟩

/-- The set of all that stands side by side. -/
def toSet (u : Union) : ClassSet :=
  match u.items with
  | [] => .empty u.span
  | [s] => s
  | items => .union items.reverse u.span

end Union

/-- What the reading of a class is in. -/
inductive ClassFrame where
  /-- A bracket, with what stands in front of it in the class around it. -/
  | bracket (outer : Union) (negated : Bool) (opening : Span)
  /-- An operation, with what stands in front of its sign. -/
  | operation (op : SetOperation) (left : ClassSet)
deriving Repr

/-- The innermost bracket that has been opened. -/
def openBracket? (frames : List ClassFrame) : Option Span :=
  frames.findSome? fun
    | .bracket _ _ opening => some opening
    | .operation _ _ => none

/-- Fails because the innermost bracket is not closed. -/
def failUnclosed {α : Type} (frames : List ClassFrame) (c : Cursor) : Except Mistake α :=
  fail .classUnclosed ((openBracket? frames).getD c.here)

/-- Reads the hyphens at the front of a class, which stand for themselves. -/
def readHyphens (start : Nat) (u : Union) (c : Cursor) : Except Mistake (Union × Cursor) :=
  match _h : c.rest with
  | '-' :: _ =>
    let next := c.bumpIgnoring
    if next.rest = [] then fail .classUnclosed ⟨start, start⟩
    else readHyphens start (u.push (.literal ⟨'-', false, c.hereCharacter⟩)) next
  | _ => .ok (u, c)
termination_by c.rest.length
decreasing_by
  exact Nat.lt_of_le_of_lt (Cursor.length_skipIgnored_le _) (Cursor.length_bump_lt (by simp [_h]))

/-- Opens a bracket: what stands for itself at the front of the class is read with it. -/
def openBracket (frames : List ClassFrame) (outer : Union) (c : Cursor) :
    Except Mistake (List ClassFrame × Union × Cursor) := do
  let start := c.offset
  let front := c.bumpIgnoring
  let negated : Bool := front.char? = some '^'
  let front := if negated then front.bumpIgnoring else front
  if front.rest = [] then
    fail .classUnclosed (front.since start)
  else
    let (u, c) ← readHyphens start (Union.start front) front
    if u.items.isEmpty ∧ c.char? = some ']' then
      let next := c.bumpIgnoring
      if next.rest = [] then
        fail .classUnclosed (next.since start)
      else
        let u := u.push (.literal ⟨']', false, c.hereCharacter⟩)
        return (.bracket outer negated (next.since start) :: frames, u, next)
    else
      return (.bracket outer negated (c.since start) :: frames, u, c)

/-- The classes of ASCII characters with their names. -/
def asciiClassNames : List (String × AsciiClass) :=
  [("alnum", .alnum), ("alpha", .alpha), ("ascii", .ascii), ("blank", .blank), ("cntrl", .cntrl),
    ("digit", .digit), ("graph", .graph), ("lower", .lower), ("print", .print),
    ("punct", .punct), ("space", .space), ("upper", .upper), ("word", .word),
    ("xdigit", .xdigit)]

/-- Reads a named class of ASCII characters, if there is one. -/
def readAsciiClass? (c : Cursor) : Option (ClassSet × Cursor) :=
  match c.take? "[:".toList with
  | none => none
  | some front =>
    let negated : Bool := front.char? = some '^'
    let front := if negated then front.bump else front
    let name := front.rest.takeWhile (· ≠ ':')
    match (front.advance name.length).take? ":]".toList,
      asciiClassNames.find? (·.1.toList == name) with
    | some behind, some (_, kind) => some (.ascii kind negated (behind.since c.offset), behind)
    | _, _ => none

/-- Reads a single part of a class. -/
def readClassAtom (c : Cursor) : Except Mistake (Atom × Cursor) :=
  match c.char? with
  | some '\\' => readEscape c
  | some d => .ok (.literal ⟨d, false, c.hereCharacter⟩, c.bump)
  | none => fail .classUnclosed c.here

/-- A single part as a set. -/
def Atom.toSet : Atom → Except Mistake ClassSet
  | literal l => .ok (.literal l)
  | letter kind negated span => .ok (.letter kind negated span)
  | property p => .ok (.property p)
  | assertion _ span => fail .classEscape span

/-- A single part as the end of a range. -/
def Atom.toBoundary : Atom → Except Mistake Literal
  | literal l => .ok l
  | a => fail .classRangeBoundary a.span

/-- Reads a single part of a class, or a range between two of them. -/
def readClassRange (frames : List ClassFrame) (c : Cursor) :
    Except Mistake (ClassSet × Cursor) := do
  let (first, behind) ← readClassAtom c
  let behind := behind.skipIgnored
  if behind.rest = [] then
    failUnclosed frames behind
  else if behind.char? ≠ some '-' ∨ behind.peekIgnoring? = some ']' ∨
      behind.peekIgnoring? = some '-' then
    return (← first.toSet, behind)
  else
    let front := behind.bumpIgnoring
    if front.rest = [] then
      failUnclosed frames front
    else
      let (second, behind) ← readClassAtom front
      let low ← first.toBoundary
      let high ← second.toBoundary
      if low.char ≤ high.char then return (.range low high, behind)
      else fail .classRange ⟨low.span.start, high.span.stop⟩

/-- The set of an operation at the top of the stack, whose sign has been read, with what stands
behind the sign, and the stack without it. -/
def closeOperation (right : ClassSet) : List ClassFrame → ClassSet × List ClassFrame
  | .operation op left :: frames =>
    (.operation op left right ⟨left.span.start, right.span.stop⟩, frames)
  | frames => (right, frames)

/-- The signs of the set operations. -/
def operationSigns : List (Text × SetOperation) :=
  [(['&', '&'], .intersection), (['-', '-'], .difference), (['~', '~'], .symmetricDifference)]

/-- Where the reading of a class stands: the brackets and operations it is in, and what stands side
by side in the innermost. -/
structure ClassState where
  /-- The brackets and operations, the innermost first. -/
  frames : List ClassFrame
  /-- What stands side by side. -/
  union : Union
deriving Repr

/-- Closes the innermost bracket. -/
def ClassState.close (s : ClassState) (c : Cursor) : Cursor.Progress ClassState Tree :=
  let behind := c.bump
  match closeOperation s.union.toSet s.frames with
  | (set, [.bracket _ negated opening]) =>
    .done (.bracketed negated set (behind.since opening.start)) behind
  | (set, .bracket outer negated opening :: frames) =>
    .more ⟨frames, outer.push (.bracketed negated set (behind.since opening.start))⟩ behind
  -- An operation is never directly inside of another one.
  | (set, frames) => .more ⟨frames, s.union.push set⟩ behind

/-- Reads the next part of a class. -/
def ClassState.step (s : ClassState) (d : Char) (c : Cursor) :
    Except Mistake (Cursor.Progress ClassState Tree) := do
  if d = ']' then
    return s.close c
  else if d = '[' then
    match readAsciiClass? c with
    | some (set, c) => return .more ⟨s.frames, s.union.push set⟩ c
    | none =>
      let (frames, union, c) ← openBracket s.frames s.union c
      return .more ⟨frames, union⟩ c
  else
    match operationSigns.findSome? fun (sign, op) => (c.take? sign).map (·, op) with
    | some (c, op) =>
      let (left, frames) := closeOperation s.union.toSet s.frames
      return .more ⟨.operation op left :: frames, Union.start c⟩ c
    | none =>
      let (set, c) ← readClassRange s.frames c
      return .more ⟨s.frames, s.union.push set⟩ c

/-- Reads a class from its opening bracket on. -/
def readClass (c : Cursor) : Except Mistake (Tree × Cursor) := do
  let (frames, union, c) ← openBracket [] (Union.start c) c
  c.iterate ClassState.step (fun s c => failUnclosed s.frames c) ⟨frames, union⟩

end Pattern

end SourceRecovery
