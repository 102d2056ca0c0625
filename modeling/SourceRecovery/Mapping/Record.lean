import SourceRecovery.Text.Blank
import SourceRecovery.Text.Lines

/-! # Records of a mapping file

A mapping file is read line by line. Each line that is not blank is a **record**: a class line
`left -> right:`, a member line, or a comment. A member line is whatever is neither a comment nor
a class line, so no line is ever refused. -/

namespace SourceRecovery

/-- A **record** of a mapping file. -/
inductive Record where
  /-- A class line, with the two names around the arrow. -/
  | classes (left right : Text)
  /-- Any other line, without the blanks around it. -/
  | member (line : Text)
  /-- A comment. -/
  | comment
deriving Repr, DecidableEq

namespace Record

/-- The sign between the two names of a class line. -/
def arrow : Text := " -> ".toList

/-- The name in front of the colon: at least one character, no line feed, and no colon but
possibly the first character. -/
def nameBeforeColon? : Text → Option Text
  | [] => none
  | c :: t =>
    let name := t.takeWhile fun d => d ≠ ':' ∧ d ≠ '\n'
    if c ≠ '\n' ∧ t[name.length]? = some ':' then some (c :: name) else none

/-- The two names of a class line: what is in front of the first arrow, on one line, and the name
before the colon behind it. -/
def names? (t : Text) : Option (Text × Text) :=
  match Text.cut? arrow t with
  | none => none
  | some (left, tail) => if '\n' ∈ left then none else (nameBeforeColon? tail).map (left, ·)

/-- Reads a line. A blank line is no record. -/
def parse? (line : Text) : Option Record :=
  let t := Text.trim line
  if t = [] then none
  else if t.head? = some '#' then some comment
  else
    match names? t with
    | some (left, right) => some (classes left right)
    | none => some (member t)

/-- The **records** of a mapping file, in the order of their lines. -/
def parseAll (text : Text) : List Record := (Text.lines text).filterMap parse?

/-- A line of blanks is no record. -/
example : parse? " \t".toList = none := by decide

/-- What follows the first colon behind the arrow is ignored. -/
example : parse? "a.b.C -> d: # x:".toList = some (classes "a.b.C".toList "d".toList) := by decide

/-- Without a colon behind the arrow, the line is a member. -/
example : parse? "  1:3:void f() -> a".toList = some (member "1:3:void f() -> a".toList) := by
  decide

end Record

end SourceRecovery
