import SourceRecovery.Text.Blank
import SourceRecovery.Text.WordCharacter

/-! # Renaming a declaration

A **declaration** of a name is a keyword `class`, `interface` or `enum`, at least one blank, and
the name, with word boundaries in front of the keyword and behind the name. Renaming exchanges
the name in the first declaration of a text and leaves every other character alone.

* **`Declaration.at?`** — what stands in a declaration at a place of the text.
* **`Declaration.rename?`** — the text with its first declaration renamed. -/

namespace SourceRecovery

namespace Declaration

/-- The keywords that declare a name. -/
def keywords : List Text := ["class".toList, "interface".toList, "enum".toList]

/-- What follows `name` at the front of the text, if a word boundary stands behind it. The
character in front of the text decides the boundary when the name is empty. -/
def behindName? (name : Text) (left : Char) (t : Text) : Option Text :=
  match name.isPrefixOf? t with
  | some after =>
    if Text.boundaryBetween (some (name.getLast?.getD left)) after.head? then some after else none
  | none => none

/-- The longest run of blanks at the front of the text behind which `name` stands, with what
follows the name. The name may begin with blanks itself, so a shorter run is tried when a longer
one fails. -/
def blanksThenName? (name : Text) (left : Char) : Text → Option (Text × Text)
  | [] => (behindName? name left []).map ([], ·)
  | c :: t =>
    match if Text.isBlank c then blanksThenName? name c t else none with
    | some (blanks, after) => some (c :: blanks, after)
    -- No longer run of blanks has the name behind it.
    | none => (behindName? name left (c :: t)).map ([], ·)

/-- A declaration of `name` that begins with the given keyword at the front of the text: the
keyword with the blanks behind it, and what follows the name. -/
def withKeyword? (name t keyword : Text) : Option (Text × Text) :=
  match keyword.isPrefixOf? t with
  | some (c :: r) =>
    if Text.isBlank c then
      (blanksThenName? name c r).map fun p => (keyword ++ c :: p.1, p.2)
    else none
  | _ => none

/-- A **declaration** of `name` at a place of a text: what is in front of the name and what
follows it. `left` is the character in front of the place. -/
def at? (name : Text) (left : Option Char) (t : Text) : Option (Text × Text) :=
  if left.any Text.isWordCharacter then none else keywords.findSome? (withKeyword? name t)

/-- Whether a name has more bytes than a limit allows. -/
def isLongerThan (limit : Nat) (name : Text) : Bool := limit < name.utf8Length

/-- The greatest number of bytes of a name that is looked for. To look for a name is to match a
pattern, which may take 10485760 bytes once it is compiled. Each byte of the name takes 32 of them;
the few that the keywords, the blanks and the boundaries take are left out of account. No result
rests on the value but that names of files are far below it and that there is a limit at all: what
is shown about renaming holds for every limit. -/
def nameLimit : Nat := 10485760 / 32

/-- Whether a name is too long to be looked for. -/
def isTooLong (name : Text) : Bool := isLongerThan nameLimit name

/-- Why a declaration cannot be looked for. -/
inductive Error where
  /-- The name is too long. -/
  | nameTooLong
deriving Repr, DecidableEq

/-- The description of an error. -/
def Error.message : Error → Text
  | nameTooLong =>
    ("invalid declaration pattern: " ++
      "Compiled regex exceeds size limit of 10485760 bytes.").toList

/-- The text with the name of its first declaration of `name` exchanged for `newName`, or `none`
if it declares no such name. -/
def rename? (name newName t : Text) : Option Text :=
  (Text.search (at? name) t).map fun (before, (head, after)) =>
    before ++ (head ++ (newName ++ after))

/-- The text with its first declaration of `name` renamed, if there is one. -/
def rename (name newName t : Text) : Text := (rename? name newName t).getD t

/-- Renames a declaration whose name is within a limit. -/
def tryRenameWithin? (limit : Nat) (name newName t : Text) : Except Error (Option Text) :=
  if isLongerThan limit name then .error .nameTooLong else .ok (rename? name newName t)

/-- Renames a declaration whose name may be looked for. -/
def tryRename? (name newName t : Text) : Except Error (Option Text) :=
  tryRenameWithin? nameLimit name newName t

/-- Later declarations and other uses of the name stay. -/
example : rename? ['a'] ['Z'] "subclass a; class  a(a) class a".toList =
    some "subclass a; class  Z(a) class a".toList := by decide +kernel

/-- A longer name is another name. -/
example : rename? ['a'] ['Z'] "class ab".toList = none := by decide +kernel

end Declaration

end SourceRecovery
