import SourceRecovery.Json.Quoted

/-! # Writing values

A **value** to be written, and its two layouts: on one line without blanks, or one item a line
with two blanks more for every level. -/

namespace SourceRecovery

namespace Json

/-- A **value** to be written. -/
inductive Value where
  | null
  | number (n : Nat)
  | string (t : Text)
  | list (items : List Value)
  | object (members : List (Text × Value))
deriving Repr

namespace Value

mutual

/-- The value on one line. -/
def compact : Value → Text
  | null => "null".toList
  | number n => Text.ofNat n
  | string t => writeString t
  | list items => '[' :: Text.join [','] (compactItems items) ++ [']']
  | object members => '\x7b' :: Text.join [','] (compactMembers members) ++ ['\x7d']

/-- The items of a list, each on one line. -/
def compactItems : List Value → List Text
  | [] => []
  | v :: vs => v.compact :: compactItems vs

/-- The members of an object, each on one line. -/
def compactMembers : List (Text × Value) → List Text
  | [] => []
  | (k, v) :: vs => (writeString k ++ ':' :: v.compact) :: compactMembers vs

end

/-- A line break followed by the blanks of a level. -/
def indent (level : Nat) : Text := '\n' :: List.replicate (2 * level) ' '

/-- Items between two brackets, one a line; the brackets of no items stand side by side. -/
def enclose (level : Nat) (opening closing : Char) (items : List Text) : Text :=
  if items = [] then [opening, closing]
  else
    opening :: Text.join [','] (items.map fun i => indent (level + 1) ++ i) ++
      (indent level ++ [closing])

mutual

/-- The value with one item a line. -/
def pretty (level : Nat) : Value → Text
  | null => "null".toList
  | number n => Text.ofNat n
  | string t => writeString t
  | list items => enclose level '[' ']' (prettyItems (level + 1) items)
  | object members => enclose level '\x7b' '\x7d' (prettyMembers (level + 1) members)

/-- The items of a list. -/
def prettyItems (level : Nat) : List Value → List Text
  | [] => []
  | v :: vs => v.pretty level :: prettyItems level vs

/-- The members of an object. -/
def prettyMembers (level : Nat) : List (Text × Value) → List Text
  | [] => []
  | (k, v) :: vs => (writeString k ++ ": ".toList ++ v.pretty level) :: prettyMembers level vs

end

end Value

end Json

end SourceRecovery
