import SourceRecovery.Pattern.Syntax
import SourceRecovery.Text.CaseFolding
import SourceRecovery.Text.Category
import SourceRecovery.Text.WordCharacter

/-! # Sets of characters

What the classes of a pattern stand for. A **set of characters** is a term over ranges, and
`CharSet.contains` says which characters are in it. -/

namespace SourceRecovery

namespace Pattern

/-- Whether the result of an operation contains a character, by whether the set on the left and the
one on the right contain it. -/
def SetOperation.holds : SetOperation → Bool → Bool → Bool
  | intersection, left, right => left && right
  | difference, left, right => left && !right
  | symmetricDifference, left, right => left != right

/-- A **set of characters**. -/
inductive CharSet where
  /-- The characters whose codes are in one of some ranges. -/
  | ranges (rs : List (Nat × Nat))
  /-- The characters that are not in a set. -/
  | complement (s : CharSet)
  /-- The characters that are in one of two sets. -/
  | union (left right : CharSet)
  /-- The result of an operation. -/
  | operation (op : SetOperation) (left right : CharSet)
  /-- The characters that differ from one of a set in case only. -/
  | anyCase (s : CharSet)
  /-- The characters that differ from one of a set in the case of an ASCII letter only. -/
  | anyAsciiCase (s : CharSet)
deriving Repr, DecidableEq

namespace CharSet

/-- Whether a character is in a set. -/
def contains : CharSet → Char → Bool
  | ranges rs, c => Text.inRanges rs c
  | complement s, c => !s.contains c
  | union left right, c => left.contains c || right.contains c
  | operation op left right, c => op.holds (left.contains c) (right.contains c)
  | anyCase s, c => (Text.caseVariants c).any s.contains
  | anyAsciiCase s, c => s.contains c || s.contains c.toLower || s.contains c.toUpper

/-- The set without a character. -/
def empty : CharSet := ranges []

/-- The set of one character. -/
def singleton (c : Char) : CharSet := ranges [(c.toNat, c.toNat)]

/-- The set of the characters of ASCII. -/
def ascii : CharSet := ranges [(0x00, 0x7F)]

/-- The number of ranges of which a set is made up. -/
def rangeCount : CharSet → Nat
  | ranges rs => rs.length
  | complement s | anyCase s | anyAsciiCase s => s.rangeCount
  | union left right | operation _ left right => left.rangeCount + right.rangeCount

/-- No character is in the empty set. -/
theorem contains_empty (c : Char) : empty.contains c = false := rfl

/-- The set of a character contains nothing else. -/
theorem contains_singleton_iff {c d : Char} : (singleton c).contains d = true ↔ d = c := by
  have code_eq_iff : c.toNat = d.toNat ↔ c = d := by
    rw [← Char.ofNat_toNat c, ← Char.ofNat_toNat d]
    constructor
    · intro h
      simpa using congrArg Char.ofNat h
    · intro h
      simpa using congrArg Char.toNat h
  have contains_eq : (singleton c).contains d = true ↔ c.toNat = d.toNat := by
    simp only [singleton, contains, Text.inRanges, List.any_cons, List.any_nil, Bool.or_false,
      Bool.and_eq_true, decide_eq_true_eq]
    omega
  rw [contains_eq, code_eq_iff, eq_comm]

/-- A difference is an intersection with a complement. -/
theorem contains_difference (left right : CharSet) (c : Char) :
    (operation .difference left right).contains c =
      (operation .intersection left (complement right)).contains c := rfl

/-- A symmetric difference does not contain what both sets contain. -/
theorem contains_symmetricDifference (left right : CharSet) (c : Char) :
    (operation .symmetricDifference left right).contains c =
      (operation .difference (union left right)
        (operation .intersection left right)).contains c := by
  simp only [contains, SetOperation.holds]
  cases left.contains c <;> cases right.contains c <;> rfl

end CharSet

/-! ## Named classes -/

/-- The set of a named class of ASCII characters. -/
def AsciiClass.set : AsciiClass → CharSet
  | alnum => .ranges [(0x30, 0x39), (0x41, 0x5A), (0x61, 0x7A)]
  | alpha => .ranges [(0x41, 0x5A), (0x61, 0x7A)]
  | ascii => .ascii
  | blank => .ranges [(0x09, 0x09), (0x20, 0x20)]
  | cntrl => .ranges [(0x00, 0x1F), (0x7F, 0x7F)]
  | digit => .ranges [(0x30, 0x39)]
  | graph => .ranges [(0x21, 0x7E)]
  | lower => .ranges [(0x61, 0x7A)]
  | print => .ranges [(0x20, 0x7E)]
  | punct => .ranges [(0x21, 0x2F), (0x3A, 0x40), (0x5B, 0x60), (0x7B, 0x7E)]
  | space => .ranges [(0x09, 0x0D), (0x20, 0x20)]
  | upper => .ranges [(0x41, 0x5A)]
  | word => .ranges [(0x30, 0x39), (0x41, 0x5A), (0x5F, 0x5F), (0x61, 0x7A)]
  | xdigit => .ranges [(0x30, 0x39), (0x41, 0x46), (0x61, 0x66)]

/-- The set of a class written with a letter. -/
def LetterClass.set : LetterClass → CharSet
  | digit => .ranges Text.Category.decimalNumber.ranges
  | space => .ranges Text.blankRanges
  | word => .ranges Text.wordRanges

/-- The set of a class written with a letter, within ASCII. -/
def LetterClass.asciiSet : LetterClass → CharSet
  | digit => AsciiClass.digit.set
  | space => AsciiClass.space.set
  | word => AsciiClass.word.set

/-- The named classes of ASCII characters do not overlap where they should not. -/
example : (CharSet.operation .intersection AsciiClass.punct.set AsciiClass.alnum.set).contains '_' =
    false ∧ AsciiClass.graph.set.contains '_' = true := by decide

end Pattern

end SourceRecovery
