import SourceRecovery.Text.Basic

/-! # Blank characters

A character is **blank** when it has the Unicode property `White_Space`. Blanks separate a
declaration keyword from the name it declares and are trimmed from the ends of a mapping line.
The table is the property's list of ranges; zero-width characters and the information separators
`U+001C` to `U+001F` are not in it. -/

namespace SourceRecovery

namespace Text

/-- Whether the character's code lies in one of the ranges, whose ends belong to them. -/
def inRanges (ranges : List (Nat × Nat)) (c : Char) : Bool :=
  ranges.any fun r => r.1 ≤ c.toNat && c.toNat ≤ r.2

/-- The ranges of the property `White_Space`. -/
def blankRanges : List (Nat × Nat) :=
  [(0x09, 0x0D), (0x20, 0x20), (0x85, 0x85), (0xA0, 0xA0), (0x1680, 0x1680), (0x2000, 0x200A),
    (0x2028, 0x2029), (0x202F, 0x202F), (0x205F, 0x205F), (0x3000, 0x3000)]

/-- Whether a character is **blank**. -/
def isBlank (c : Char) : Bool := inRanges blankRanges c

/-- A line feed is blank. -/
@[simp] theorem isBlank_newline : isBlank '\n' = true := by decide

/-- A carriage return is blank. -/
@[simp] theorem isBlank_return : isBlank '\r' = true := by decide

/-- A space is blank. -/
@[simp] theorem isBlank_space : isBlank ' ' = true := by decide

/-- The text without the blanks at its front. -/
def trimFront (t : Text) : Text := t.dropWhile isBlank

/-- The text without the blanks at its end. -/
def trimBack (t : Text) : Text := (t.reverse.dropWhile isBlank).reverse

/-- The text without the blanks at both ends. -/
def trim (t : Text) : Text := trimBack (trimFront t)

@[simp] theorem trim_nil : trim [] = [] := rfl

end Text

end SourceRecovery
