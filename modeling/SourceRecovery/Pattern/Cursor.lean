import SourceRecovery.Pattern.Error
import SourceRecovery.Text.Blank

/-! # Reading a pattern

A pattern is read by a **cursor**, which knows what is left of it and how much lies behind. In the
verbose mode a cursor also passes over blanks and comments between the parts of the pattern.

* **`Cursor.iterate`** — repeats a step of the reading until the pattern ends or the step is done.
  A step that would not read on is made to pass over one character, so the reading always ends. -/

namespace SourceRecovery

namespace Pattern

/-- A **cursor** in a pattern. -/
structure Cursor where
  /-- What is left of the pattern. -/
  rest : Text
  /-- The number of characters behind the cursor. -/
  offset : Nat
  /-- Whether blanks and comments are passed over. -/
  verbose : Bool
deriving Repr, DecidableEq

namespace Cursor

/-- The cursor in front of a pattern. -/
def start (t : Text) : Cursor := ⟨t, 0, false⟩

/-- Moves over some characters, or to the end. -/
def advance (n : Nat) (c : Cursor) : Cursor :=
  { c with rest := c.rest.drop n, offset := c.offset + Nat.min n c.rest.length }

/-- Moves over one character. -/
def bump (c : Cursor) : Cursor := c.advance 1

/-- The number of characters at the front of a text that are blank or in a comment. -/
def ignored (inComment : Bool) : Text → Nat
  | [] => 0
  | c :: t =>
    if inComment then ignored (c ≠ '\n') t + 1
    else if Text.isBlank c then ignored false t + 1
    else if c = '#' then ignored true t + 1
    else 0

/-- Moves over what the verbose mode ignores. -/
def skipIgnored (c : Cursor) : Cursor := if c.verbose then c.advance (ignored false c.rest) else c

/-- Moves over one character and what the verbose mode ignores behind it. -/
def bumpIgnoring (c : Cursor) : Cursor := c.bump.skipIgnored

/-- The character at the cursor. -/
def char? (c : Cursor) : Option Char := c.rest.head?

/-- The character behind the one at the cursor. -/
def peek? (c : Cursor) : Option Char := c.rest[1]?

/-- The first character of a text that is neither blank nor opens a comment. A character of a
comment counts, and a text without such a character has none. -/
def firstCharacter? (inComment : Bool) : Text → Option Char
  | [] => none
  | c :: t =>
    if Text.isBlank c then firstCharacter? inComment t
    else if c = '#' ∧ !inComment then firstCharacter? true t
    else some c

/-- The character behind the one at the cursor, without what the verbose mode ignores. -/
def peekIgnoring? (c : Cursor) : Option Char :=
  if c.verbose then (firstCharacter? false c.rest.tail).or c.peek? else c.peek?

/-- The empty span at the cursor. -/
def here (c : Cursor) : Span := ⟨c.offset, c.offset⟩

/-- The span of the character at the cursor. -/
def hereCharacter (c : Cursor) : Span := ⟨c.offset, c.offset + 1⟩

/-- The span from a place to the cursor. -/
def since (start : Nat) (c : Cursor) : Span := ⟨start, c.offset⟩

/-- Moves over a literal, if it stands at the cursor. -/
def take? (literal : Text) (c : Cursor) : Option Cursor :=
  if literal.isPrefixOf c.rest then some (c.advance literal.length) else none

/-- Advancing leaves no more of the pattern than there was. -/
theorem length_advance_le (n : Nat) (c : Cursor) :
    (c.advance n).rest.length ≤ c.rest.length := by
  simp [advance]

/-- Skipping what is ignored leaves no more of the pattern than there was. -/
theorem length_skipIgnored_le (c : Cursor) : c.skipIgnored.rest.length ≤ c.rest.length := by
  rw [skipIgnored]
  split
  · exact length_advance_le _ _
  · exact Nat.le_refl _

/-- Moving over one character leaves less, unless nothing is left. -/
theorem length_bump_lt {c : Cursor} (h : c.rest ≠ []) : c.bump.rest.length < c.rest.length := by
  have := List.length_pos_iff.2 h
  simp only [bump, advance, List.length_drop]
  omega

/-- The characters with a property at the cursor, with what is ignored behind each of them. -/
def collect (p : Char → Bool) (c : Cursor) : Text × Cursor :=
  match _h : c.rest with
  | [] => ([], c)
  | d :: _ =>
    if p d then
      let (ds, c) := collect p c.bumpIgnoring
      (d :: ds, c)
    else ([], c)
termination_by c.rest.length
decreasing_by
  exact Nat.lt_of_le_of_lt (length_skipIgnored_le _) (length_bump_lt (by simp [_h]))

/-! ## Repeated steps -/

/-- What comes of a step. -/
inductive Progress (σ ρ : Type) where
  /-- The reading goes on in a state. -/
  | more (state : σ) (c : Cursor)
  /-- The reading is done. -/
  | done (result : ρ) (c : Cursor)

/-- Repeats a step from a state, first passing over what is ignored. `step` is given the character
at the cursor, and `finish` tells what to do at the end of the pattern. -/
def iterate {σ ρ : Type} (step : σ → Char → Cursor → Except Mistake (Progress σ ρ))
    (finish : σ → Cursor → Except Mistake ρ) (state : σ) (c : Cursor) :
    Except Mistake (ρ × Cursor) :=
  let front := c.skipIgnored
  match _h : front.rest with
  | [] => (finish state front).map (·, front)
  | d :: _ =>
    match step state d front with
    | .error e => .error e
    | .ok (.done result c) => .ok (result, c)
    | .ok (.more state next) =>
      if _hn : next.rest.length < front.rest.length then iterate step finish state next
      else iterate step finish state front.bump
termination_by c.rest.length
decreasing_by
  · exact Nat.lt_of_lt_of_le _hn (length_skipIgnored_le c)
  · exact Nat.lt_of_lt_of_le (length_bump_lt (by simp [front, _h])) (length_skipIgnored_le c)

end Cursor

/-- Fails with a fault at a span. -/
def fail {α : Type} (fault : Fault) (span : Span) : Except Mistake α := .error ⟨fault, span⟩

end Pattern

end SourceRecovery
