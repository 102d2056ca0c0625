import SourceRecovery.Pattern.Cursor

/-! # Escapes in patterns

A backslash and what belongs to it: a character that would mean something else on its own, a
character given by its code, an assertion, or a class of characters. -/

namespace SourceRecovery

namespace Pattern

/-- What a single part of a pattern stands for, inside of a class or outside of one. -/
inductive Atom where
  /-- A character. -/
  | literal (l : Literal)
  /-- An assertion. -/
  | assertion (a : Assertion) (span : Span)
  /-- A class written with a letter. -/
  | letter (kind : LetterClass) (negated : Bool) (span : Span)
  /-- The characters with a Unicode property. -/
  | property (p : PropertyClass)
deriving Repr, DecidableEq

/-- Where an atom is written. -/
def Atom.span : Atom → Span
  | literal l => l.span
  | assertion _ s | letter _ _ s => s
  | property p => p.span

/-! ## Numbers -/

/-- The value of a digit. -/
def digitValue (c : Char) : Nat :=
  if c ≤ '9' then c.toNat - '0'.toNat
  else if c ≤ 'F' then c.toNat - 'A'.toNat + 10
  else c.toNat - 'a'.toNat + 10

/-- The number that digits stand for. -/
def digitsValue (base : Nat) (digits : Text) : Nat :=
  digits.foldl (fun n d => n * base + digitValue d) 0

/-- Whether a character is a hexadecimal digit. -/
def isHexDigit (c : Char) : Bool :=
  ('0' ≤ c && c ≤ '9') || ('a' ≤ c && c ≤ 'f') || ('A' ≤ c && c ≤ 'F')

/-- The character that hexadecimal digits stand for. -/
def characterOfCode? (digits : Text) : Option Char :=
  let n := digitsValue 16 digits
  if n.isValidChar then some (Char.ofNat n) else none

/-- The number at which a count is too great. -/
def countLimit : Nat := 4294967296

/-- Reads a count with the blanks around it. The cursor moves whether it can be read or not. -/
def readCount (c : Cursor) : Except Mistake Nat × Cursor :=
  let blanks (c : Cursor) := c.advance (c.rest.takeWhile Text.isBlank).length
  let first := blanks c
  let (digits, behind) := first.collect Char.isDigit
  let span := behind.since first.offset
  let count :=
    if digits = [] then fail .repetitionDecimal span
    else if digitsValue 10 digits < countLimit then .ok (digitsValue 10 digits)
    else fail .decimalInvalid span
  (count, blanks behind)

/-! ## Characters by their codes -/

/-- Reads a number of hexadecimal digits. -/
def readHexDigits : Nat → Cursor → Except Mistake (Text × Cursor)
  | 0, c => .ok ([], c)
  | n + 1, c =>
    match c.char? with
    | none => fail .escapeUnfinished c.here
    | some d =>
      if isHexDigit d then (readHexDigits n c.bumpIgnoring).map fun (ds, c) => (d :: ds, c)
      else fail .hexDigit c.hereCharacter

/-- Reads a character by a code of a certain length, from its first digit on. -/
def readFixedCode (start length : Nat) (c : Cursor) : Except Mistake (Atom × Cursor) := do
  let (digits, behind) ← readHexDigits length c
  match characterOfCode? digits with
  | some d => return (.literal ⟨d, length = 2, behind.since start⟩, behind)
  | none => fail .hexNoCharacter (behind.since c.offset)

/-- Reads a character by a code between braces, from the opening one on. -/
def readBracedCode (start : Nat) (c : Cursor) : Except Mistake (Atom × Cursor) :=
  let (digits, close) := c.bumpIgnoring.collect isHexDigit
  let behind := close.bumpIgnoring
  match close.char? with
  | none => fail .escapeUnfinished (close.since c.offset)
  | some d =>
    if d ≠ '}' then fail .hexDigit close.hereCharacter
    else if digits = [] then fail .hexEmpty (behind.since c.offset)
    else
      match characterOfCode? digits with
      | some d => .ok (.literal ⟨d, false, behind.since start⟩, behind)
      | none => fail .hexNoCharacter (close.since (c.offset + 1))

/-- Reads a character by its code, behind the letter that says how long the code is. -/
def readCode (start length : Nat) (c : Cursor) : Except Mistake (Atom × Cursor) :=
  match c.char? with
  | none => fail .escapeUnfinished c.here
  | some '{' => readBracedCode start c
  | some _ => readFixedCode start length c

/-! ## Unicode properties -/

/-- The property that a text between braces names. -/
def PropertyName.ofText (t : Text) : PropertyName :=
  match [['!', '='], [':'], ['=']].findSome? fun sign => Text.cut? sign t with
  | some (name, value) => .valued name value
  | none => .plain t

/-- Reads the name of a Unicode property behind its letter. -/
def readProperty (start : Nat) (negated : Bool) (c : Cursor) : Except Mistake (Atom × Cursor) :=
  match c.char? with
  | none => fail .escapeUnfinished c.here
  | some '{' =>
    let (name, close) := c.bumpIgnoring.collect (· ≠ '}')
    if close.rest = [] then fail .escapeUnfinished close.here
    else
      let behind := close.bump
      .ok (.property ⟨negated, PropertyName.ofText name, behind.since start⟩, behind)
  | some '\\' => fail .propertyInvalid c.hereCharacter
  | some d =>
    let behind := c.bumpIgnoring
    .ok (.property ⟨negated, .plain [d], behind.since start⟩, behind)

/-! ## Word boundaries -/

/-- The boundaries that are named between braces. -/
def namedBoundaries : List (String × Assertion) :=
  [("start", .wordStart), ("end", .wordEnd), ("start-half", .wordStartHalf),
    ("end-half", .wordEndHalf)]

/-- Reads the rest of a word boundary, which may be named between braces. Braces around something
else belong to a repetition. -/
def readBoundary (start : Nat) (c : Cursor) : Except Mistake (Atom × Cursor) :=
  let plain : Atom × Cursor := (.assertion .wordBoundary (c.since start), c)
  if c.char? ≠ some '{' then .ok plain
  else
    let first := c.bumpIgnoring
    let isNameCharacter (d : Char) : Bool := d.isAlpha || d = '-'
    match first.char? with
    | none => fail .boundaryOrRepetition (first.since start)
    | some d =>
      if !isNameCharacter d then .ok plain
      else
        let (name, close) := first.collect isNameCharacter
        if close.char? ≠ some '}' then fail .boundaryUnclosed (close.since c.offset)
        else
          match namedBoundaries.find? (·.1.toList == name) with
          | some (_, a) => .ok (.assertion a (close.bump.since start), close.bump)
          | none => fail .boundaryUnknown (close.since first.offset)

/-! ## Escapes -/

/-- The characters that have a meaning in patterns. -/
def metaCharacters : Text := "\\.+*?()|[]\x7b\x7d^$#&-~".toList

/-- Whether a character stands for itself behind a backslash. -/
def isEscapable (c : Char) : Bool :=
  metaCharacters.contains c || (c.toNat < 0x80 && !c.isAlphanum && c ≠ '<' && c ≠ '>')

/-- The characters that have a letter of their own. -/
def namedCharacters : List (Char × Char) :=
  [('a', '\x07'), ('f', '\x0c'), ('t', '\t'), ('n', '\n'), ('r', '\r'), ('v', '\x0b')]

/-- The assertions that have a letter of their own. -/
def namedAssertions : List (Char × Assertion) :=
  [('A', .textStart), ('z', .textEnd), ('B', .noWordBoundary), ('<', .wordStart), ('>', .wordEnd)]

/-- The classes that have a letter of their own, and whether it stands for the others. -/
def namedClasses : List (Char × LetterClass × Bool) :=
  [('d', .digit, false), ('s', .space, false), ('w', .word, false), ('D', .digit, true),
    ('S', .space, true), ('W', .word, true)]

/-- The lengths of codes, by the letters that announce them. -/
def codeLengths : List (Char × Nat) := [('x', 2), ('u', 4), ('U', 8)]

/-- Reads an escape from its backslash on. -/
def readEscape (c : Cursor) : Except Mistake (Atom × Cursor) :=
  let start := c.offset
  let c := c.bump
  match c.char? with
  | none => fail .escapeUnfinished (c.since start)
  | some d =>
    let behind := c.bump
    let span := behind.since start
    if d.isDigit then fail .backreference span
    else
      match codeLengths.lookup d, namedClasses.lookup d, namedCharacters.lookup d,
        namedAssertions.lookup d with
      | some length, _, _, _ => readCode start length c.bumpIgnoring
      | _, some (kind, negated), _, _ => .ok (.letter kind negated span, behind)
      | _, _, some e, _ => .ok (.literal ⟨e, false, span⟩, behind)
      | _, _, _, some a => .ok (.assertion a span, behind)
      | none, none, none, none =>
        if d = 'p' ∨ d = 'P' then readProperty start (d = 'P') c.bumpIgnoring
        else if d = 'b' then readBoundary start behind
        else if isEscapable d then .ok (.literal ⟨d, false, span⟩, behind)
        else fail .escapeUnknown span

end Pattern

end SourceRecovery
