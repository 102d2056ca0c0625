import SourceRecovery.Text.Utf8

/-! # Control sequences

A text may hold **control sequences**, by which a program steers a terminal: an escape character
and what belongs to it. Where there is no terminal, a text is shown without them and without
control characters.

* **`Text.withoutControls`** — the characters of a text that are shown.
* **`Text.withoutControls_eq_self`** — a text without control characters is shown as it is.

The characters behind the escape character decide what belongs to the sequence. A *command* goes
up to a letter; a *system string* up to a bell; a *device string* has a header that ends with a
letter, and goes on like any other *string* up to its end mark. Another escape character always
begins a new sequence, and the characters for cancelling end any. -/

namespace SourceRecovery

namespace Text

/-- Whether a character lays out the text: a tab or the end of a line or page. -/
def isLayout (c : Char) : Bool := c = '\t' || c = '\n' || c = '\x0c' || c = '\r'

/-- Whether a character is an ASCII control character. -/
def isControl (c : Char) : Bool := c < ' ' || c = '\x7f'

/-- Whether a character is shown outside of control sequences. -/
def isShown (c : Char) : Bool := !isControl c || isLayout c

namespace ControlSequence

/-- How far a sequence has been read that a layout character may **interrupt**. -/
inductive Part where
  /-- Behind the escape character. -/
  | escape
  /-- Behind the marks that follow the escape character. -/
  | marks
  /-- In a command. -/
  | command
deriving Repr, DecidableEq

/-- How far the header of a device string has been read. -/
inductive Header where
  /-- In front of its first parameter. -/
  | start
  /-- Among its parameters. -/
  | parameters
  /-- Among the marks behind its parameters. -/
  | marks
deriving Repr, DecidableEq

/-- What the reading of a text is **inside** of. -/
inductive Mode where
  /-- No sequence. -/
  | plain
  /-- A sequence, read up to a part. -/
  | inside (part : Part)
  /-- Text that interrupts a sequence. -/
  | interrupted (part : Part)
  /-- A system string. -/
  | system
  /-- The header of a device string. -/
  | device (header : Header)
  /-- Any other string, or the rest of a device string. -/
  | string
deriving Repr, DecidableEq

/-- Whether a character stands between two others in the order of their codes, or is one of
them. -/
def isBetween (low high c : Char) : Bool := low ≤ c && c ≤ high

/-- The mode behind one more character of a sequence. What cannot stand there is passed over. -/
def Part.next (part : Part) (c : Char) : Mode :=
  match part with
  | .escape =>
    if isBetween ' ' '/' c then .inside .marks
    else if c = '[' then .inside .command
    else if c = ']' then .system
    else if c = 'P' then .device .start
    else if c = 'X' ∨ c = '^' ∨ c = '_' then .string
    else if isBetween '0' '~' c then .plain
    else .inside .escape
  | .marks => if isBetween '0' '~' c then .plain else .inside .marks
  | .command => if isBetween '@' '~' c then .plain else .inside .command

/-- The mode behind one more character of the header of a device string. -/
def Header.next (header : Header) (c : Char) : Mode :=
  if isBetween '@' '~' c then .string
  else
    match header with
    | .start =>
      if isBetween ' ' '/' c then .device .marks
      else if isBetween '0' '?' c then .device .parameters
      else .device .start
    | .parameters =>
      if isBetween ' ' '/' c then .device .marks
      else if isBetween '<' '?' c then .string
      else .device .parameters
    | .marks => if isBetween '0' '?' c then .string else .device .marks

/-- Whether the byte that marks the end of a string is among the bytes of a character. -/
def endsString (c : Char) : Bool := (Utf8.encode [c]).contains 0x9C

/-- Reads one character: the mode behind it, and whether it is shown. -/
def Mode.step (mode : Mode) (c : Char) : Mode × Bool :=
  if c = '\x1b' then (.inside .escape, false)
  else if c = '\x18' ∨ c = '\x1a' then (.plain, false)
  else
    match mode with
    | .plain => (.plain, isShown c)
    | .inside part => if isLayout c then (.interrupted part, true) else (part.next c, false)
    | .interrupted part =>
      -- A control character goes on with the sequence, a character beyond ASCII gives it up.
      if !isShown c then (.inside part, false)
      else (if c ≤ '~' then .interrupted part else .plain, true)
    | .system => (if c = '\x07' then .plain else .system, false)
    | .device header => (header.next c, false)
    | .string => (if endsString c then .plain else .string, false)

/-- The characters shown of a text that is read in a mode, behind those shown before it, which are
given backwards. -/
def shownFrom (mode : Mode) (before : Text) : Text → Text
  | [] => before.reverse
  | c :: t =>
    let (mode, shown) := mode.step c
    shownFrom mode (if shown then c :: before else before) t

/-- Outside of a sequence, a character that is no control character is shown. -/
theorem Mode.step_plain {c : Char} (h : isControl c = false) :
    Mode.plain.step c = (.plain, true) := by
  have h1 : c ≠ '\x1b' := by
    rintro rfl
    exact absurd h (by decide)
  have h2 : ¬ (c = '\x18' ∨ c = '\x1a') := by
    rintro (rfl | rfl) <;> exact absurd h (by decide)
  rw [step, if_neg h1, if_neg h2, isShown, h]
  rfl

end ControlSequence

/-- The characters of a text that are **shown** where there is no terminal: neither control
characters nor what belongs to a control sequence. -/
def withoutControls (t : Text) : Text := ControlSequence.shownFrom .plain [] t

/-- A text without control characters is shown as it is. -/
theorem shownFrom_plain {before t : Text} (h : ∀ c ∈ t, isControl c = false) :
    ControlSequence.shownFrom .plain before t = before.reverse ++ t := by
  induction t generalizing before with
  | nil => simp [ControlSequence.shownFrom]
  | cons c t ih =>
    rw [ControlSequence.shownFrom, ControlSequence.Mode.step_plain (h c (by simp))]
    simp [ih fun d hd => h d (by simp [hd])]

/-- A text without control characters is shown as it is. -/
theorem withoutControls_eq_self {t : Text} (h : ∀ c ∈ t, isControl c = false) :
    withoutControls t = t := by
  rw [withoutControls, shownFrom_plain h, List.reverse_nil, List.nil_append]

/-- A command and a system string are not shown, and neither is a lone control character. -/
example : withoutControls "a\x1b[1;31mR\x1b[0m\x1b]0;t\x07b\x7f\x0b\tc\n".toList =
    "aRb\tc\n".toList := by decide +kernel

/-- A command that is interrupted by the end of a line goes on behind the next control character,
where its letter is not shown. -/
example : withoutControls "\x1b[3\nab\x01cd".toList = "\nabd".toList := by decide +kernel

end Text

end SourceRecovery
