import SourceRecovery.Json.Quoted

/-! # Skipping a value

The value of a member that means nothing is **skipped**: it must be JSON, but the bytes of its
strings and the codes in them are not looked at, its numbers may be of any size, and it may be
nested to any depth. The scanner keeps the lists and objects it is in on a stack. -/

namespace SourceRecovery

namespace Json

/-- What a value may be nested in. -/
inductive Frame where
  | list
  | object
deriving Repr, DecidableEq

/-- Where a number stands while it is skipped. -/
inductive NumberPart where
  /-- Behind the minus sign. -/
  | sign
  /-- Behind a leading zero. -/
  | zero
  /-- Among the digits of the whole part. -/
  | whole
  /-- Behind the point. -/
  | point
  /-- Among the digits of the fraction. -/
  | fraction
  /-- Behind the letter of the exponent. -/
  | letter
  /-- Behind the sign of the exponent. -/
  | exponentSign
  /-- Among the digits of the exponent. -/
  | exponent
deriving Repr, DecidableEq

/-- Where the skipping of a string stands. -/
inductive StringPart where
  /-- Outside an escape. -/
  | plain
  /-- Behind a backslash. -/
  | escape
  /-- Among the four digits of a code, the ones read being `digits`. -/
  | code (digits : Bytes)
deriving Repr, DecidableEq

/-- Where the skipping of a value stands. -/
inductive SkipMode where
  /-- In front of a value. -/
  | value
  /-- Behind an opening bracket. -/
  | listStart
  /-- Behind an opening brace. -/
  | objectStart
  /-- In front of a key, behind a comma. -/
  | key
  /-- Behind a key. -/
  | colon
  /-- In a word, of which the bytes `left` are still to come. -/
  | word (left : Bytes)
  /-- In a string, which may be a key. -/
  | string (isKey : Bool) (part : StringPart)
  /-- In a number. -/
  | number (part : NumberPart)
  /-- Behind a value. -/
  | behind
deriving Repr, DecidableEq

/-- The state of skipping: the mode, and the lists and objects entered, the innermost first. -/
structure Skipper where
  /-- Where the skipping stands. -/
  mode : SkipMode
  /-- The lists and objects entered, the innermost first. -/
  frames : List Frame
deriving Repr, DecidableEq

namespace Skipper

/-- In front of a value that is not nested in another. -/
def start : Skipper := ⟨.value, []⟩

/-- The state behind a value: the skipping ends if the value is not nested. -/
def leave (frames : List Frame) : Step Skipper :=
  if frames = [] then .last ⟨.behind, []⟩ else .next ⟨.behind, frames⟩

/-- A byte behind a value that is nested in `frames`. -/
def stepBehind (frames : List Frame) (b : UInt8) : Step Skipper :=
  match frames with
  | [] => .before ⟨.behind, []⟩
  | .list :: outer =>
    if isSpace b then .next ⟨.behind, frames⟩
    else if b = 0x2C then .next ⟨.value, frames⟩
    else if b = 0x5D then leave outer
    else .fail .listEndExpected
  | .object :: outer =>
    if isSpace b then .next ⟨.behind, frames⟩
    else if b = 0x2C then .next ⟨.key, frames⟩
    else if b = 0x7D then leave outer
    else .fail .objectEndExpected

/-- Whether a byte is a decimal digit. -/
def isDigit (b : UInt8) : Bool := 0x30 ≤ b && b ≤ 0x39

/-- The first byte of a value. -/
def stepValue (frames : List Frame) (b : UInt8) : Step Skipper :=
  if isSpace b then .next ⟨.value, frames⟩
  else if b = 0x6E then .next ⟨.word (Utf8.encode "ull".toList), frames⟩
  else if b = 0x74 then .next ⟨.word (Utf8.encode "rue".toList), frames⟩
  else if b = 0x66 then .next ⟨.word (Utf8.encode "alse".toList), frames⟩
  else if b = 0x2D then .next ⟨.number .sign, frames⟩
  else if b = 0x30 then .next ⟨.number .zero, frames⟩
  else if isDigit b then .next ⟨.number .whole, frames⟩
  else if b = 0x22 then .next ⟨.string false .plain, frames⟩
  else if b = 0x5B then .next ⟨.listStart, .list :: frames⟩
  else if b = 0x7B then .next ⟨.objectStart, .object :: frames⟩
  else .fail .valueExpected

/-- A byte behind the whole part or the fraction of a number. -/
def stepAfterDigits (frames : List Frame) (b : UInt8) (pointAllowed : Bool) : Step Skipper :=
  if pointAllowed ∧ b = 0x2E then .next ⟨.number .point, frames⟩
  else if b = 0x65 ∨ b = 0x45 then .next ⟨.number .letter, frames⟩
  else stepBehind frames b

/-- A byte of a number. -/
def stepNumber (frames : List Frame) (b : UInt8) : NumberPart → Step Skipper
  | .sign =>
    if b = 0x30 then .next ⟨.number .zero, frames⟩
    else if isDigit b then .next ⟨.number .whole, frames⟩
    else .fail .invalidNumber
  | .zero => if isDigit b then .fail .invalidNumber else stepAfterDigits frames b true
  | .whole =>
    if isDigit b then .next ⟨.number .whole, frames⟩ else stepAfterDigits frames b true
  | .point => if isDigit b then .next ⟨.number .fraction, frames⟩ else .fail .invalidNumber
  | .fraction =>
    if isDigit b then .next ⟨.number .fraction, frames⟩ else stepAfterDigits frames b false
  | .letter =>
    if b = 0x2B ∨ b = 0x2D then .next ⟨.number .exponentSign, frames⟩
    else if isDigit b then .next ⟨.number .exponent, frames⟩
    else .fail .invalidNumber
  | .exponentSign =>
    if isDigit b then .next ⟨.number .exponent, frames⟩ else .fail .invalidNumber
  | .exponent => if isDigit b then .next ⟨.number .exponent, frames⟩ else stepBehind frames b

/-- A byte of a string. -/
def stepString (frames : List Frame) (b : UInt8) (isKey : Bool) : StringPart → Step Skipper
  | .plain =>
    if b = 0x22 then if isKey then .next ⟨.colon, frames⟩ else leave frames
    else if b = 0x5C then .next ⟨.string isKey .escape, frames⟩
    else if b < 0x20 then .fail .controlCharacter
    else .next ⟨.string isKey .plain, frames⟩
  | .escape =>
    if b = 0x75 then .next ⟨.string isKey (.code []), frames⟩
    else if (shortEscape? b).isSome then .next ⟨.string isKey .plain, frames⟩
    else .fail .invalidEscape
  | .code digits =>
    if digits.length < 3 then .next ⟨.string isKey (.code (digits ++ [b])), frames⟩
    else if (hexValue? (digits ++ [b])).isSome then .next ⟨.string isKey .plain, frames⟩
    else .fail .invalidEscape

/-- Skips one byte. -/
def step (s : Skipper) (b : UInt8) : Step Skipper :=
  match s.mode with
  | .value => stepValue s.frames b
  | .listStart =>
    if isSpace b then .next s
    else if b = 0x5D then leave s.frames.tail
    else stepValue s.frames b
  | .objectStart =>
    if isSpace b then .next s
    else if b = 0x7D then leave s.frames.tail
    else if b = 0x22 then .next { s with mode := .string true .plain }
    else .fail .keyExpected
  | .key =>
    if isSpace b then .next s
    else if b = 0x22 then .next { s with mode := .string true .plain }
    else .fail .keyExpected
  | .colon =>
    if isSpace b then .next s
    else if b = 0x3A then .next { s with mode := .value }
    else .fail .colonExpected
  | .word [] => .fail .wordExpected
  | .word (c :: left) =>
    if b ≠ c then .fail .wordExpected
    else if left = [] then leave s.frames
    else .next { s with mode := .word left }
  | .string isKey part => stepString s.frames b isKey part
  | .number part => stepNumber s.frames b part
  | .behind => stepBehind s.frames b

/-- The end of the document behind a value. -/
def finishBehind : List Frame → Except Error Skipper
  | [] => .ok ⟨.behind, []⟩
  | .list :: _ => .error .endInList
  | .object :: _ => .error .endInObject

/-- The end of the document. -/
def finish (s : Skipper) : Except Error Skipper :=
  match s.mode with
  | .value => .error .endInValue
  | .listStart => .error .endInList
  | .objectStart | .key | .colon => .error .endInObject
  | .word _ => .error .endInValue
  | .string _ _ => .error .endInString
  | .number .sign | .number .point | .number .letter | .number .exponentSign =>
    .error .invalidNumber
  | .number _ | .behind => finishBehind s.frames

end Skipper

/-- The scanner that **skips** a value. -/
def skipScanner : Scanner Skipper := ⟨Skipper.step, Skipper.finish⟩

/-- Skips a value: what follows it. -/
def skipValue (bytes : Bytes) : Except Error Bytes := (skipScanner.run .start bytes).map (·.2)

/-- Skipping a value leaves no more than was there. -/
theorem length_le_of_skipValue {bytes rest : Bytes} (h : skipValue bytes = .ok rest) :
    rest.length ≤ bytes.length := by
  simp only [skipValue] at h
  cases hr : skipScanner.run .start bytes with
  | error e => simp [hr, Except.map] at h
  | ok p =>
    obtain ⟨s, r⟩ := p
    simp only [hr, Except.map, Except.ok.injEq] at h
    subst h
    exact Scanner.length_le_of_run hr

/-- A nested value is skipped as a whole. -/
example : (skipValue (Utf8.encode "[1, \"a\", 2e5] ,".toList)).toOption =
    some (Utf8.encode " ,".toList) := by decide +kernel

end Json

end SourceRecovery
