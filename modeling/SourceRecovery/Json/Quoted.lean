import SourceRecovery.Json.Scanner

/-! # Strings

A string of a document is written between quotation marks. **Writing** puts a backslash in front
of the marks and backslashes in it and escapes the control characters below the space. **Reading**
takes every escape that JSON knows, a pair of surrogates for one character above `U+FFFF`
included, and the bytes between the escapes must make valid UTF-8 with them. -/

namespace SourceRecovery

namespace Json

/-! ## Writing -/

/-- A character inside a string. -/
def escapeCharacter (c : Char) : Text :=
  match c with
  | '"' => ['\\', '"']
  | '\\' => ['\\', '\\']
  | '\x08' => ['\\', 'b']
  | '\t' => ['\\', 't']
  | '\n' => ['\\', 'n']
  | '\x0c' => ['\\', 'f']
  | '\r' => ['\\', 'r']
  | c =>
    if c.toNat < 0x20 then
      ['\\', 'u', '0', '0', Nat.digitChar (c.toNat / 16), Nat.digitChar (c.toNat % 16)]
    else [c]

/-- A text as a string of a document. -/
def writeString (t : Text) : Text := '"' :: t.flatMap escapeCharacter ++ ['"']

/-! ## Reading -/

/-- The value of a hexadecimal digit. -/
def hexDigit? (b : UInt8) : Option Nat :=
  if 0x30 ≤ b ∧ b ≤ 0x39 then some (b.toNat - 0x30)
  else if 0x41 ≤ b ∧ b ≤ 0x46 then some (b.toNat - 0x37)
  else if 0x61 ≤ b ∧ b ≤ 0x66 then some (b.toNat - 0x57)
  else none

/-- The number that hexadecimal digits stand for. -/
def hexValue? (digits : Bytes) : Option Nat :=
  digits.foldl (fun n b => do return (← n) * 16 + (← hexDigit? b)) (some 0)

/-- The character that the letter behind a backslash stands for. -/
def shortEscape? (b : UInt8) : Option UInt8 :=
  if b = 0x22 ∨ b = 0x5C ∨ b = 0x2F then some b
  else if b = 0x62 then some 0x08
  else if b = 0x66 then some 0x0C
  else if b = 0x6E then some 0x0A
  else if b = 0x72 then some 0x0D
  else if b = 0x74 then some 0x09
  else none

/-- Where a reader of a string stands. -/
inductive StringMode where
  /-- Outside an escape. -/
  | plain
  /-- Behind a backslash. -/
  | escape
  /-- Among the four digits of a code, the ones read being `digits`; `lead?` is the leading
  surrogate in front of it. -/
  | code (lead? : Option Nat) (digits : Bytes)
  /-- Behind a leading surrogate, where a backslash must follow. -/
  | secondBackslash (lead : Nat)
  /-- Behind a leading surrogate and a backslash, where the letter of a code must follow. -/
  | secondLetter (lead : Nat)
deriving Repr, DecidableEq

/-- A reader of a string: its mode, and the bytes of the text read, the last one first. -/
structure StringReader where
  /-- Where the reader stands. -/
  mode : StringMode
  /-- The bytes read, the last one first. -/
  read : Bytes
deriving Repr, DecidableEq

/-- The reader behind the opening quotation mark. -/
def StringReader.start : StringReader := ⟨.plain, []⟩

/-- Takes a character up and goes on outside escapes. -/
def StringReader.take (r : StringReader) (c : Char) : StringReader :=
  ⟨.plain, (String.utf8EncodeChar c).reverse ++ r.read⟩

/-- Whether a code is a leading surrogate. -/
def isLeadSurrogate (n : Nat) : Bool := 0xD800 ≤ n && n ≤ 0xDBFF

/-- Whether a code is a trailing surrogate. -/
def isTrailSurrogate (n : Nat) : Bool := 0xDC00 ≤ n && n ≤ 0xDFFF

/-- Reads a code whose four digits are complete. -/
def StringReader.readCode (r : StringReader) (lead? : Option Nat) (digits : Bytes) :
    Step StringReader :=
  match hexValue? digits, lead? with
  | none, _ => .fail .invalidEscape
  | some n, none =>
    if isTrailSurrogate n then .fail .loneSurrogate
    else if isLeadSurrogate n then .next { r with mode := .secondBackslash n }
    else .next (r.take (Char.ofNat n))
  | some n, some lead =>
    if isTrailSurrogate n then
      .next (r.take (Char.ofNat ((lead - 0xD800) * 0x400 + (n - 0xDC00) + 0x10000)))
    else .fail .loneSurrogate

/-- Reads one byte of a string. -/
def StringReader.step (r : StringReader) (b : UInt8) : Step StringReader :=
  match r.mode with
  | .plain =>
    if b = 0x22 then .last r
    else if b = 0x5C then .next { r with mode := .escape }
    else if b < 0x20 then .fail .controlCharacter
    else .next { r with read := b :: r.read }
  | .escape =>
    if b = 0x75 then .next { r with mode := .code none [] }
    else
      match shortEscape? b with
      | some e => .next ⟨.plain, e :: r.read⟩
      | none => .fail .invalidEscape
  | .code lead? digits =>
    if digits.length < 3 then .next { r with mode := .code lead? (digits ++ [b]) }
    else r.readCode lead? (digits ++ [b])
  | .secondBackslash lead =>
    if b = 0x5C then .next { r with mode := .secondLetter lead } else .fail .unfinishedSurrogate
  | .secondLetter lead =>
    if b = 0x75 then .next { r with mode := .code (some lead) [] } else .fail .unfinishedSurrogate

/-- The scanner of a string. No string ends with the document. -/
def stringScanner : Scanner StringReader := ⟨StringReader.step, fun _ => .error .endInString⟩

/-- Reads a string behind its opening quotation mark: its text, and what follows it. -/
def readString (bytes : Bytes) : Except Error (Text × Bytes) :=
  match stringScanner.run .start bytes with
  | .error e => .error e
  | .ok (r, rest) =>
    match Utf8.decode? r.read.reverse with
    | some t => .ok (t, rest)
    | none => .error .invalidCodePoint

/-- Reading a string leaves no more than was there. -/
theorem length_le_of_readString {bytes rest : Bytes} {t : Text}
    (h : readString bytes = .ok (t, rest)) : rest.length ≤ bytes.length := by
  simp only [readString] at h
  split at h
  · cases h
  · next hr =>
    split at h
    · cases h
      exact Scanner.length_le_of_run hr
    · cases h

/-- Escapes are read, and the rest is left. -/
example : (readString (Utf8.encode "a\\u00e9\\n\":1".toList)).toOption =
    some ("aé\n".toList, Utf8.encode ":1".toList) := by decide +kernel

end Json

end SourceRecovery
