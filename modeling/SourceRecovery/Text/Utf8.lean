import SourceRecovery.Text.Basic

/-! # UTF-8

Files hold **bytes**, texts hold characters. The decoder is a machine that is fed one byte at a
time and either stands between two characters or waits for the rest of one (`Utf8.Pending`). Its
answer is a list of **parts**: a character, or `none` for a maximal invalid part, that is, the
longest beginning of a character that the next byte does not continue.

* **`Utf8.decode?`** accepts exactly the byte lists without an invalid part.
* **`Utf8.decodeLossy`** puts one replacement character for every invalid part. -/

namespace SourceRecovery

/-- The contents of a file. -/
abbrev Bytes := List UInt8

namespace Utf8

/-- The bytes of a text. -/
def encode (t : Text) : Bytes := t.flatMap String.utf8EncodeChar

@[simp] theorem encode_nil : encode [] = [] := rfl

@[simp] theorem encode_append (s t : Text) : encode (s ++ t) = encode s ++ encode t := by
  simp [encode]

/-- A character of which some bytes are read: its **value** so far, the range of the byte that
must come next, and how many bytes come **after** that one. -/
structure Pending where
  /-- The bits read so far. -/
  value : Nat
  /-- The least byte that continues the character. -/
  low : Nat
  /-- The greatest byte that continues the character. -/
  high : Nat
  /-- The number of bytes after the next one. -/
  after : Nat
deriving Repr, DecidableEq

/-- What a leading byte above the ASCII range announces. The narrowed ranges exclude overlong
forms, surrogates and values above `U+10FFFF`. -/
def Pending.ofLead? (b : Nat) : Option Pending :=
  if b < 0xC2 then none
  else if b ≤ 0xDF then some ⟨b - 0xC0, 0x80, 0xBF, 0⟩
  else if b = 0xE0 then some ⟨0, 0xA0, 0xBF, 1⟩
  else if b = 0xED then some ⟨0xD, 0x80, 0x9F, 1⟩
  else if b ≤ 0xEF then some ⟨b - 0xE0, 0x80, 0xBF, 1⟩
  else if b = 0xF0 then some ⟨0, 0x90, 0xBF, 2⟩
  else if b ≤ 0xF3 then some ⟨b - 0xF0, 0x80, 0xBF, 2⟩
  else if b = 0xF4 then some ⟨4, 0x80, 0x8F, 2⟩
  else none

/-- The state of the decoder: the parts found so far, the last one first, and the character begun,
if any. -/
structure Decoder where
  /-- The parts found, the last one first. -/
  found : List (Option Char)
  /-- The character whose bytes are still coming. -/
  pending : Option Pending
deriving Repr, DecidableEq

/-- The decoder before the first byte. -/
def Decoder.start : Decoder := ⟨[], none⟩

/-- Reads a byte that begins something new behind the parts found. -/
def Decoder.begin (found : List (Option Char)) (b : Nat) : Decoder :=
  if b < 0x80 then ⟨some (Char.ofNat b) :: found, none⟩
  else
    match Pending.ofLead? b with
    | some p => ⟨found, some p⟩
    | none => ⟨none :: found, none⟩

/-- Reads one byte. A byte that does not continue the pending character ends it as an invalid part
and is read again as a beginning. -/
def Decoder.feed (d : Decoder) (byte : UInt8) : Decoder :=
  let b := byte.toNat
  match d.pending with
  | none => Decoder.begin d.found b
  | some p =>
    if p.low ≤ b ∧ b ≤ p.high then
      let value := p.value * 64 + (b - 0x80)
      match p.after with
      | 0 => ⟨some (Char.ofNat value) :: d.found, none⟩
      | n + 1 => ⟨d.found, some ⟨value, 0x80, 0xBF, n⟩⟩
    else Decoder.begin (none :: d.found) b

/-- The parts once the bytes have ended: a character begun and not completed is invalid. -/
def Decoder.parts (d : Decoder) : List (Option Char) :=
  (if d.pending.isSome then none :: d.found else d.found).reverse

/-- The **parts** of a byte list: its characters, and `none` for each maximal invalid part. -/
def parts (bytes : Bytes) : List (Option Char) := (bytes.foldl Decoder.feed .start).parts

/-- The text of the bytes, if they are valid UTF-8. -/
def decode? (bytes : Bytes) : Option Text :=
  let found := parts bytes
  if found.all Option.isSome then some (found.filterMap id) else none

/-- The text of the bytes, with one replacement character for each maximal invalid part. -/
def decodeLossy (bytes : Bytes) : Text := (parts bytes).map (·.getD '\uFFFD')

@[simp] theorem decode?_nil : decode? [] = some [] := rfl

@[simp] theorem decodeLossy_nil : decodeLossy [] = [] := rfl

/-- Decoding takes the four lengths of a character. -/
example : decode? (encode "aé€😀".toList) = some "aé€😀".toList := by decide

/-- A truncated character is one invalid part, and each byte that begins nothing is another. -/
example : parts [0xE2, 0x82, 0x61, 0xC0, 0xFF] = [none, some 'a', none, none] := by decide

/-- The bytes of a surrogate form three invalid parts. -/
example : parts [0xED, 0xA0, 0x80] = [none, none, none] := by decide

end Utf8

end SourceRecovery
