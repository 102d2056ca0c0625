import SourceRecovery.Text.Utf8

/-! # The grammar of JSON

What the bytes of a JSON document look like, said without a reader. The text of a string is told
apart from its **spelling**: a character may stand for itself or be escaped.

* **`Spells`** — the bytes between the quotation marks of a string that spell a text.
* **`Derives`** — the bytes of a value, an item, a member or a sequence of these. -/

namespace SourceRecovery

namespace Json

/-! ## Blanks -/

/-- Whether bytes may stand between two tokens. -/
def IsBlank (bytes : Bytes) : Prop := ∀ b ∈ bytes, b = 0x20 ∨ b = 0x09 ∨ b = 0x0A ∨ b = 0x0D

/-- Blanks may be absent. -/
theorem isBlank_nil : IsBlank [] := by simp [IsBlank]

/-! ## Strings -/

/-- A **hexadecimal digit** and its value. -/
inductive HexDigit : UInt8 → Nat → Prop where
  | decimal {v : Nat} (h : v < 10) : HexDigit (UInt8.ofNat (0x30 + v)) v
  | upper {v : Nat} (h : v < 6) : HexDigit (UInt8.ofNat (0x41 + v)) (10 + v)
  | lower {v : Nat} (h : v < 6) : HexDigit (UInt8.ofNat (0x61 + v)) (10 + v)

/-- The four digits of a **code** and its value. -/
inductive Code : Bytes → Nat → Prop where
  | digits {a b c d : UInt8} {va vb vc vd : Nat} (ha : HexDigit a va) (hb : HexDigit b vb)
      (hc : HexDigit c vc) (hd : HexDigit d vd) :
      Code [a, b, c, d] (((va * 16 + vb) * 16 + vc) * 16 + vd)

/-- A letter behind a backslash and the character that it stands for. -/
inductive ShortEscape : UInt8 → Char → Prop where
  | quotationMark : ShortEscape 0x22 '"'
  | backslash : ShortEscape 0x5C '\\'
  | slash : ShortEscape 0x2F '/'
  | backspace : ShortEscape 0x62 '\x08'
  | formFeed : ShortEscape 0x66 '\x0c'
  | lineFeed : ShortEscape 0x6E '\n'
  | carriageReturn : ShortEscape 0x72 '\r'
  | tabulator : ShortEscape 0x74 '\t'

/-- Whether a character may stand for itself in a string. -/
def IsPlain (c : Char) : Prop := c ≠ '"' ∧ c ≠ '\\' ∧ 0x20 ≤ c.toNat

instance (c : Char) : Decidable (IsPlain c) :=
  inferInstanceAs (Decidable (c ≠ '"' ∧ c ≠ '\\' ∧ 0x20 ≤ c.toNat))

/-- The bytes between the quotation marks of a string **spell** a text: each of its characters
stands for itself, or is escaped by a letter, by a code, or by the codes of a leading and a
trailing surrogate. -/
inductive Spells : Bytes → Text → Prop where
  | nil : Spells [] []
  /-- A character that stands for itself. -/
  | plain {c : Char} {bytes : Bytes} {t : Text} (hc : IsPlain c) (h : Spells bytes t) :
      Spells (String.utf8EncodeChar c ++ bytes) (c :: t)
  /-- A backslash and a letter. -/
  | short {b : UInt8} {c : Char} {bytes : Bytes} {t : Text} (hc : ShortEscape b c)
      (h : Spells bytes t) : Spells (0x5C :: b :: bytes) (c :: t)
  /-- The code of a character that is no surrogate. -/
  | code {digits bytes : Bytes} {n : Nat} {t : Text} (hn : Code digits n)
      (hchar : n < 0xD800 ∨ 0xDFFF < n) (h : Spells bytes t) :
      Spells (0x5C :: 0x75 :: (digits ++ bytes)) (Char.ofNat n :: t)
  /-- A leading surrogate and a trailing one. -/
  | pair {leading trailing bytes : Bytes} {m n : Nat} {t : Text} (hm : m < 0x400)
      (hn : n < 0x400) (hleading : Code leading (0xD800 + m))
      (htrailing : Code trailing (0xDC00 + n)) (h : Spells bytes t) :
      Spells (0x5C :: 0x75 :: (leading ++ 0x5C :: 0x75 :: (trailing ++ bytes)))
        (Char.ofNat (0x10000 + m * 0x400 + n) :: t)

/-- The bytes between the quotation marks of a string whose text is of no interest: its codes may
be surrogates without the other one. -/
inductive IsStringBody : Bytes → Prop where
  | nil : IsStringBody []
  | plain {b : UInt8} {bytes : Bytes} (hb : b ≠ 0x22 ∧ b ≠ 0x5C ∧ 0x20 ≤ b)
      (h : IsStringBody bytes) : IsStringBody (b :: bytes)
  | short {b : UInt8} {c : Char} {bytes : Bytes} (hc : ShortEscape b c) (h : IsStringBody bytes) :
      IsStringBody (0x5C :: b :: bytes)
  | code {digits bytes : Bytes} {n : Nat} (hn : Code digits n) (h : IsStringBody bytes) :
      IsStringBody (0x5C :: 0x75 :: (digits ++ bytes))

/-! ## Numbers -/

/-- Whether a byte is a decimal digit. -/
def IsDigit (b : UInt8) : Prop := 0x30 ≤ b ∧ b ≤ 0x39

/-- Whether bytes are one or more decimal digits. -/
def IsDigits (bytes : Bytes) : Prop := bytes ≠ [] ∧ ∀ b ∈ bytes, IsDigit b

/-- The whole part of a number: a zero, or digits of which the first is none. -/
inductive IsWhole : Bytes → Prop where
  | zero : IsWhole [0x30]
  | positive {digits : Bytes} (h : IsDigits digits) (hfirst : digits.head? ≠ some 0x30) :
      IsWhole digits

/-- The fraction of a number, which may be absent. -/
inductive IsFraction : Bytes → Prop where
  | absent : IsFraction []
  | present {digits : Bytes} (h : IsDigits digits) : IsFraction (0x2E :: digits)

/-- The exponent of a number, which may be absent. -/
inductive IsExponent : Bytes → Prop where
  | absent : IsExponent []
  | present {letter : UInt8} {sign digits : Bytes} (hletter : letter = 0x65 ∨ letter = 0x45)
      (hsign : sign = [] ∨ sign = [0x2B] ∨ sign = [0x2D]) (h : IsDigits digits) :
      IsExponent (letter :: (sign ++ digits))

/-- The bytes of a **number**. -/
inductive IsNumber : Bytes → Prop where
  | parts {sign whole fraction exponent : Bytes} (hsign : sign = [] ∨ sign = [0x2D])
      (hwhole : IsWhole whole) (hfraction : IsFraction fraction) (hexponent : IsExponent exponent) :
      IsNumber (sign ++ whole ++ fraction ++ exponent)

/-! ## Values -/

/-- The **words** that are values. -/
def words : List Text := ["null".toList, "true".toList, "false".toList]

/-- What may be derived. -/
inductive Symbol where
  /-- A value without blanks around it. -/
  | value
  /-- A value with blanks around it. -/
  | item
  /-- One or more items with commas between them. -/
  | items
  /-- A key and an item. -/
  | member
  /-- One or more members with commas between them. -/
  | members
deriving Repr, DecidableEq

/-- The **grammar**: the bytes that a symbol derives. -/
inductive Derives : Symbol → Bytes → Prop where
  | word {w : Text} (h : w ∈ words) : Derives .value (Utf8.encode w)
  | number {bytes : Bytes} (h : IsNumber bytes) : Derives .value bytes
  | string {body : Bytes} (h : IsStringBody body) : Derives .value (0x22 :: (body ++ [0x22]))
  | emptyList {blank : Bytes} (h : IsBlank blank) : Derives .value (0x5B :: (blank ++ [0x5D]))
  | list {bytes : Bytes} (h : Derives .items bytes) : Derives .value (0x5B :: (bytes ++ [0x5D]))
  | emptyObject {blank : Bytes} (h : IsBlank blank) : Derives .value (0x7B :: (blank ++ [0x7D]))
  | object {bytes : Bytes} (h : Derives .members bytes) :
      Derives .value (0x7B :: (bytes ++ [0x7D]))
  | item {front bytes back : Bytes} (hfront : IsBlank front) (h : Derives .value bytes)
      (hback : IsBlank back) : Derives .item (front ++ bytes ++ back)
  | lastItem {bytes : Bytes} (h : Derives .item bytes) : Derives .items bytes
  | nextItem {bytes more : Bytes} (h : Derives .item bytes) (hmore : Derives .items more) :
      Derives .items (bytes ++ 0x2C :: more)
  | member {front body back bytes : Bytes} (hfront : IsBlank front) (hbody : IsStringBody body)
      (hback : IsBlank back) (h : Derives .item bytes) :
      Derives .member (front ++ 0x22 :: (body ++ 0x22 :: (back ++ 0x3A :: bytes)))
  | lastMember {bytes : Bytes} (h : Derives .member bytes) : Derives .members bytes
  | nextMember {bytes more : Bytes} (h : Derives .member bytes) (hmore : Derives .members more) :
      Derives .members (bytes ++ 0x2C :: more)

end Json

end SourceRecovery
