import SourceRecovery.Json.Number

/-! # Reading values of a known type

A reader takes the bytes in front of a value and gives what it read with the bytes behind it.
Where a value of another type is found, the error says which: a list or an object is known by its
first byte, anything else is read to its end first, so what is wrong inside it comes first. -/

namespace SourceRecovery

namespace Json

/-- Reads the rest of a word. -/
def readWord : Bytes → Bytes → Except Error Bytes
  | [], rest => .ok rest
  | _ :: _, [] => .error .endInValue
  | c :: left, b :: rest => if b = c then readWord left rest else .error .wordExpected

/-- The error of finding a word where a value of another type is expected. -/
def wrongWord (expected : Text) (found : Found) (left : String) (rest : Bytes) : Error :=
  match readWord (Utf8.encode left.toList) rest with
  | .error e => e
  | .ok _ => .wrongType found expected

/-- The error of finding a number where a value of another type is expected. -/
def wrongNumber (expected : Text) (n : Except Error Number) : Error :=
  match n with
  | .error e => e
  | .ok n => .wrongType (.number n) expected

/-- The error of finding the value at the front of the bytes where one of another type is
expected. -/
def wrongValue (expected : Text) : Bytes → Error
  | [] => .endInValue
  | b :: rest =>
    if b = 0x6E then wrongWord expected .null "ull" rest
    else if b = 0x74 then wrongWord expected (.boolean true) "rue" rest
    else if b = 0x66 then wrongWord expected (.boolean false) "alse" rest
    else if b = 0x2D then wrongNumber expected (Number.read true rest)
    else if Skipper.isDigit b then wrongNumber expected (Number.read false (b :: rest))
    else if b = 0x22 then
      match readString rest with
      | .error e => e
      | .ok (t, _) => .wrongType (.string t) expected
    else if b = 0x5B then .wrongType .list expected
    else if b = 0x7B then .wrongType .object expected
    else .valueExpected

/-- Reads a value that must be a string. -/
def readText (expected : Text) (bytes : Bytes) : Except Error (Text × Bytes) :=
  match skipSpaces bytes with
  | [] => .error .endInValue
  | b :: rest => if b = 0x22 then readString rest else .error (wrongValue expected (b :: rest))

/-- Reads a value that must be null. -/
def readNull (expected : Text) (bytes : Bytes) : Except Error Bytes :=
  match skipSpaces bytes with
  | [] => .error .endInValue
  | b :: rest =>
    if b = 0x6E then readWord (Utf8.encode "ull".toList) rest
    else .error (wrongValue expected (b :: rest))

/-- Reads the colon behind a key. -/
def readColon (bytes : Bytes) : Except Error Bytes :=
  match skipSpaces bytes with
  | [] => .error .endInObject
  | b :: rest => if b = 0x3A then .ok rest else .error .colonExpected

/-- Reads the key of the next member of an object, or finds the object closed. In front of every
key but the first stands a comma. -/
def readKey? (isFirst : Bool) (bytes : Bytes) : Except Error (Option (Text × Bytes)) :=
  match skipSpaces bytes with
  | [] => .error .endInObject
  | b :: rest =>
    if b = 0x7D then .ok none
    else if isFirst then
      if b = 0x22 then (readString rest).map some else .error .keyExpected
    else if b = 0x2C then
      match skipSpaces rest with
      | [] => .error .endInValue
      | c :: rest =>
        if c = 0x22 then (readString rest).map some
        else if c = 0x7D then .error .trailingComma
        else .error .keyExpected
    else .error .objectEndExpected

/-- Comes to the next item of a list, or finds the list closed. In front of every item but the
first stands a comma. -/
def readItem? (isFirst : Bool) (bytes : Bytes) : Except Error (Option Bytes) :=
  match skipSpaces bytes with
  | [] => .error .endInList
  | b :: rest =>
    if b = 0x5D then .ok none
    else if isFirst then .ok (some (b :: rest))
    else if b = 0x2C then
      match skipSpaces rest with
      | [] => .error .endInValue
      | c :: rest => if c = 0x5D then .error .trailingComma else .ok (some (c :: rest))
    else .error .listEndExpected

/-- Reads the bracket that closes a list of which no more items are read. -/
def readListEnd (bytes : Bytes) : Except Error Bytes :=
  match skipSpaces bytes with
  | [] => .error .endInList
  | b :: rest =>
    if b = 0x5D then .ok rest
    else if b = 0x2C ∧ (skipSpaces rest).head? = some 0x5D then .error .trailingComma
    else .error .trailingCharacters

/-- Reads the brace that closes an object. -/
def readObjectEnd (bytes : Bytes) : Except Error Bytes :=
  match skipSpaces bytes with
  | [] => .error .endInObject
  | b :: rest =>
    if b = 0x7D then .ok rest
    else .error (if b = 0x2C then .trailingComma else .trailingCharacters)

/-- Reads the end of the document. -/
def readEnd (bytes : Bytes) : Except Error Unit :=
  if skipSpaces bytes = [] then .ok () else .error .trailingCharacters

/-! ## What readers leave over -/

/-- Reading a word only takes bytes away. -/
theorem length_le_of_readWord {left bytes rest : Bytes} (h : readWord left bytes = .ok rest) :
    rest.length ≤ bytes.length := by
  induction left generalizing bytes with
  | nil =>
    simp only [readWord, Except.ok.injEq] at h
    simp [h]
  | cons c left ih =>
    cases bytes with
    | nil => simp [readWord] at h
    | cons b bytes =>
      simp only [readWord] at h
      split at h
      · exact Nat.le_succ_of_le (ih h)
      · cases h

/-- The bytes behind the first byte of the next token are fewer. -/
theorem length_lt_of_skipSpaces {bytes rest : Bytes} {b : UInt8}
    (h : skipSpaces bytes = b :: rest) : rest.length < bytes.length := by
  have := length_skipSpaces_le bytes
  rw [h] at this
  exact this

/-- Reading a text only takes bytes away. -/
theorem length_le_of_readText {expected t : Text} {bytes rest : Bytes}
    (h : readText expected bytes = .ok (t, rest)) : rest.length ≤ bytes.length := by
  simp only [readText] at h
  split at h
  · cases h
  · next hs =>
    split at h
    · have := length_le_of_readString h
      have := length_lt_of_skipSpaces hs
      omega
    · cases h

/-- Reading a null only takes bytes away. -/
theorem length_le_of_readNull {expected : Text} {bytes rest : Bytes}
    (h : readNull expected bytes = .ok rest) : rest.length ≤ bytes.length := by
  simp only [readNull] at h
  split at h
  · cases h
  · next hs =>
    split at h
    · have := length_le_of_readWord h
      have := length_lt_of_skipSpaces hs
      omega
    · cases h

/-- Reading a colon only takes bytes away. -/
theorem length_le_of_readColon {bytes rest : Bytes} (h : readColon bytes = .ok rest) :
    rest.length ≤ bytes.length := by
  simp only [readColon] at h
  split at h
  · cases h
  · next hs =>
    split at h
    · cases h
      exact Nat.le_of_lt (length_lt_of_skipSpaces hs)
    · cases h

/-- The bytes behind a string that has been read as a key. -/
theorem length_le_of_map_readString {t : Text} {bytes rest : Bytes}
    (h : (readString bytes).map some = .ok (some (t, rest))) : rest.length ≤ bytes.length := by
  cases hr : readString bytes with
  | error e => simp [hr, Except.map] at h
  | ok p =>
    simp only [hr, Except.map, Except.ok.injEq, Option.some.injEq] at h
    subst h
    exact length_le_of_readString hr

/-- Reading a key leaves less than was there. -/
theorem length_lt_of_readKey? {isFirst : Bool} {t : Text} {bytes rest : Bytes}
    (h : readKey? isFirst bytes = .ok (some (t, rest))) : rest.length < bytes.length := by
  simp only [readKey?] at h
  split at h
  · cases h
  · next hs =>
    have := length_lt_of_skipSpaces hs
    -- The key is behind the blanks, or behind a comma and blanks again.
    split at h
    · cases h
    split at h
    · split at h
      · have := length_le_of_map_readString h
        omega
      · cases h
    split at h
    · split at h
      · cases h
      · next hs' =>
        have := length_lt_of_skipSpaces hs'
        split at h
        · have := length_le_of_map_readString h
          omega
        · split at h <;> cases h
    · cases h

end Json

end SourceRecovery
