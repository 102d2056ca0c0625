import Mathlib.Data.List.TakeWhile
import Mathlib.Tactic.IntervalCases
import Mathlib.Tactic.SplitIfs
import SourceRecovery.Json.Reader
import SourceRecovery.Proofs.Json.Grammar
import SourceRecovery.Proofs.Text.Utf8

/-! # Reading and writing tokens

The readers of a document find each token of the grammar behind blanks and leave what follows it. A
string is read as the text that it spells, and what is written for a text spells it.

* **`readString_of_spells`** — a text is read from each of its spellings.
* **`exists_spells_writeString`** — what is written spells the text.
* **`readKey?_of_spells`** — the key of the next member is found. -/

namespace SourceRecovery

namespace Json

/-! ## Blanks -/

/-- The readers pass over each byte of a blank. -/
theorem IsBlank.isSpace {blank : Bytes} (h : IsBlank blank) : ∀ b ∈ blank, isSpace b = true := by
  intro b hb
  rcases h b hb with rfl | rfl | rfl | rfl <;> rfl

/-- The next token is the one behind the blanks. -/
theorem skipSpaces_blank_append {blank rest : Bytes} {b : UInt8} (h : IsBlank blank)
    (hb : isSpace b = false) : skipSpaces (blank ++ b :: rest) = b :: rest := by
  rw [skipSpaces, List.dropWhile_append_of_pos h.isSpace, List.dropWhile_cons_of_neg (by simp [hb])]

/-- Nothing is left of a blank that nothing follows. -/
theorem skipSpaces_blank {blank : Bytes} (h : IsBlank blank) : skipSpaces blank = [] :=
  List.dropWhile_eq_nil_iff.2 h.isSpace

/-! ## Codes -/

/-- A digit of the grammar is read as its value. -/
theorem HexDigit.hexDigit?_eq {b : UInt8} {v : Nat} (h : HexDigit b v) :
    hexDigit? b = some v := by
  cases h with
  | decimal h => interval_cases v <;> rfl
  | @upper v h => interval_cases v <;> rfl
  | @lower v h => interval_cases v <;> rfl

/-- Four digits of the grammar are read as the code that they make up. -/
theorem Code.hexValue?_eq {digits : Bytes} {n : Nat} (h : Code digits n) :
    hexValue? digits = some n := by
  obtain ⟨ha, hb, hc, hd⟩ := h
  simp [hexValue?, ha.hexDigit?_eq, hb.hexDigit?_eq, hc.hexDigit?_eq, hd.hexDigit?_eq]

/-- A short escape is read as its character, which is a single byte, and is not the `u` that a code
follows. -/
theorem ShortEscape.shortEscape?_eq {b : UInt8} {c : Char} (h : ShortEscape b c) :
    (shortEscape? b).map (fun e => [e]) = some (String.utf8EncodeChar c) ∧ b ≠ 0x75 := by
  cases h <;> decide

/-! ## Reading -/

/-- Whether a byte stands for itself in a string. -/
def IsPlainByte (b : UInt8) : Prop := b ≠ 0x22 ∧ b ≠ 0x5C ∧ 0x20 ≤ b

/-- A byte is plain if its number is none of the others. -/
theorem isPlainByte_ofNat {n : Nat} (hn : n < 256)
    (h : n ≠ 0x22 ∧ n ≠ 0x5C ∧ 0x20 ≤ n) : IsPlainByte (UInt8.ofNat n) := by
  have hnat : (UInt8.ofNat n).toNat = n := UInt8.toNat_ofNat_of_lt hn
  simp only [IsPlainByte, ne_eq, ← UInt8.toNat_inj, UInt8.le_iff_toNat_le, hnat]
  exact h

/-- A character that stands for itself does so with each of its bytes. -/
theorem IsPlain.isPlainByte {c : Char} (hc : IsPlain c) :
    ∀ b ∈ String.utf8EncodeChar c, IsPlainByte b := by
  obtain ⟨hmark, hbackslash, hcontrol⟩ := hc
  -- The grammar speaks of characters and the reader of bytes, so all is compared as numbers.
  have hmark' : c.val.toNat ≠ 0x22 := fun h => hmark (Char.ext (UInt32.toNat_inj.1 h))
  have hbackslash' : c.val.toNat ≠ 0x5C := fun h => hbackslash (Char.ext (UInt32.toNat_inj.1 h))
  have hcontrol' : 0x20 ≤ c.val.toNat := hcontrol
  unfold String.utf8EncodeChar
  simp only
  -- Each byte of a longer character is at least 0x80.
  split_ifs <;> simp only [List.forall_mem_cons, List.not_mem_nil, false_implies, implies_true,
    and_true]
  · exact isPlainByte_ofNat (by omega) (by omega)
  · exact ⟨isPlainByte_ofNat (by omega) (by omega), isPlainByte_ofNat (by omega) (by omega)⟩
  · exact ⟨isPlainByte_ofNat (by omega) (by omega), isPlainByte_ofNat (by omega) (by omega),
      isPlainByte_ofNat (by omega) (by omega)⟩
  · exact ⟨isPlainByte_ofNat (by omega) (by omega), isPlainByte_ofNat (by omega) (by omega),
      isPlainByte_ofNat (by omega) (by omega), isPlainByte_ofNat (by omega) (by omega)⟩

variable {read rest : Bytes}

/-- Plain bytes are taken up one by one, in front of what has been read, which is kept in reverse.
-/
theorem run_plain {bytes : Bytes} (h : ∀ b ∈ bytes, IsPlainByte b) :
    stringScanner.run ⟨.plain, read⟩ (bytes ++ rest) =
      stringScanner.run ⟨.plain, bytes.reverse ++ read⟩ rest := by
  induction bytes generalizing read with
  | nil => rfl
  | cons b bytes ih =>
    obtain ⟨hmark, hbackslash, hcontrol⟩ := h b List.mem_cons_self
    have hstep : stringScanner.step ⟨.plain, read⟩ b = .next ⟨.plain, b :: read⟩ := by
      simp [stringScanner, StringReader.step, hmark, hbackslash, UInt8.not_lt.2 hcontrol]
    rw [List.cons_append, Scanner.run, hstep]
    simp only [ih fun b hb => h b (List.mem_cons_of_mem _ hb), List.reverse_cons,
      List.append_assoc, List.singleton_append]

section

variable {digits : Bytes} {mode : StringMode} {m n : Nat}

/-- A code outside of the surrogates stands for the character of that number. -/
theorem readCode_character (h : Code digits n) (hchar : n < 0xD800 ∨ 0xDFFF < n) :
    StringReader.readCode ⟨mode, read⟩ none digits =
      .next ⟨.plain, (String.utf8EncodeChar (Char.ofNat n)).reverse ++ read⟩ := by
  have htrail : isTrailSurrogate n = false := by simp [isTrailSurrogate]; omega
  have hlead : isLeadSurrogate n = false := by simp [isLeadSurrogate]; omega
  simp [StringReader.readCode, h.hexValue?_eq, htrail, hlead, StringReader.take]

/-- A leading surrogate is kept, and the trailing one is expected behind another backslash. -/
theorem readCode_leading (h : Code digits (0xD800 + m)) (hm : m < 0x400) :
    StringReader.readCode ⟨mode, read⟩ none digits =
      .next ⟨.secondBackslash (0xD800 + m), read⟩ := by
  have htrail : isTrailSurrogate (0xD800 + m) = false := by simp [isTrailSurrogate]; omega
  have hlead : isLeadSurrogate (0xD800 + m) = true := by simp [isLeadSurrogate]; omega
  simp [StringReader.readCode, h.hexValue?_eq, htrail, hlead]

/-- A trailing surrogate makes up one character beyond the first plane with the leading one in
front. -/
theorem readCode_trailing (h : Code digits (0xDC00 + n)) (hn : n < 0x400) :
    StringReader.readCode ⟨mode, read⟩ (some (0xD800 + m)) digits =
      .next ⟨.plain, (String.utf8EncodeChar (Char.ofNat (0x10000 + m * 0x400 + n))).reverse ++
        read⟩ := by
  have htrail : isTrailSurrogate (0xDC00 + n) = true := by simp [isTrailSurrogate]; omega
  have hvalue : m * 0x400 + n + 0x10000 = 0x10000 + m * 0x400 + n := by omega
  simp [StringReader.readCode, h.hexValue?_eq, htrail, hvalue, StringReader.take]

/-- The digits of a code are collected, and read with the last one. -/
theorem run_code (h : Code digits n) {lead? : Option Nat} {r : StringReader}
    (hcode : ∀ mode, StringReader.readCode ⟨mode, read⟩ lead? digits = .next r) :
    stringScanner.run ⟨.code lead? [], read⟩ (digits ++ rest) = stringScanner.run r rest := by
  -- There are four digits, and the reader collects until it has as many.
  obtain ⟨-, -, -, -⟩ := h
  simp [Scanner.run, stringScanner, StringReader.step, hcode]

end

/-- **A text is taken up from each of its spellings.** -/
theorem run_of_spells {bytes : Bytes} {t : Text} (h : Spells bytes t) :
    stringScanner.run ⟨.plain, read⟩ (bytes ++ rest) =
      stringScanner.run ⟨.plain, (Utf8.encode t).reverse ++ read⟩ rest := by
  have hcons (c : Char) (t : Text) (read : Bytes) :
      (Utf8.encode t).reverse ++ ((String.utf8EncodeChar c).reverse ++ read) =
        (Utf8.encode (c :: t)).reverse ++ read := by simp [Utf8.encode]
  -- What has been read before is not fixed: each character adds its bytes to it.
  induction h generalizing read with
  | nil => rfl
  | plain hc h ih => rw [List.append_assoc, run_plain hc.isPlainByte, ih, hcons]
  | @short b c bytes t hc h ih =>
    -- The byte of an escape decides on its own, unless it is the `u` of a code.
    obtain ⟨e, he, hbytes⟩ := Option.map_eq_some_iff.1 hc.shortEscape?_eq.1
    have hrun : stringScanner.run ⟨.plain, read⟩ (0x5C :: b :: bytes ++ rest) =
        stringScanner.run ⟨.plain, e :: read⟩ (bytes ++ rest) := by
      simp [Scanner.run, stringScanner, StringReader.step, hc.shortEscape?_eq.2, he]
    rw [hrun, ih, ← hcons, ← hbytes]
    rfl
  | @code digits bytes n t hn hchar h ih =>
    have hrun : stringScanner.run ⟨.plain, read⟩ (0x5C :: 0x75 :: (digits ++ bytes) ++ rest) =
        stringScanner.run ⟨.code none [], read⟩ (digits ++ (bytes ++ rest)) := by
      simp [Scanner.run, stringScanner, StringReader.step]
    rw [hrun, run_code hn fun _ => readCode_character hn hchar, ih, hcons]
  | @pair leading trailing bytes m n t hm hn hleading htrailing h ih =>
    -- Both codes are read before a character is: between them only the leading one is kept.
    have hrun : stringScanner.run ⟨.plain, read⟩
        (0x5C :: 0x75 :: (leading ++ 0x5C :: 0x75 :: (trailing ++ bytes)) ++ rest) =
        stringScanner.run ⟨.code none [], read⟩
          (leading ++ (0x5C :: 0x75 :: (trailing ++ (bytes ++ rest)))) := by
      simp [Scanner.run, stringScanner, StringReader.step]
    have hrun' (tail : Bytes) :
        stringScanner.run ⟨.secondBackslash (0xD800 + m), read⟩ (0x5C :: 0x75 :: tail) =
          stringScanner.run ⟨.code (some (0xD800 + m)) [], read⟩ tail := by
      simp [Scanner.run, stringScanner, StringReader.step]
    rw [hrun, run_code hleading fun _ => readCode_leading hleading hm, hrun',
      run_code htrailing fun _ => readCode_trailing htrailing hn, ih, hcons]

/-- **A text is read from each of its spellings**, and what follows the string is left. -/
theorem readString_of_spells {bytes : Bytes} {t : Text} (h : Spells bytes t) (rest : Bytes) :
    readString (bytes ++ 0x22 :: rest) = .ok (t, rest) := by
  have hrun : stringScanner.run .start (bytes ++ 0x22 :: rest) =
      .ok (⟨.plain, (Utf8.encode t).reverse ++ []⟩, rest) := run_of_spells h
  simp [readString, hrun]

/-! ## Writing -/

/-- The digit written for a number below sixteen is a digit of the grammar with that value. -/
theorem hexDigit_digitChar {v : Nat} (h : v < 16) :
    ∃ b, HexDigit b v ∧ String.utf8EncodeChar (Nat.digitChar v) = [b] := by
  by_cases hv : v < 10
  · exact ⟨_, .decimal hv, by interval_cases v <;> rfl⟩
  · obtain ⟨v, rfl⟩ := Nat.exists_eq_add_of_le (Nat.not_lt.1 hv)
    have hletter : v < 6 := by omega
    exact ⟨_, .lower hletter, by interval_cases v <;> rfl⟩

/-- What is written for a character spells it. -/
theorem spells_escapeCharacter (c : Char) {bytes : Bytes} {t : Text} (h : Spells bytes t) :
    Spells (Utf8.encode (escapeCharacter c) ++ bytes) (c :: t) := by
  unfold escapeCharacter
  -- The seven characters with a short escape, and then all others.
  split
  · exact .short .quotationMark h
  · exact .short .backslash h
  · exact .short .backspace h
  · exact .short .tabulator h
  · exact .short .lineFeed h
  · exact .short .formFeed h
  · exact .short .carriageReturn h
  · next hmark hbackslash _ _ _ _ _ =>
    split_ifs with hcontrol
    · -- Any other control character is below 0x20, so that its code is `00` and two digits.
      obtain ⟨high, hhigh, hhighByte⟩ := hexDigit_digitChar (v := c.toNat / 16) (by omega)
      obtain ⟨low, hlow, hlowByte⟩ := hexDigit_digitChar (v := c.toNat % 16) (by omega)
      have hzero : HexDigit 0x30 0 := .decimal (v := 0) (by decide)
      have hcode := Code.digits hzero hzero hhigh hlow
      have hvalue : ((0 * 16 + 0) * 16 + c.toNat / 16) * 16 + c.toNat % 16 = c.toNat := by omega
      rw [hvalue] at hcode
      have hspells := Spells.code hcode (.inl (by omega)) h
      rw [Char.ofNat_toNat] at hspells
      simp only [Utf8.encode, List.flatMap_cons, List.flatMap_nil, hhighByte, hlowByte]
      exact hspells
    · have hplain : IsPlain c := ⟨hmark, hbackslash, by omega⟩
      simpa [Utf8.encode] using Spells.plain hplain h

/-- What is written for each of the characters of a text spells the text. -/
theorem spells_flatMap_escapeCharacter (t : Text) :
    Spells (Utf8.encode (t.flatMap escapeCharacter)) t := by
  induction t with
  | nil => exact .nil
  | cons c t ih =>
    rw [List.flatMap_cons, Utf8.encode_append]
    exact spells_escapeCharacter c ih

/-- **What is written spells the text**, between quotation marks. -/
theorem exists_spells_writeString (t : Text) :
    ∃ body, Utf8.encode (writeString t) = 0x22 :: (body ++ [0x22]) ∧ Spells body t := by
  refine ⟨_, ?_, spells_flatMap_escapeCharacter t⟩
  rw [writeString, Utf8.encode_append]
  rfl

/-! ## Tokens of an object -/

variable {blank : Bytes} (hblank : IsBlank blank)
include hblank

/-- A text is read as a value, with the blanks in front of it passed over, whatever was expected. -/
theorem readText_of_spells {bytes : Bytes} {t : Text} (h : Spells bytes t) (expected : Text)
    (rest : Bytes) :
    readText expected (blank ++ 0x22 :: (bytes ++ 0x22 :: rest)) = .ok (t, rest) := by
  rw [readText, skipSpaces_blank_append hblank rfl]
  exact readString_of_spells h rest

/-- The colon behind a key is found behind blanks. -/
theorem readColon_blank_append (rest : Bytes) : readColon (blank ++ 0x3A :: rest) = .ok rest := by
  rw [readColon, skipSpaces_blank_append hblank rfl]
  rfl

/-- What stands in front of a member: nothing in front of the first, and a comma in front of any
other. -/
def separator (isFirst : Bool) : Bytes := if isFirst then [] else [0x2C]

/-- **The key of the next member is found**, with all that follows it left. -/
theorem readKey?_of_spells {bytes : Bytes} {t : Text} (h : Spells bytes t) (isFirst : Bool)
    (rest : Bytes) :
    readKey? isFirst (separator isFirst ++ (blank ++ 0x22 :: (bytes ++ 0x22 :: rest))) =
      .ok (some (t, rest)) := by
  have hread := readString_of_spells h rest
  -- Blanks are passed over twice for a later member: in front of the comma, and behind it.
  cases isFirst with
  | true =>
    rw [readKey?, separator, if_pos rfl, List.nil_append, skipSpaces_blank_append hblank rfl]
    simp [hread, Except.map]
  | false =>
    have hcomma (tail : Bytes) : skipSpaces (0x2C :: tail) = 0x2C :: tail := rfl
    rw [readKey?, separator, if_neg Bool.false_ne_true, List.singleton_append, hcomma]
    simp [skipSpaces_blank_append hblank, isSpace, hread, Except.map]

/-- There is no further member where the closing brace is found behind blanks. -/
theorem readKey?_blank_append (isFirst : Bool) (rest : Bytes) :
    readKey? isFirst (blank ++ 0x7D :: rest) = .ok none := by
  rw [readKey?, skipSpaces_blank_append hblank rfl]
  rfl

/-- The closing brace of an object is found behind blanks. -/
theorem readObjectEnd_blank_append (rest : Bytes) :
    readObjectEnd (blank ++ 0x7D :: rest) = .ok rest := by
  rw [readObjectEnd, skipSpaces_blank_append hblank rfl]
  rfl

/-- Blanks may follow a document, and nothing else does. -/
theorem readEnd_blank : readEnd blank = .ok () := by
  rw [readEnd, skipSpaces_blank hblank]
  rfl

end Json

end SourceRecovery
