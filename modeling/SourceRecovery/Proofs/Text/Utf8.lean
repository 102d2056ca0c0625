import Mathlib.Data.List.Forall2
import Mathlib.Tactic.SplitIfs
import SourceRecovery.Text.Utf8

/-! # Writing and reading UTF-8

The decoder gives back what was encoded, and what it accepts is the encoding of what it reads:

* **`decode?_encode`** — every text is read back from its bytes.
* **`exists_segments`** — any bytes fall into segments, one for each part that is read.
* **`encode_of_decode?`** — bytes that are valid are the bytes of their text. -/

namespace SourceRecovery

namespace Utf8

variable {found : List (Option Char)} {p : Pending} {b : Nat} {byte : UInt8} {bytes : Bytes}
  {t : Text}

/-! ## What a leading byte announces -/

/-- A character of two bytes may have any byte from the inside as its second one. -/
theorem ofLead?_two (hlow : 0xC2 ≤ b) (hhigh : b ≤ 0xDF) :
    Pending.ofLead? b = some ⟨b - 0xC0, 0x80, 0xBF, 0⟩ := by
  unfold Pending.ofLead?
  rw [if_neg (by omega), if_pos hhigh]

/-- The second byte of three is narrowed for overlong forms and for surrogates. -/
theorem ofLead?_three (hlow : 0xE0 ≤ b) (hhigh : b ≤ 0xEF) :
    Pending.ofLead? b = some ⟨b - 0xE0, if b = 0xE0 then 0xA0 else 0x80,
      if b = 0xED then 0x9F else 0xBF, 1⟩ := by
  unfold Pending.ofLead?
  rw [if_neg (by omega), if_neg (by omega)]
  by_cases h0 : b = 0xE0
  · subst h0
    rfl
  · by_cases hd : b = 0xED
    · subst hd
      rfl
    · rw [if_neg h0, if_neg hd, if_pos hhigh, if_neg h0, if_neg hd]

/-- The second byte of four is narrowed for overlong forms and for what is beyond Unicode. -/
theorem ofLead?_four (hlow : 0xF0 ≤ b) (hhigh : b ≤ 0xF4) :
    Pending.ofLead? b = some ⟨b - 0xF0, if b = 0xF0 then 0x90 else 0x80,
      if b = 0xF4 then 0x8F else 0xBF, 2⟩ := by
  unfold Pending.ofLead?
  rw [if_neg (by omega), if_neg (by omega), if_neg (by omega), if_neg (by omega),
    if_neg (by omega)]
  by_cases h0 : b = 0xF0
  · subst h0
    rfl
  · by_cases h4 : b = 0xF4
    · subst h4
      rfl
    · rw [if_neg h0, if_pos (by omega), if_neg h0, if_neg h4]

/-- All other bytes are no leading ones. -/
theorem ofLead?_none (h : b < 0xC2 ∨ (0xDF < b ∧ b < 0xE0) ∨ 0xF4 < b) :
    Pending.ofLead? b = none := by
  unfold Pending.ofLead?
  rcases h with h | h | h
  · rw [if_pos h]
  · omega
  · rw [if_neg (by omega), if_neg (by omega), if_neg (by omega), if_neg (by omega),
      if_neg (by omega), if_neg (by omega), if_neg (by omega), if_neg (by omega)]

/-! ## The steps of the decoder -/

/-- A byte of ASCII is a character on its own. -/
theorem begin_ascii (h : b < 0x80) :
    Decoder.begin found b = ⟨some (Char.ofNat b) :: found, none⟩ := if_pos h

/-- A leading byte is kept until its character is complete. -/
theorem begin_lead (h : 0x80 ≤ b) (hp : Pending.ofLead? b = some p) :
    Decoder.begin found b = ⟨found, some p⟩ := by
  rw [Decoder.begin, if_neg (by omega), hp]

/-- A byte that begins no character is invalid on its own. -/
theorem begin_none (h : 0x80 ≤ b) (hp : Pending.ofLead? b = none) :
    Decoder.begin found b = ⟨none :: found, none⟩ := by
  rw [Decoder.begin, if_neg (by omega), hp]

/-- Between characters, a byte begins one. -/
theorem feed_none (found : List (Option Char)) (byte : UInt8) :
    Decoder.feed ⟨found, none⟩ byte = Decoder.begin found byte.toNat := rfl

/-- The last byte of a character completes it. -/
theorem feed_last {value low high : Nat} (h : low ≤ byte.toNat ∧ byte.toNat ≤ high) :
    Decoder.feed ⟨found, some ⟨value, low, high, 0⟩⟩ byte =
      ⟨some (Char.ofNat (value * 64 + (byte.toNat - 0x80))) :: found, none⟩ := if_pos h

/-- A byte in the middle of a character is added to it. -/
theorem feed_more {value low high n : Nat} (h : low ≤ byte.toNat ∧ byte.toNat ≤ high) :
    Decoder.feed ⟨found, some ⟨value, low, high, n + 1⟩⟩ byte =
      ⟨found, some ⟨value * 64 + (byte.toNat - 0x80), 0x80, 0xBF, n⟩⟩ := if_pos h

/-- A byte that does not continue the character breaks it off, and begins another one. -/
theorem feed_other (h : ¬ (p.low ≤ byte.toNat ∧ byte.toNat ≤ p.high)) :
    Decoder.feed ⟨found, some p⟩ byte = Decoder.begin (none :: found) byte.toNat := if_neg h

/-! ## Reading what was written -/

/-- **Reading the bytes of a character** finds the character. -/
theorem foldl_feed_utf8EncodeChar (found : List (Option Char)) (c : Char) :
    (String.utf8EncodeChar c).foldl Decoder.feed ⟨found, none⟩ = ⟨some c :: found, none⟩ := by
  have hvalid : c.val.toNat < 0xD800 ∨ 0xDFFF < c.val.toNat ∧ c.val.toNat < 0x110000 := c.valid
  have hc : Char.ofNat c.val.toNat = c := Char.ofNat_toNat c
  unfold String.utf8EncodeChar
  generalize c.val.toNat = v at hvalid hc ⊢
  subst hc
  have hbyte : ∀ n < 256, (UInt8.ofNat n).toNat = n := fun n hn => UInt8.toNat_ofNat_of_lt hn
  simp only
  -- One case for each length: the leading byte opens a range for the byte behind it.
  split_ifs with h1 h2 h3
  · show Decoder.feed ⟨found, none⟩ _ = _
    rw [feed_none, hbyte v (by omega), begin_ascii (by omega)]
  · show Decoder.feed (Decoder.feed ⟨found, none⟩ _) _ = _
    have hlead : v / 64 % 32 + 0xC0 < 256 := by omega
    have hnext : v % 64 + 0x80 < 256 := by omega
    rw [feed_none, hbyte _ hlead, begin_lead (by omega) (ofLead?_two (by omega) (by omega)),
      feed_last (by rw [hbyte _ hnext]; omega), hbyte _ hnext]
    have hvalue : (v / 64 % 32 + 0xC0 - 0xC0) * 64 + (v % 64 + 0x80 - 0x80) = v := by omega
    rw [hvalue]
  · show Decoder.feed (Decoder.feed (Decoder.feed ⟨found, none⟩ _) _) _ = _
    have hlead : v / 4096 % 16 + 0xE0 < 256 := by omega
    have hnext : v / 64 % 64 + 0x80 < 256 := by omega
    have hlast : v % 64 + 0x80 < 256 := by omega
    have hrange : (if v / 4096 % 16 + 0xE0 = 0xE0 then 0xA0 else 0x80) ≤ v / 64 % 64 + 0x80 ∧
        v / 64 % 64 + 0x80 ≤ (if v / 4096 % 16 + 0xE0 = 0xED then 0x9F else 0xBF) := by
      split_ifs <;> omega
    rw [feed_none, hbyte _ hlead, begin_lead (by omega) (ofLead?_three (by omega) (by omega)),
      feed_more (by rw [hbyte _ hnext]; exact hrange), hbyte _ hnext,
      feed_last (by rw [hbyte _ hlast]; omega), hbyte _ hlast]
    have hvalue : ((v / 4096 % 16 + 0xE0 - 0xE0) * 64 + (v / 64 % 64 + 0x80 - 0x80)) * 64 +
        (v % 64 + 0x80 - 0x80) = v := by omega
    rw [hvalue]
  · show Decoder.feed (Decoder.feed (Decoder.feed (Decoder.feed ⟨found, none⟩ _) _) _) _ = _
    have hlead : v / 262144 % 8 + 0xF0 < 256 := by omega
    have hnext : v / 4096 % 64 + 0x80 < 256 := by omega
    have hthird : v / 64 % 64 + 0x80 < 256 := by omega
    have hlast : v % 64 + 0x80 < 256 := by omega
    have hrange : (if v / 262144 % 8 + 0xF0 = 0xF0 then 0x90 else 0x80) ≤ v / 4096 % 64 + 0x80 ∧
        v / 4096 % 64 + 0x80 ≤ (if v / 262144 % 8 + 0xF0 = 0xF4 then 0x8F else 0xBF) := by
      split_ifs <;> omega
    rw [feed_none, hbyte _ hlead, begin_lead (by omega) (ofLead?_four (by omega) (by omega)),
      feed_more (by rw [hbyte _ hnext]; exact hrange), hbyte _ hnext,
      feed_more (by rw [hbyte _ hthird]; omega), hbyte _ hthird,
      feed_last (by rw [hbyte _ hlast]; omega), hbyte _ hlast]
    have hvalue : (((v / 262144 % 8 + 0xF0 - 0xF0) * 64 + (v / 4096 % 64 + 0x80 - 0x80)) * 64 +
        (v / 64 % 64 + 0x80 - 0x80)) * 64 + (v % 64 + 0x80 - 0x80) = v := by omega
    rw [hvalue]

/-- Reading the bytes of a text finds its characters. -/
theorem foldl_feed_encode (found : List (Option Char)) (t : Text) :
    (encode t).foldl Decoder.feed ⟨found, none⟩ = ⟨(t.map some).reverse ++ found, none⟩ := by
  induction t generalizing found with
  | nil => rfl
  | cons c t ih =>
    have hcons : encode (c :: t) = String.utf8EncodeChar c ++ encode t := by simp [encode]
    rw [hcons, List.foldl_append, foldl_feed_utf8EncodeChar, ih]
    simp

/-- The parts of an encoded text are its characters, none of them invalid. -/
theorem parts_encode (t : Text) : parts (encode t) = t.map some := by
  rw [parts, Decoder.start, foldl_feed_encode]
  simp [Decoder.parts]

/-- **Every text is read back from its bytes.** -/
@[simp] theorem decode?_encode (t : Text) : decode? (encode t) = some t := by
  have hall : (t.map some).all Option.isSome = true := by simp
  unfold decode?
  simp only [parts_encode, hall, if_true, List.filterMap_map]
  simp

/-! ## The bytes of what was read -/

/-- A number outside of the surrogates and within Unicode is that of a character. -/
theorem val_ofNat {v : Nat} (hv : v < 0xD800 ∨ 0xDFFF < v ∧ v < 0x110000) :
    (Char.ofNat v).val.toNat = v := by
  have hvalid : v.isValidChar := hv
  rw [Char.ofNat, dif_pos hvalid]
  exact UInt32.toNat_ofNatLT ..

/-- A byte of ASCII encodes the character of its number. -/
theorem utf8EncodeChar_one (h : byte.toNat < 0x80) :
    String.utf8EncodeChar (Char.ofNat byte.toNat) = [byte] := by
  unfold String.utf8EncodeChar
  simp only [val_ofNat (v := byte.toNat) (by omega)]
  rw [if_pos (by omega), UInt8.ofNat_toNat]

/-- Two bytes in their ranges are the bytes of a character. -/
theorem utf8EncodeChar_two {b₀ b₁ : UInt8} (h₀ : 0xC2 ≤ b₀.toNat ∧ b₀.toNat ≤ 0xDF)
    (h₁ : 0x80 ≤ b₁.toNat ∧ b₁.toNat ≤ 0xBF) :
    String.utf8EncodeChar (Char.ofNat ((b₀.toNat - 0xC0) * 64 + (b₁.toNat - 0x80))) =
      [b₀, b₁] := by
  generalize hv : (b₀.toNat - 0xC0) * 64 + (b₁.toNat - 0x80) = v
  have e₀ : v / 64 % 32 + 0xC0 = b₀.toNat := by omega
  have e₁ : v % 64 + 0x80 = b₁.toNat := by omega
  unfold String.utf8EncodeChar
  simp only [val_ofNat (v := v) (by omega)]
  rw [if_neg (by omega), if_pos (by omega), e₀, e₁, UInt8.ofNat_toNat, UInt8.ofNat_toNat]

/-- Three bytes in their ranges are the bytes of a character. -/
theorem utf8EncodeChar_three {b₀ b₁ b₂ : UInt8} (h₀ : 0xE0 ≤ b₀.toNat ∧ b₀.toNat ≤ 0xEF)
    (h₁ : (if b₀.toNat = 0xE0 then 0xA0 else 0x80) ≤ b₁.toNat ∧
      b₁.toNat ≤ if b₀.toNat = 0xED then 0x9F else 0xBF)
    (h₂ : 0x80 ≤ b₂.toNat ∧ b₂.toNat ≤ 0xBF) :
    String.utf8EncodeChar (Char.ofNat
        (((b₀.toNat - 0xE0) * 64 + (b₁.toNat - 0x80)) * 64 + (b₂.toNat - 0x80))) =
      [b₀, b₁, b₂] := by
  generalize hv : ((b₀.toNat - 0xE0) * 64 + (b₁.toNat - 0x80)) * 64 + (b₂.toNat - 0x80) = v
  have hnext : 0x80 ≤ b₁.toNat ∧ b₁.toNat ≤ 0xBF := by split_ifs at h₁ <;> omega
  have hvalid : 0x7ff < v ∧ (v < 0xD800 ∨ 0xDFFF < v ∧ v < 0x10000) := by
    split_ifs at h₁ <;> omega
  have e₀ : v / 4096 % 16 + 0xE0 = b₀.toNat := by omega
  have e₁ : v / 64 % 64 + 0x80 = b₁.toNat := by omega
  have e₂ : v % 64 + 0x80 = b₂.toNat := by omega
  unfold String.utf8EncodeChar
  simp only [val_ofNat (v := v) (by omega)]
  rw [if_neg (by omega), if_neg (by omega), if_pos (by omega), e₀, e₁, e₂, UInt8.ofNat_toNat,
    UInt8.ofNat_toNat, UInt8.ofNat_toNat]

/-- Four bytes in their ranges are the bytes of a character. -/
theorem utf8EncodeChar_four {b₀ b₁ b₂ b₃ : UInt8} (h₀ : 0xF0 ≤ b₀.toNat ∧ b₀.toNat ≤ 0xF4)
    (h₁ : (if b₀.toNat = 0xF0 then 0x90 else 0x80) ≤ b₁.toNat ∧
      b₁.toNat ≤ if b₀.toNat = 0xF4 then 0x8F else 0xBF)
    (h₂ : 0x80 ≤ b₂.toNat ∧ b₂.toNat ≤ 0xBF) (h₃ : 0x80 ≤ b₃.toNat ∧ b₃.toNat ≤ 0xBF) :
    String.utf8EncodeChar (Char.ofNat ((((b₀.toNat - 0xF0) * 64 + (b₁.toNat - 0x80)) * 64 +
        (b₂.toNat - 0x80)) * 64 + (b₃.toNat - 0x80))) = [b₀, b₁, b₂, b₃] := by
  generalize hv : (((b₀.toNat - 0xF0) * 64 + (b₁.toNat - 0x80)) * 64 + (b₂.toNat - 0x80)) * 64 +
    (b₃.toNat - 0x80) = v
  have hnext : 0x80 ≤ b₁.toNat ∧ b₁.toNat ≤ 0xBF := by split_ifs at h₁ <;> omega
  have hvalid : 0xFFFF < v ∧ v < 0x110000 := by split_ifs at h₁ <;> omega
  have e₀ : v / 262144 % 8 + 0xF0 = b₀.toNat := by omega
  have e₁ : v / 4096 % 64 + 0x80 = b₁.toNat := by omega
  have e₂ : v / 64 % 64 + 0x80 = b₂.toNat := by omega
  have e₃ : v % 64 + 0x80 = b₃.toNat := by omega
  unfold String.utf8EncodeChar
  simp only [val_ofNat (v := v) (by omega)]
  rw [if_neg (by omega), if_neg (by omega), if_neg (by omega), e₀, e₁, e₂, e₃, UInt8.ofNat_toNat,
    UInt8.ofNat_toNat, UInt8.ofNat_toNat, UInt8.ofNat_toNat]

/-- A decoder forgets no part it has found. -/
theorem begin_append (found old : List (Option Char)) (b : Nat) :
    Decoder.begin (found ++ old) b =
      ⟨(Decoder.begin found b).found ++ old, (Decoder.begin found b).pending⟩ := by
  unfold Decoder.begin
  split_ifs
  · rfl
  · cases Pending.ofLead? b <;> rfl

/-- What a byte does to a decoder does not depend on what has been found before. -/
theorem feed_append (found old : List (Option Char)) (q : Option Pending) (byte : UInt8) :
    Decoder.feed ⟨found ++ old, q⟩ byte =
      ⟨(Decoder.feed ⟨found, q⟩ byte).found ++ old, (Decoder.feed ⟨found, q⟩ byte).pending⟩ := by
  cases q with
  | none => exact begin_append found old byte.toNat
  | some p =>
    obtain ⟨value, low, high, after⟩ := p
    by_cases h : low ≤ byte.toNat ∧ byte.toNat ≤ high
    · cases after with
      | zero => rw [feed_last h, feed_last h]; rfl
      | succ n => rw [feed_more h, feed_more h]
    · rw [feed_other h, feed_other h]
      exact begin_append (none :: found) old byte.toNat

/-- What bytes do to a decoder does not depend on what has been found before. -/
theorem foldl_feed_append (found old : List (Option Char)) (q : Option Pending) (bytes : Bytes) :
    bytes.foldl Decoder.feed ⟨found ++ old, q⟩ =
      ⟨(bytes.foldl Decoder.feed ⟨found, q⟩).found ++ old,
        (bytes.foldl Decoder.feed ⟨found, q⟩).pending⟩ := by
  induction bytes generalizing found q with
  | nil => rfl
  | cons byte bytes ih => rw [List.foldl_cons, feed_append, ih, List.foldl_cons]

/-- The parts are those found before and those of the bytes still to read. -/
theorem parts_foldl_feed (old : List (Option Char)) (bytes : Bytes) :
    (bytes.foldl Decoder.feed ⟨old, none⟩).parts = old.reverse ++ parts bytes := by
  have happend := foldl_feed_append [] old none bytes
  rw [List.nil_append] at happend
  rw [happend, parts, Decoder.start]
  unfold Decoder.parts
  split_ifs
  · simp
  · simp

/-- Some bytes **are read as** a part: if it is a character, they are its bytes. -/
def IsReadAs (segment : Bytes) (part : Option Char) : Prop :=
  ∀ c, part = some c → segment = String.utf8EncodeChar c

/-- The **first part** of some bytes and the segment that it is read from. -/
structure IsFirst (bytes segment : Bytes) (part : Option Char) (rest : Bytes) : Prop where
  /-- The segment stands in front. -/
  eq : bytes = segment ++ rest
  /-- It has a byte. -/
  ne_nil : segment ≠ []
  /-- What follows is read as if it stood alone. -/
  parts_eq : parts bytes = part :: parts rest
  /-- The bytes of a character are those that are written for it. -/
  isReadAs : IsReadAs segment part

/-- A character that was begun goes on with a byte in its range, or it is an invalid part. -/
theorem exists_isFirst_or_cons (front : Bytes) (hne : front ≠ [])
    (h : parts (front ++ bytes) = (bytes.foldl Decoder.feed ⟨[], some p⟩).parts) :
    (∃ segment part rest, IsFirst (front ++ bytes) segment part rest) ∨
      ∃ byte rest, bytes = byte :: rest ∧ (p.low ≤ byte.toNat ∧ byte.toNat ≤ p.high) ∧
        parts (front ++ bytes) =
          (rest.foldl Decoder.feed (Decoder.feed ⟨[], some p⟩ byte)).parts := by
  cases bytes with
  | nil => exact .inl ⟨front, none, [], rfl, hne, h, by simp [IsReadAs]⟩
  | cons byte rest =>
    by_cases hrange : p.low ≤ byte.toNat ∧ byte.toNat ≤ p.high
    · exact .inr ⟨byte, rest, rfl, hrange, h⟩
    · refine .inl ⟨front, none, byte :: rest, rfl, hne, ?_, by simp [IsReadAs]⟩
      rw [h, List.foldl_cons, feed_other hrange, ← feed_none, ← List.foldl_cons, parts_foldl_feed]
      rfl

/-- A character whose last byte has been read is the first part. -/
theorem isFirst_some {segment rest : Bytes} {c : Char} (hc : String.utf8EncodeChar c = segment)
    (h : parts (segment ++ rest) = (rest.foldl Decoder.feed ⟨[some c], none⟩).parts) :
    IsFirst (segment ++ rest) segment (some c) rest := by
  refine ⟨rfl, hc ▸ String.utf8EncodeChar_ne_nil, ?_, ?_⟩
  · rw [h, parts_foldl_feed]
    rfl
  · rintro _ ⟨⟩
    exact hc.symm

/-- **The first part of some bytes** is read from the bytes in front, and from these alone. -/
theorem exists_isFirst (hne : bytes ≠ []) :
    ∃ segment part rest, IsFirst bytes segment part rest := by
  obtain ⟨b₀, tail, rfl⟩ := List.exists_cons_of_ne_nil hne
  have hbegin : parts ([b₀] ++ tail) =
      (tail.foldl Decoder.feed (Decoder.begin [] b₀.toNat)).parts := rfl
  have hbyte : b₀.toNat < 256 := b₀.toNat_lt
  -- One case for each length, in each of which the bytes may break off.
  by_cases hone : b₀.toNat < 0x80
  · rw [begin_ascii hone] at hbegin
    exact ⟨_, _, _, isFirst_some (utf8EncodeChar_one hone) hbegin⟩
  have hlarge : 0x80 ≤ b₀.toNat := by omega
  by_cases htwo : 0xC2 ≤ b₀.toNat ∧ b₀.toNat ≤ 0xDF
  · rw [begin_lead hlarge (ofLead?_two htwo.1 htwo.2)] at hbegin
    rcases exists_isFirst_or_cons [b₀] (by simp) hbegin with hfirst | ⟨b₁, rest, rfl, h₁, hlast⟩
    · exact hfirst
    rw [feed_last h₁] at hlast
    exact ⟨_, _, _, isFirst_some (utf8EncodeChar_two htwo h₁) hlast⟩
  by_cases hthree : 0xE0 ≤ b₀.toNat ∧ b₀.toNat ≤ 0xEF
  · rw [begin_lead hlarge (ofLead?_three hthree.1 hthree.2)] at hbegin
    rcases exists_isFirst_or_cons [b₀] (by simp) hbegin with hfirst | ⟨b₁, rest, rfl, h₁, hnext⟩
    · exact hfirst
    rw [feed_more h₁] at hnext
    rcases exists_isFirst_or_cons [b₀, b₁] (by simp) hnext with
      hfirst | ⟨b₂, rest, rfl, h₂, hlast⟩
    · exact hfirst
    rw [feed_last h₂] at hlast
    exact ⟨_, _, _, isFirst_some (utf8EncodeChar_three hthree h₁ h₂) hlast⟩
  by_cases hfour : 0xF0 ≤ b₀.toNat ∧ b₀.toNat ≤ 0xF4
  · rw [begin_lead hlarge (ofLead?_four hfour.1 hfour.2)] at hbegin
    rcases exists_isFirst_or_cons [b₀] (by simp) hbegin with hfirst | ⟨b₁, rest, rfl, h₁, hnext⟩
    · exact hfirst
    rw [feed_more h₁] at hnext
    rcases exists_isFirst_or_cons [b₀, b₁] (by simp) hnext with
      hfirst | ⟨b₂, rest, rfl, h₂, hthird⟩
    · exact hfirst
    rw [feed_more h₂] at hthird
    rcases exists_isFirst_or_cons [b₀, b₁, b₂] (by simp) hthird with
      hfirst | ⟨b₃, rest, rfl, h₃, hlast⟩
    · exact hfirst
    rw [feed_last h₃] at hlast
    exact ⟨_, _, _, isFirst_some (utf8EncodeChar_four hfour h₁ h₂ h₃) hlast⟩
  -- No character begins with such a byte, so it is an invalid part by itself.
  rw [begin_none hlarge (ofLead?_none (by omega)), parts_foldl_feed] at hbegin
  exact ⟨[b₀], none, tail, rfl, by simp, hbegin, by simp [IsReadAs]⟩

/-- **The bytes fall into segments**, one for each part. -/
theorem exists_segments (bytes : Bytes) :
    ∃ segments : List Bytes, segments.flatten = bytes ∧
      List.Forall₂ IsReadAs segments (parts bytes) := by
  induction hn : bytes.length using Nat.strongRecOn generalizing bytes with
  | ind n ih =>
    by_cases hne : bytes = []
    · exact ⟨[], hne.symm, hne ▸ .nil⟩
    · obtain ⟨segment, part, rest, rfl, hsegment, hparts, hread⟩ := exists_isFirst hne
      have hlen : rest.length < n := by
        have hpos := List.length_pos_iff.2 hsegment
        rw [← hn, List.length_append]
        omega
      obtain ⟨segments, rfl, hforall⟩ := ih rest.length hlen rest rfl
      refine ⟨segment :: segments, rfl, ?_⟩
      rw [hparts]
      exact .cons hread hforall

/-- Segments that are read as the characters of a text are its bytes. -/
theorem flatten_of_isReadAs {segments : List Bytes}
    (h : List.Forall₂ IsReadAs segments (t.map some)) : segments.flatten = encode t := by
  induction t generalizing segments with
  | nil =>
    cases h
    rfl
  | cons c t ih =>
    rw [List.map_cons] at h
    cases h with
    | cons hread hforall =>
      rw [List.flatten_cons, hread c rfl, ih hforall]
      simp [encode]

/-- What is accepted are the characters of a text. -/
theorem parts_of_decode? (h : decode? bytes = some t) : parts bytes = t.map some := by
  unfold decode? at h
  simp only at h
  split_ifs at h with hall
  rw [← Option.some.inj h]
  generalize parts bytes = found at hall
  induction found with
  | nil => rfl
  | cons part found ih =>
    rw [List.all_cons, Bool.and_eq_true] at hall
    obtain ⟨c, rfl⟩ := Option.isSome_iff_exists.1 hall.1
    have hsome : (some c :: found).filterMap id = c :: found.filterMap id := rfl
    rw [hsome, List.map_cons, ← ih hall.2]

/-- **Bytes that are valid are the bytes of their text.** -/
theorem encode_of_decode? (h : decode? bytes = some t) : encode t = bytes := by
  obtain ⟨segments, rfl, hforall⟩ := exists_segments bytes
  rw [parts_of_decode? h] at hforall
  exact (flatten_of_isReadAs hforall).symm

end Utf8

end SourceRecovery
