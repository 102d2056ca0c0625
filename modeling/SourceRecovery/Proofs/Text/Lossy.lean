import SourceRecovery.Proofs.Text.Utf8

/-! # Searching what was read with losses

The bytes inside a character lie apart from those that begin one (`Pending.IsInner`). So the decoder
always begins anew at the first byte of a character, however badly the bytes in front of it are
formed, and a text is found among the characters that were read exactly if its bytes are found among
the bytes.

* **`parts_append_encode`** — the bytes of a text are read as its characters between any bytes.
* **`encode_infix_of_parts`** — characters in a row were read from their bytes, in a row.
* **`infix_decodeLossy_iff`** — a text is found in what was read if its bytes are in the file. -/

namespace SourceRecovery

namespace Utf8

variable {p : Pending} {d : Decoder} {bytes : Bytes} {s : Text} {b : Nat}

/-! ## What begins a character -/

/-- The byte that is waited for is one from the **inside** of a character. -/
def Pending.IsInner (p : Pending) : Prop := 0x80 ≤ p.low ∧ p.high ≤ 0xBF

/-- A leading byte is followed by one from the inside of a character. -/
theorem isInner_of_ofLead? (h : Pending.ofLead? b = some p) : p.IsInner := by
  unfold Pending.ofLead? at h
  split_ifs at h
  all_goals
    rw [← Option.some.inj h]
    simp [Pending.IsInner]

/-- A decoder waits for nothing but bytes from the inside of a character. -/
def Decoder.AwaitsInner (d : Decoder) : Prop := ∀ p, d.pending = some p → p.IsInner

/-- Whatever byte a character begins with, only bytes from the inside of one are waited for. -/
theorem awaitsInner_begin (found : List (Option Char)) (b : Nat) :
    (Decoder.begin found b).AwaitsInner := by
  intro p hp
  unfold Decoder.begin at hp
  split_ifs at hp
  cases hlead : Pending.ofLead? b with
  | none => simp [hlead] at hp
  | some q =>
    rw [hlead] at hp
    exact Option.some.inj hp ▸ isInner_of_ofLead? hlead

/-- After any byte, only bytes from the inside of a character are waited for. -/
theorem awaitsInner_feed (d : Decoder) (byte : UInt8) : (d.feed byte).AwaitsInner := by
  obtain ⟨found, _ | ⟨value, low, high, after⟩⟩ := d
  · exact awaitsInner_begin found byte.toNat
  · by_cases hrange : low ≤ byte.toNat ∧ byte.toNat ≤ high
    -- Only the second byte of a character has a narrower range than the inside has.
    · cases after with
      | zero =>
        rw [feed_last hrange]
        rintro p ⟨⟩
      | succ n =>
        rw [feed_more hrange]
        intro p hp
        rw [← Option.some.inj hp]
        exact ⟨Nat.le_refl _, Nat.le_refl _⟩
    · rw [feed_other hrange]
      exact awaitsInner_begin _ _

/-- After any bytes, only bytes from the inside of a character are waited for. -/
theorem awaitsInner_foldl_feed (h : d.AwaitsInner) (bytes : Bytes) :
    (bytes.foldl Decoder.feed d).AwaitsInner := by
  induction bytes generalizing d with
  | nil => exact h
  | cons byte bytes ih => exact ih (awaitsInner_feed d byte)

/-- At the start no byte is waited for. -/
theorem awaitsInner_start : Decoder.start.AwaitsInner := by
  rintro p ⟨⟩

/-- No character begins with a byte from the inside of one. -/
theorem exists_utf8EncodeChar_eq_cons (c : Char) :
    ∃ byte rest, String.utf8EncodeChar c = byte :: rest ∧
      (byte.toNat < 0x80 ∨ 0xBF < byte.toNat) := by
  unfold String.utf8EncodeChar
  generalize c.val.toNat = v
  have hbyte : ∀ n < 256, (UInt8.ofNat n).toNat = n := fun n hn => UInt8.toNat_ofNat_of_lt hn
  simp only
  split_ifs
  · exact ⟨_, _, rfl, .inl (by rw [hbyte _ (by omega)]; omega)⟩
  · exact ⟨_, _, rfl, .inr (by rw [hbyte _ (by omega)]; omega)⟩
  · exact ⟨_, _, rfl, .inr (by rw [hbyte _ (by omega)]; omega)⟩
  · exact ⟨_, _, rfl, .inr (by rw [hbyte _ (by omega)]; omega)⟩

/-- The parts found, with the character that was begun as an invalid one. -/
def Decoder.closed (d : Decoder) : List (Option Char) :=
  if d.pending.isSome then none :: d.found else d.found

/-- The parts that a decoder has read are those found, in the order in which they were. -/
theorem reverse_closed (d : Decoder) : d.closed.reverse = d.parts := rfl

/-- **A character breaks off what was begun.** -/
theorem foldl_feed_utf8EncodeChar_of_awaitsInner (h : d.AwaitsInner) (c : Char) :
    (String.utf8EncodeChar c).foldl Decoder.feed d = ⟨some c :: d.closed, none⟩ := by
  rw [← foldl_feed_utf8EncodeChar]
  obtain ⟨byte, rest, hc, hbyte⟩ := exists_utf8EncodeChar_eq_cons c
  rw [hc, List.foldl_cons, List.foldl_cons]
  congr 1
  obtain ⟨found, _ | p⟩ := d
  · rfl
  · have hinner := h p rfl
    have hrange : ¬ (p.low ≤ byte.toNat ∧ byte.toNat ≤ p.high) := by
      have hlow := hinner.1
      have hhigh := hinner.2
      omega
    exact feed_other hrange

/-! ## Searching -/

/-- **The bytes of a text are read as its characters**, whatever stands around them. -/
theorem parts_append_encode (u v : Bytes) (hs : s ≠ []) :
    parts (u ++ encode s ++ v) = parts u ++ s.map some ++ parts v := by
  obtain ⟨c, s, rfl⟩ := List.exists_cons_of_ne_nil hs
  have hcons : encode (c :: s) = String.utf8EncodeChar c ++ encode s := by simp [encode]
  -- The first character closes what `u` has begun, and from there on nothing is pending.
  have hpending := awaitsInner_foldl_feed awaitsInner_start u
  rw [parts, List.foldl_append, List.foldl_append, hcons, List.foldl_append,
    foldl_feed_utf8EncodeChar_of_awaitsInner hpending, foldl_feed_encode, parts_foldl_feed]
  simp [reverse_closed, parts]

/-- **Characters in a row were read from their bytes**, with nothing in between. -/
theorem encode_infix_of_parts {before after : List (Option Char)}
    (h : parts bytes = before ++ s.map some ++ after) : encode s <:+: bytes := by
  obtain ⟨segments, rfl, hforall⟩ := exists_segments bytes
  rw [h, List.append_assoc] at hforall
  -- One segment for each part: those of the text stand behind as many as there are parts before it.
  have hbehind := List.forall₂_drop_append _ _ _ hforall
  have hmiddle := List.forall₂_take_append _ _ _ hbehind
  refine ⟨(segments.take before.length).flatten,
    ((segments.drop before.length).drop (s.map some).length).flatten, ?_⟩
  rw [← flatten_of_isReadAs hmiddle, List.append_assoc, ← List.flatten_append,
    List.take_append_drop, ← List.flatten_append, List.take_append_drop]

/-- A text without replacement characters that occurs in what was read was not made up. -/
theorem exists_parts_of_infix (hs : '\uFFFD' ∉ s) (h : s <:+: decodeLossy bytes) :
    ∃ before after, parts bytes = before ++ s.map some ++ after := by
  obtain ⟨before, after, heq⟩ := h
  obtain ⟨front, behind, hparts, hfront, -⟩ := List.map_eq_append_iff.1 heq.symm
  obtain ⟨before, middle, rfl, -, hmiddle⟩ := List.map_eq_append_iff.1 hfront
  refine ⟨before, behind, ?_⟩
  rw [hparts, ← hmiddle, List.map_map]
  congr 2
  refine ((List.map_congr_left fun part hpart => ?_).trans (List.map_id _)).symm
  cases part with
  | some c => rfl
  | none => exact absurd (hmiddle ▸ List.mem_map_of_mem hpart) hs

/-- **A text is found in what was read** exactly if its bytes are found in the file. -/
theorem infix_decodeLossy_iff (hs : '\uFFFD' ∉ s) :
    s <:+: decodeLossy bytes ↔ encode s <:+: bytes := by
  constructor
  · intro h
    obtain ⟨before, after, hparts⟩ := exists_parts_of_infix hs h
    exact encode_infix_of_parts hparts
  · rintro ⟨u, v, rfl⟩
    by_cases hne : s = []
    · exact hne ▸ List.nil_infix
    · refine ⟨(parts u).map (·.getD '\uFFFD'), (parts v).map (·.getD '\uFFFD'), ?_⟩
      have hread : (s.map some).map (·.getD '\uFFFD') = s := by
        rw [List.map_map]
        exact List.map_id s
      rw [decodeLossy, parts_append_encode u v hne, List.map_append, List.map_append, hread]

/-- A truncated character takes nothing of what follows. -/
example : decodeLossy [0xE2, 0x82, 0x61, 0x62] = "\uFFFDab".toList := by decide

end Utf8

end SourceRecovery
