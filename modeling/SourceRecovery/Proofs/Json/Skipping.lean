import Mathlib.Tactic.FinCases
import SourceRecovery.Json.Skip
import SourceRecovery.Proofs.Json.Tokens

/-! # Skipping what the grammar derives

Whatever the grammar derives is skipped, at any depth, and nothing behind it. A value that ends
with a number goes on as long as it can, so what follows a value must not continue a number.

* **`skips_of_derives`** — what skipping makes of each symbol of the grammar.
* **`exists_skipValue_of_derives`** — an item is skipped up to the blanks behind it. -/

namespace SourceRecovery

namespace Json

variable {frames : List Frame} {rest : Bytes}

/-! ## Ends and blanks -/

/-- Whether the bytes behind a value do not continue a number. -/
def IsEnd (rest : Bytes) : Prop :=
  ∀ b ∈ rest.head?, ¬ IsDigit b ∧ b ≠ 0x2E ∧ b ≠ 0x65 ∧ b ≠ 0x45

/-- A blank byte, a comma, a closing bracket and a closing brace do not continue a number. -/
theorem isEnd_cons {b : UInt8}
    (h : b = 0x20 ∨ b = 0x09 ∨ b = 0x0A ∨ b = 0x0D ∨ b = 0x2C ∨ b = 0x5D ∨ b = 0x7D) :
    IsEnd (b :: rest) := by
  rintro c ⟨⟩
  rcases h with rfl | rfl | rfl | rfl | rfl | rfl | rfl <;> simp [IsDigit]

/-- What ends a number still does with blanks in front of it. -/
theorem isEnd_blank_append {blank : Bytes} (h : IsBlank blank) (hrest : IsEnd rest) :
    IsEnd (blank ++ rest) := by
  cases blank with
  | nil => exact hrest
  | cons b blank =>
    exact isEnd_cons (by have := h b List.mem_cons_self; tauto)

/-- Bytes that change nothing are passed over. -/
theorem run_of_forall_next {bytes : Bytes} {s : Skipper} (h : ∀ b ∈ bytes, s.step b = .next s) :
    skipScanner.run s (bytes ++ rest) = skipScanner.run s rest := by
  induction bytes with
  | nil => rfl
  | cons b bytes ih =>
    have hstep : skipScanner.step s b = .next s := h b List.mem_cons_self
    rw [List.cons_append, Scanner.run, hstep]
    exact ih fun c hc => h c (List.mem_cons_of_mem _ hc)

/-- Behind a value, the skipping ends or goes on in what the value is nested in. -/
theorem run_leave {s : Skipper} {b : UInt8} (h : s.step b = Skipper.leave frames) :
    skipScanner.run s (b :: rest) = skipScanner.run ⟨.behind, frames⟩ rest := by
  have hstep : skipScanner.step s b = Skipper.leave frames := h
  rw [Scanner.run, hstep]
  cases frames with
  | nil =>
    -- The outermost value is left: the skipping stops, as it does in front of whatever is next.
    cases rest with
    | nil => rfl
    | cons c rest => rfl
  | cons f frames => rfl

/-- A step that stays within the value is followed by the rest of the skipping. -/
theorem run_next {s s' : Skipper} {b : UInt8} (h : s.step b = .next s') :
    skipScanner.run s (b :: rest) = skipScanner.run s' rest := by
  have hstep : skipScanner.step s b = .next s' := h
  rw [Scanner.run, hstep]

/-! ## Words and strings -/

/-- The letters that are left of a word are skipped, and the value ends with the last one. -/
theorem run_word {left : Bytes} (hne : left ≠ []) :
    skipScanner.run ⟨.word left, frames⟩ (left ++ rest) =
      skipScanner.run ⟨.behind, frames⟩ rest := by
  -- On the letters that are left, of which the last one leaves the value.
  induction left with
  | nil => exact absurd rfl hne
  | cons c left ih =>
    by_cases hleft : left = []
    · subst hleft
      exact run_leave (by simp [Skipper.step])
    · have hstep : Skipper.step ⟨.word (c :: left), frames⟩ c = .next ⟨.word left, frames⟩ := by
        simp [Skipper.step, hleft]
      rw [List.cons_append, run_next hstep]
      exact ih hleft

/-- The inside of a string is skipped, whether it is a key or a value. -/
theorem run_stringBody {body : Bytes} (h : IsStringBody body) (isKey : Bool) :
    skipScanner.run ⟨.string isKey .plain, frames⟩ (body ++ rest) =
      skipScanner.run ⟨.string isKey .plain, frames⟩ rest := by
  -- On the parts of the body. Only the first byte behind a backslash has to be a known one, and the
  -- digits of a code are collected until the fourth.
  induction h with
  | nil => rfl
  | plain hb h ih =>
    rw [List.cons_append, run_next, ih]
    simp [Skipper.step, Skipper.stepString, hb.1, hb.2.1, UInt8.not_lt.2 hb.2.2]
  | short hc h ih =>
    obtain ⟨e, he, -⟩ := Option.map_eq_some_iff.1 hc.shortEscape?_eq.1
    rw [← ih]
    simp [Scanner.run, skipScanner, Skipper.step, Skipper.stepString, he, hc.shortEscape?_eq.2]
  | code hn h ih =>
    have hvalue := hn.hexValue?_eq
    obtain ⟨-, -, -, -⟩ := hn
    rw [← ih]
    simp [Scanner.run, skipScanner, Skipper.step, Skipper.stepString, hvalue]

/-! ## Numbers -/

/-- A digit is one of ten bytes, which a proof can go through. -/
theorem IsDigit.mem_digits {b : UInt8} (h : IsDigit b) :
    b ∈ ([0x30, 0x31, 0x32, 0x33, 0x34, 0x35, 0x36, 0x37, 0x38, 0x39] : Bytes) := by
  obtain ⟨hlow, hhigh⟩ := h
  rw [UInt8.le_iff_toNat_le] at hlow hhigh
  obtain ⟨v, hv⟩ : ∃ v, b.toNat = v := ⟨_, rfl⟩
  rw [hv] at hlow hhigh
  obtain rfl : b = UInt8.ofNat v := by rw [← hv, UInt8.ofNat_toNat]
  change 0x30 ≤ v at hlow
  change v ≤ 0x39 at hhigh
  clear hv
  interval_cases v <;> decide

/-- The skipping takes the digits of the grammar for digits. -/
theorem isDigit_iff {b : UInt8} : Skipper.isDigit b = true ↔ IsDigit b := by
  simp [Skipper.isDigit, IsDigit]

/-- Within a part of a number that digits make up, any number of them is passed over. -/
theorem run_digits {digits : Bytes} (h : ∀ b ∈ digits, IsDigit b) {part : NumberPart}
    (hpart : part = .whole ∨ part = .fraction ∨ part = .exponent) :
    skipScanner.run ⟨.number part, frames⟩ (digits ++ rest) =
      skipScanner.run ⟨.number part, frames⟩ rest := by
  refine run_of_forall_next fun b hb => ?_
  have hdigit := isDigit_iff.2 (h b hb)
  rcases hpart with rfl | rfl | rfl <;> simp [Skipper.step, Skipper.stepNumber, hdigit]

/-- A number ends where it does not go on. -/
theorem run_number_end (h : IsEnd rest) {part : NumberPart}
    (hpart : part = .zero ∨ part = .whole ∨ part = .fraction ∨ part = .exponent) :
    skipScanner.run ⟨.number part, frames⟩ rest = skipScanner.run ⟨.behind, frames⟩ rest := by
  cases rest with
  | nil => rcases hpart with rfl | rfl | rfl | rfl <;> rfl
  | cons b rest =>
    obtain ⟨hdigit, hpoint, he, hE⟩ := h b rfl
    rw [← isDigit_iff] at hdigit
    -- No byte is spent on finding that the number ends, so the same one is looked at once more.
    have hstep : skipScanner.step ⟨.number part, frames⟩ b =
        skipScanner.step ⟨.behind, frames⟩ b := by
      rcases hpart with rfl | rfl | rfl | rfl <;>
        simp [skipScanner, Skipper.step, Skipper.stepNumber, Skipper.stepAfterDigits, hdigit,
          hpoint, he, hE]
    rw [Scanner.run, hstep, Scanner.run]

/-- One or more digits, of which the first leads into the part that they make up. -/
theorem run_cons_digits {digits : Bytes} (h : IsDigits digits) {mode : SkipMode}
    {part : NumberPart} (hpart : part = .whole ∨ part = .fraction ∨ part = .exponent)
    (hfirst : ∀ b ∈ digits.head?, Skipper.step ⟨mode, frames⟩ b = .next ⟨.number part, frames⟩) :
    skipScanner.run ⟨mode, frames⟩ (digits ++ rest) =
      skipScanner.run ⟨.number part, frames⟩ rest := by
  obtain ⟨hne, hdigits⟩ := h
  obtain ⟨b, digits, rfl⟩ := List.exists_cons_of_ne_nil hne
  rw [List.cons_append, run_next (hfirst b rfl),
    run_digits (fun c hc => hdigits c (List.mem_cons_of_mem _ hc)) hpart]

/-- The first of one or more digits is a digit. -/
theorem IsDigits.isDigit_head {digits : Bytes} (h : IsDigits digits) :
    ∀ b ∈ digits.head?, IsDigit b :=
  fun b hb => h.2 b (List.mem_of_mem_head? hb)

/-- The last part of a number is skipped, if it is there: behind it, or where it is absent, the
number ends. -/
theorem run_exponent {exponent : Bytes} (h : IsExponent exponent) (hrest : IsEnd rest)
    {part : NumberPart} (hpart : part = .zero ∨ part = .whole ∨ part = .fraction) :
    skipScanner.run ⟨.number part, frames⟩ (exponent ++ rest) =
      skipScanner.run ⟨.behind, frames⟩ rest := by
  cases h with
  | absent => exact run_number_end hrest (by tauto)
  | @present letter sign digits hletter hsign h =>
    have hfirst := h.isDigit_head
    -- The letter may follow any of the other parts, and the sign is optional behind it.
    have hstep : Skipper.step ⟨.number part, frames⟩ letter = .next ⟨.number .letter, frames⟩ := by
      rcases hpart with rfl | rfl | rfl <;> rcases hletter with rfl | rfl <;> rfl
    have hdigits {mode : SkipMode} (hmode : mode = .number .letter ∨ mode = .number .exponentSign) :
        skipScanner.run ⟨mode, frames⟩ (digits ++ rest) =
          skipScanner.run ⟨.behind, frames⟩ rest := by
      rw [run_cons_digits h (.inr (.inr rfl)), run_number_end hrest (by tauto)]
      intro b hb
      have hdigit := (hfirst b hb).mem_digits
      fin_cases hdigit <;> rcases hmode with rfl | rfl <;> rfl
    rw [List.cons_append, run_next hstep]
    rcases hsign with rfl | rfl | rfl
    · exact hdigits (.inl rfl)
    · exact (run_next rfl).trans (hdigits (.inr rfl))
    · exact (run_next rfl).trans (hdigits (.inr rfl))

/-- The fraction of a number is skipped, if it is there, and an exponent may still follow. -/
theorem run_fraction {fraction : Bytes} (h : IsFraction fraction) {part : NumberPart}
    (hpart : part = .zero ∨ part = .whole) (frames : List Frame) (rest : Bytes) :
    ∃ part', (part' = .zero ∨ part' = .whole ∨ part' = .fraction) ∧
      skipScanner.run ⟨.number part, frames⟩ (fraction ++ rest) =
        skipScanner.run ⟨.number part', frames⟩ rest := by
  cases h with
  | absent => exact ⟨part, by tauto, rfl⟩
  | @present digits h =>
    have hstep : Skipper.step ⟨.number part, frames⟩ 0x2E = .next ⟨.number .point, frames⟩ := by
      rcases hpart with rfl | rfl <;> rfl
    refine ⟨.fraction, by tauto, ?_⟩
    rw [List.cons_append, run_next hstep, run_cons_digits h (.inr (.inl rfl))]
    intro b hb
    have hdigit := isDigit_iff.2 (h.isDigit_head b hb)
    simp [Skipper.step, Skipper.stepNumber, hdigit]

/-- The whole part of a number begins with a digit. -/
theorem IsWhole.exists_cons {whole : Bytes} (h : IsWhole whole) :
    ∃ b tail, whole = b :: tail ∧ IsDigit b := by
  cases h with
  | zero => exact ⟨_, _, rfl, by decide, by decide⟩
  | positive h =>
    obtain ⟨b, tail, rfl⟩ := List.exists_cons_of_ne_nil h.1
    exact ⟨b, tail, rfl, h.2 b List.mem_cons_self⟩

/-- The whole part of a number stands at its front or behind the minus sign. -/
theorem run_whole {whole : Bytes} (h : IsWhole whole) {mode : SkipMode}
    (hmode : mode = .value ∨ mode = .number .sign) (frames : List Frame) (rest : Bytes) :
    ∃ part, (part = .zero ∨ part = .whole) ∧
      skipScanner.run ⟨mode, frames⟩ (whole ++ rest) =
        skipScanner.run ⟨.number part, frames⟩ rest := by
  cases h with
  | zero => exact ⟨.zero, .inl rfl, run_next (by rcases hmode with rfl | rfl <;> rfl)⟩
  | positive h hfirst =>
    refine ⟨.whole, .inr rfl, run_cons_digits h (.inl rfl) fun b hb => ?_⟩
    -- A zero in front would be the whole part on its own.
    have hzero : b ≠ 0x30 := by
      rintro rfl
      exact hfirst hb
    have hdigit := (h.isDigit_head b hb).mem_digits
    rcases hmode with rfl | rfl <;> fin_cases hdigit <;> first | rfl | exact absurd rfl hzero

/-- **A number is skipped** in front of what does not continue it. -/
theorem run_number {bytes : Bytes} (h : IsNumber bytes) (hrest : IsEnd rest) :
    skipScanner.run ⟨.value, frames⟩ (bytes ++ rest) =
      skipScanner.run ⟨.behind, frames⟩ rest := by
  obtain @⟨sign, whole, fraction, exponent, hsign, hwhole, hfraction, hexponent⟩ := h
  -- The parts behind the sign. Each of them leaves the skipping where the next one is expected.
  have hparts {mode : SkipMode} (hmode : mode = .value ∨ mode = .number .sign) :
      skipScanner.run ⟨mode, frames⟩ (whole ++ (fraction ++ (exponent ++ rest))) =
        skipScanner.run ⟨.behind, frames⟩ rest := by
    obtain ⟨part, hpart, hrun⟩ := run_whole hwhole hmode frames (fraction ++ (exponent ++ rest))
    obtain ⟨part', hpart', hrun'⟩ := run_fraction hfraction hpart frames (exponent ++ rest)
    rw [hrun, hrun', run_exponent hexponent hrest hpart']
  simp only [List.append_assoc]
  rcases hsign with rfl | rfl
  · exact hparts (.inl rfl)
  · exact (run_next rfl).trans (hparts (.inr rfl))

/-! ## Values -/

/-- The first byte of a value is not one that may stand in front of it in a list. -/
theorem exists_cons_of_value {bytes : Bytes} (h : Derives .value bytes) :
    ∃ b tail, bytes = b :: tail ∧ isSpace b = false ∧ b ≠ 0x5D := by
  cases h with
  | word h =>
    simp only [words, List.mem_cons, List.not_mem_nil, or_false] at h
    rcases h with rfl | rfl | rfl <;> exact ⟨_, _, rfl, rfl, by decide⟩
  | number h =>
    obtain @⟨sign, whole, fraction, exponent, hsign, hwhole, -, -⟩ := h
    rcases hsign with rfl | rfl
    · obtain ⟨b, tail, rfl, hdigit⟩ := hwhole.exists_cons
      have hmem := hdigit.mem_digits
      exact ⟨b, _, rfl, by fin_cases hmem <;> rfl, by fin_cases hmem <;> decide⟩
    · exact ⟨_, _, rfl, rfl, by decide⟩
  | string h => exact ⟨_, _, rfl, rfl, by decide⟩
  | emptyList h => exact ⟨_, _, rfl, rfl, by decide⟩
  | list h => exact ⟨_, _, rfl, rfl, by decide⟩
  | emptyObject h => exact ⟨_, _, rfl, rfl, by decide⟩
  | object h => exact ⟨_, _, rfl, rfl, by decide⟩

/-! ## Sequences -/

/-- Whether blanks are passed over where the skipping stands. -/
def PassesBlanks (s : Skipper) : Prop := ∀ b, isSpace b = true → s.step b = .next s

/-- Blanks are skipped wherever they are passed over. -/
theorem run_blank {blank : Bytes} (h : IsBlank blank) {s : Skipper} (hs : PassesBlanks s) :
    skipScanner.run s (blank ++ rest) = skipScanner.run s rest :=
  run_of_forall_next fun b hb => hs b (h.isSpace b hb)

/-- Blanks are passed over in front of an item, be it the first of a list or a later one. -/
theorem passesBlanks_item {mode : SkipMode} (h : mode = .value ∨ mode = .listStart)
    (frames : List Frame) : PassesBlanks ⟨mode, frames⟩ := by
  intro b hb
  rcases h with rfl | rfl <;> simp [Skipper.step, Skipper.stepValue, hb]

/-- Blanks are passed over in front of a key, be it the first of an object or a later one. -/
theorem passesBlanks_member {mode : SkipMode} (h : mode = .key ∨ mode = .objectStart)
    (frames : List Frame) : PassesBlanks ⟨mode, frames⟩ := by
  intro b hb
  rcases h with rfl | rfl <;> simp [Skipper.step, hb]

/-- Blanks are passed over between a key and its colon. -/
theorem passesBlanks_colon (frames : List Frame) : PassesBlanks ⟨.colon, frames⟩ := by
  intro b hb
  simp [Skipper.step, hb]

/-- Blanks are passed over behind a nested value. -/
theorem passesBlanks_behind (frame : Frame) (frames : List Frame) :
    PassesBlanks ⟨.behind, frame :: frames⟩ := by
  intro b hb
  cases frame <;> simp [Skipper.step, Skipper.stepBehind, hb]

/-- **What skipping makes of a derived part**, wherever it may stand: a value, an item and a member
are skipped in front of what does not continue a number, and a sequence is skipped with the bracket
or brace behind it. -/
def Skips : Symbol → Bytes → Prop
  | .value, bytes => ∀ frames rest, IsEnd rest →
    skipScanner.run ⟨.value, frames⟩ (bytes ++ rest) = skipScanner.run ⟨.behind, frames⟩ rest
  | .item, bytes => ∀ mode, mode = .value ∨ mode = .listStart → ∀ frame frames rest, IsEnd rest →
    skipScanner.run ⟨mode, frame :: frames⟩ (bytes ++ rest) =
      skipScanner.run ⟨.behind, frame :: frames⟩ rest
  | .items, bytes => ∀ mode, mode = .value ∨ mode = .listStart → ∀ frames rest,
    skipScanner.run ⟨mode, .list :: frames⟩ (bytes ++ 0x5D :: rest) =
      skipScanner.run ⟨.behind, frames⟩ rest
  | .member, bytes => ∀ mode, mode = .key ∨ mode = .objectStart → ∀ frames rest, IsEnd rest →
    skipScanner.run ⟨mode, .object :: frames⟩ (bytes ++ rest) =
      skipScanner.run ⟨.behind, .object :: frames⟩ rest
  | .members, bytes => ∀ mode, mode = .key ∨ mode = .objectStart → ∀ frames rest,
    skipScanner.run ⟨mode, .object :: frames⟩ (bytes ++ 0x7D :: rest) =
      skipScanner.run ⟨.behind, frames⟩ rest

/-- Behind an opening bracket a value is skipped as it is behind a comma. -/
theorem run_listStart_of_value {bytes : Bytes} (h : Derives .value bytes) {mode : SkipMode}
    (hmode : mode = .value ∨ mode = .listStart) (frames : List Frame) (rest : Bytes) :
    skipScanner.run ⟨mode, frames⟩ (bytes ++ rest) =
      skipScanner.run ⟨.value, frames⟩ (bytes ++ rest) := by
  obtain ⟨b, tail, rfl, hspace, hbracket⟩ := exists_cons_of_value h
  have hstep : skipScanner.step ⟨mode, frames⟩ b = skipScanner.step ⟨.value, frames⟩ b := by
    rcases hmode with rfl | rfl
    · rfl
    · simp [skipScanner, Skipper.step, hspace, hbracket]
  rw [List.cons_append, Scanner.run, hstep, Scanner.run]

/-- **Whatever is derived is skipped.** -/
theorem skips_of_derives {symbol : Symbol} {bytes : Bytes} (h : Derives symbol bytes) :
    Skips symbol bytes := by
  -- On the derivation. What surrounds a part is not fixed, since a nested part has one frame more.
  induction h with
  | word h =>
    intro frames rest hrest
    simp only [words, List.mem_cons, List.not_mem_nil, or_false] at h
    rcases h with rfl | rfl | rfl <;> exact (run_next rfl).trans (run_word (by decide))
  | number h => exact fun frames rest hrest => run_number h hrest
  | string h =>
    intro frames rest hrest
    rw [List.cons_append, List.append_assoc, run_next rfl, run_stringBody h]
    exact run_leave rfl
  | emptyList h =>
    -- The bracket is found where the first item would begin.
    intro frames rest hrest
    rw [List.cons_append, List.append_assoc, run_next rfl,
      run_blank h (passesBlanks_item (.inr rfl) _)]
    exact run_leave rfl
  | list h ih =>
    intro frames rest hrest
    rw [List.cons_append, List.append_assoc, run_next rfl]
    exact ih _ (.inr rfl) frames rest
  | emptyObject h =>
    intro frames rest hrest
    rw [List.cons_append, List.append_assoc, run_next rfl,
      run_blank h (passesBlanks_member (.inr rfl) _)]
    exact run_leave rfl
  | object h ih =>
    intro frames rest hrest
    rw [List.cons_append, List.append_assoc, run_next rfl]
    exact ih _ (.inr rfl) frames rest
  | item hfront h hback ih =>
    -- Blanks, the value, and blanks again: those behind it belong to what the item is nested in.
    intro mode hmode frame frames rest hrest
    rw [List.append_assoc, List.append_assoc, run_blank hfront (passesBlanks_item hmode _),
      run_listStart_of_value h hmode, ih _ _ (isEnd_blank_append hback hrest),
      run_blank hback (passesBlanks_behind _ _)]
  | lastItem h ih =>
    intro mode hmode frames rest
    rw [ih mode hmode _ _ _ (isEnd_cons (by simp))]
    exact run_leave rfl
  | nextItem h hmore ih ihmore =>
    -- The comma ends the item, and the sequence behind it is skipped as one without a bracket.
    intro mode hmode frames rest
    rw [List.append_assoc, List.cons_append, ih mode hmode _ _ _ (isEnd_cons (by simp)),
      run_next rfl]
    exact ihmore _ (.inl rfl) frames rest
  | @member front body back bytes hfront hbody hback h ih =>
    -- The key and its colon, with blanks around them, and then an item.
    intro mode hmode frames rest hrest
    have hkey : Skipper.step ⟨mode, .object :: frames⟩ 0x22 =
        .next ⟨.string true .plain, .object :: frames⟩ := by
      rcases hmode with rfl | rfl <;> rfl
    simp only [List.append_assoc, List.cons_append]
    rw [run_blank hfront (passesBlanks_member hmode _), run_next hkey, run_stringBody hbody,
      run_next rfl, run_blank hback (passesBlanks_colon _),
      run_next rfl]
    exact ih _ (.inl rfl) _ frames rest hrest
  | lastMember h ih =>
    intro mode hmode frames rest
    rw [ih mode hmode _ _ (isEnd_cons (by simp))]
    exact run_leave rfl
  | nextMember h hmore ih ihmore =>
    intro mode hmode frames rest
    rw [List.append_assoc, List.cons_append, ih mode hmode _ _ (isEnd_cons (by simp)),
      run_next rfl]
    exact ihmore _ (.inl rfl) frames rest

/-- Behind the outermost value nothing more is skipped. -/
theorem run_behind_nil (bytes : Bytes) :
    skipScanner.run ⟨.behind, []⟩ bytes = .ok (⟨.behind, []⟩, bytes) := by
  cases bytes with
  | nil => rfl
  | cons b bytes => rfl

/-- **An item is skipped** in front of what does not continue a number, up to the blanks behind
it. -/
theorem exists_skipValue_of_derives {bytes : Bytes} (h : Derives .item bytes) :
    ∃ back, IsBlank back ∧ ∀ rest, IsEnd rest → skipValue (bytes ++ rest) = .ok (back ++ rest) := by
  cases h with
  | @item front value back hfront hvalue hback =>
    have hskips : Skips .value value := skips_of_derives hvalue
    refine ⟨back, hback, fun rest hrest => ?_⟩
    rw [skipValue, Skipper.start, List.append_assoc, List.append_assoc,
      run_blank hfront (passesBlanks_item (.inl rfl) _),
      hskips _ _ (isEnd_blank_append hback hrest), run_behind_nil]
    rfl

end Json

end SourceRecovery
