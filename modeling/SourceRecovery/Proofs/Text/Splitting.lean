import Mathlib.Data.List.Basic
import SourceRecovery.Text.WordCharacter

/-! # Splitting a text in two ways

When a text is split in two ways, a stretch whose characters all have a property lies on one side
of a character that does not have it (**`exists_of_append_cons`** from the front,
**`exists_of_append_append`** from the back). Blanks and word characters are such properties: no
character is both (**`isWordCharacter_eq_false`**). A word ends where no word character follows
(**`boundaryBetween_of_any`**). -/

namespace SourceRecovery

namespace Text

variable {α : Type} {p : α → Prop} {x y u v : List α} {c : α}

/-- A stretch at the front ends in front of the first character without its property. -/
theorem exists_of_append_cons (hx : ∀ a ∈ x, p a) (hc : ¬ p c) (h : x ++ u = y ++ c :: v) :
    ∃ w, y = x ++ w ∧ u = w ++ c :: v := by
  rcases List.append_eq_append_iff.1 h with ⟨w, hy, hu⟩ | ⟨w, hx', hw⟩
  · exact ⟨w, hy, hu⟩
  · cases w with
    | nil => exact ⟨[], by simpa using hx'.symm, hw.symm⟩
    | cons d w =>
      obtain ⟨rfl, -⟩ := List.cons.inj hw
      exact absurd (hx c (by simp [hx'])) hc

/-- What stands behind a stretch at the front stands in what follows it. -/
theorem exists_of_append_of_length_le (h : x ++ u = y ++ v) (hle : x.length ≤ y.length) :
    ∃ w, y = x ++ w ∧ u = w ++ v := by
  rcases List.append_eq_append_iff.1 h with hw | ⟨w, rfl, hw⟩
  · exact hw
  · rw [List.length_append] at hle
    obtain rfl : w = [] := List.length_eq_zero_iff.1 (by omega)
    exact ⟨[], by simp, by simpa using hw.symm⟩

/-- A stretch at the back begins behind the last character without its property. -/
theorem exists_of_append_append (hx : ∀ a ∈ x, p a) (hc : ¬ p c)
    (h : u ++ x = v ++ c :: y) : ∃ w, y = w ++ x ∧ u = v ++ c :: w := by
  rcases List.append_eq_append_iff.1 h with ⟨w, hv, hx'⟩ | ⟨w, hu, hw⟩
  · exact absurd (hx c (by simp [hx'])) hc
  · cases w with
    | nil => exact absurd (hx c (by rw [← List.nil_append x, ← hw]; simp)) hc
    | cons d w =>
      obtain ⟨rfl, hy⟩ := List.cons.inj hw
      exact ⟨w, hy, hu⟩

/-- Two stretches at the back, each behind a character without the property, are the same. -/
theorem append_singleton_append_inj {d : α} (hx : ∀ a ∈ x, p a) (hy : ∀ a ∈ y, p a) (hc : ¬ p c)
    (hd : ¬ p d) (h : u ++ c :: x = v ++ d :: y) : u = v ∧ c = d ∧ x = y := by
  have hu : (u ++ [c]) ++ x = v ++ d :: y := by rw [List.append_assoc]; exact h
  have hv : (v ++ [d]) ++ y = u ++ c :: x := by rw [List.append_assoc]; exact h.symm
  obtain ⟨w, hw, -⟩ := exists_of_append_append hx hd hu
  obtain ⟨w', hw', -⟩ := exists_of_append_append hy hc hv
  have hlen := congrArg List.length hw
  have hlen' := congrArg List.length hw'
  rw [List.length_append] at hlen hlen'
  obtain rfl : w = [] := List.length_eq_zero_iff.1 (by omega)
  obtain rfl : y = x := hw
  obtain ⟨huv, hcons⟩ := List.append_inj' h rfl
  exact ⟨huv, (List.cons.inj hcons).1, rfl⟩

/-! ## Blanks and word characters -/

/-- A character lies in no two ranges that are apart. -/
theorem inRanges_eq_false {xs ys : List (Nat × Nat)} {c : Char}
    (hapart : (xs.all fun a => ys.all fun b => decide (a.2 < b.1 ∨ b.2 < a.1)) = true)
    (hc : inRanges xs c = true) : inRanges ys c = false := by
  unfold inRanges at hc ⊢
  rw [List.any_eq_true] at hc
  obtain ⟨a, ha, hac⟩ := hc
  rw [List.any_eq_false]
  intro b hb hbc
  rw [List.all_eq_true] at hapart
  have hab := List.all_eq_true.1 (hapart a ha) b hb
  simp only [Bool.and_eq_true, decide_eq_true_eq] at hac hbc hab
  omega

/-- **No blank is a word character.** -/
theorem isWordCharacter_eq_false {c : Char} (hc : isBlank c = true) : isWordCharacter c = false :=
  inRanges_eq_false (by decide +kernel) hc

/-- No word character is blank. -/
theorem isBlank_eq_false {c : Char} (hc : isWordCharacter c = true) : isBlank c = false := by
  rw [Bool.eq_false_iff]
  intro hblank
  rw [isWordCharacter_eq_false hblank] at hc
  cases hc

/-- A **word** is not empty and made of word characters. -/
def IsWord (t : Text) : Prop := t ≠ [] ∧ ∀ c ∈ t, isWordCharacter c = true

instance (t : Text) : Decidable t.IsWord :=
  decidable_of_iff (t ≠ [] ∧ t.all isWordCharacter = true) (and_congr_right' List.all_eq_true)

/-- No character of a word is blank. -/
theorem IsWord.isBlank_eq_false {t : Text} (h : t.IsWord) : ∀ c ∈ t, isBlank c = false :=
  fun c hc => Text.isBlank_eq_false (h.2 c hc)

/-- A word begins with a word character. -/
theorem IsWord.any_head? {t : Text} (h : t.IsWord) : t.head?.any isWordCharacter = true := by
  obtain ⟨d, ds, rfl⟩ := List.exists_cons_of_ne_nil h.1
  exact h.2 d (by simp)

/-- A word ends with a word character. -/
theorem IsWord.any_getLast? {t : Text} (h : t.IsWord) :
    t.getLast?.any isWordCharacter = true := by
  rw [List.getLast?_eq_some_getLast h.1]
  exact h.2 _ (List.getLast_mem h.1)

/-- A **solid** text has no blanks in it, and a word character at its end. -/
structure IsSolid (t : Text) : Prop where
  /-- No character is blank. -/
  blank : ∀ c ∈ t, isBlank c = false
  /-- The last character is a word character. -/
  last : t.getLast?.any isWordCharacter = true

/-- Solidity as a condition that can be decided. -/
theorem isSolid_iff {t : Text} :
    t.IsSolid ↔
      (t.all fun c => !isBlank c) = true ∧ t.getLast?.any isWordCharacter = true := by
  rw [List.all_eq_true]
  simp only [Bool.not_eq_true']
  exact ⟨fun h => ⟨h.blank, h.last⟩, fun h => ⟨h.1, h.2⟩⟩

instance (t : Text) : Decidable t.IsSolid := decidable_of_iff _ isSolid_iff.symm

/-- A solid text is not empty. -/
theorem IsSolid.ne_nil {t : Text} (h : t.IsSolid) : t ≠ [] := by
  rintro rfl
  cases h.last

/-- A word is solid. -/
theorem IsWord.isSolid {t : Text} (h : t.IsWord) : t.IsSolid := ⟨h.isBlank_eq_false, h.any_getLast?⟩

/-- A word boundary has two sides, and either may come first. -/
theorem boundaryBetween_comm (left right : Option Char) :
    boundaryBetween left right = boundaryBetween right left := by
  unfold boundaryBetween
  cases left.any isWordCharacter <;> cases right.any isWordCharacter <;> rfl

/-- Behind a word character there is a word boundary exactly if none follows. -/
theorem boundaryBetween_of_any {left right : Option Char}
    (h : left.any isWordCharacter = true) :
    boundaryBetween left right = true ↔ right.any isWordCharacter = false := by
  rw [boundaryBetween, h]
  cases right.any isWordCharacter <;> decide

end Text

end SourceRecovery
