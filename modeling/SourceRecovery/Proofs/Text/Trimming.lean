import Mathlib.Data.List.Basic
import Mathlib.Data.List.TakeWhile
import SourceRecovery.Text.Blank
import SourceRecovery.Text.Lines

/-! # Trimming

Trimming takes the blanks at both ends of a text (**`isTrimmed_trim`**) and nothing else: of blanks
it leaves nothing (**`trim_eq_nil_iff`**), and a stretch between two characters that are not blank
stays as it is (**`trim_append_append`**). A carriage return at the end of a line is a blank, so
whether it is taken for a part of the line ending makes no difference to the trimmed line
(**`trim_dropReturn`**). -/

namespace SourceRecovery

namespace Text

variable {t front back : Text}

@[simp] theorem trimBack_nil : trimBack [] = [] := rfl

/-- Blanks in front of a text are trimmed. -/
theorem trimFront_append (hfront : ∀ c ∈ front, isBlank c = true) (t : Text) :
    trimFront (front ++ t) = trimFront t := List.dropWhile_append_of_pos hfront

/-- Blanks behind a text are trimmed. -/
theorem trimBack_append (hback : ∀ c ∈ back, isBlank c = true) (t : Text) :
    trimBack (t ++ back) = trimBack t := by
  rw [trimBack, List.reverse_append, List.dropWhile_append_of_pos, trimBack]
  exact fun c hc => hback c (List.mem_reverse.1 hc)

/-- Nothing is trimmed in front of a character that is not blank. -/
theorem trimFront_of_head? (h : ∀ c ∈ t.head?, isBlank c = false) : trimFront t = t := by
  cases t with
  | nil => rfl
  | cons c t =>
    have hc : isBlank c = false := h c rfl
    rw [trimFront, List.dropWhile_cons, if_neg (by simp [hc])]

/-- What stands in front of a character that is not blank is not trimmed at the back. -/
theorem trimBack_append_of_getLast? (h : ∀ c ∈ t.getLast?, isBlank c = false) (back : Text) :
    trimBack (t ++ back) = t ++ trimBack back := by
  have hstop : t.reverse.dropWhile isBlank = t.reverse := by
    apply trimFront_of_head?
    rwa [List.head?_reverse]
  rw [trimBack, trimBack, List.reverse_append, List.dropWhile_append, hstop]
  split_ifs with hback
  · rw [List.isEmpty_iff.1 hback]
    simp
  · simp

/-- Only blanks are **trimmed to nothing**. -/
theorem trim_eq_nil_iff : trim t = [] ↔ ∀ c ∈ t, isBlank c = true := by
  have hfront : trimFront t = [] ↔ ∀ c ∈ t, isBlank c = true := List.dropWhile_eq_nil_iff
  rw [trim, ← hfront]
  constructor
  · intro h
    by_contra hne
    -- What is left begins with a character that is not blank, and that one is not trimmed.
    have hhead := List.head_dropWhile_not isBlank (l := t) hne
    obtain ⟨c, rest, hrest⟩ := List.exists_cons_of_ne_nil hne
    have hc : isBlank c = false := by
      have heq : t.dropWhile isBlank = c :: rest := hrest
      simpa [heq] using hhead
    rw [hrest, ← List.singleton_append, trimBack_append_of_getLast? (by simpa using hc)] at h
    cases h
  · intro h
    rw [h]
    rfl

/-- A text is **trimmed** if no blank is at one of its ends. -/
structure IsTrimmed (t : Text) : Prop where
  head : ∀ c ∈ t.head?, isBlank c = false
  last : ∀ c ∈ t.getLast?, isBlank c = false

instance (t : Text) : Decidable t.IsTrimmed :=
  @decidable_of_iff _ ((∀ c ∈ t.head?, isBlank c = false) ∧ ∀ c ∈ t.getLast?, isBlank c = false)
    ⟨fun h => ⟨h.1, h.2⟩, fun h => ⟨h.head, h.last⟩⟩
    -- Only the characters at the ends are looked at, not all that there are.
    (@instDecidableAnd _ _ (Option.decidableForallMem _) (Option.decidableForallMem _))

/-- A character that is not blank is trimmed. -/
theorem isTrimmed_singleton {c : Char} (hc : isBlank c = false) : IsTrimmed [c] :=
  ⟨by simpa using hc, by simpa using hc⟩

/-- **Trimming leaves a trimmed text.** -/
theorem isTrimmed_trim (t : Text) : (trim t).IsTrimmed := by
  have hlast : ∀ c ∈ (trim t).getLast?, isBlank c = false := by
    intro c hc
    rw [trim, trimBack, List.getLast?_reverse] at hc
    have hhead := List.head?_dropWhile_not isBlank (trimFront t).reverse
    rw [hc] at hhead
    simpa using hhead
  refine ⟨fun c hc => ?_, hlast⟩
  cases hfront : trimFront t with
  | nil => simp [trim, hfront] at hc
  | cons d rest =>
    have hd : isBlank d = false := by
      have hhead := List.head?_dropWhile_not isBlank t
      have heq : t.dropWhile isBlank = d :: rest := hfront
      simpa [heq] using hhead
    -- The first character is not blank, so it stays when the end is trimmed.
    rw [trim, hfront, ← List.singleton_append,
      trimBack_append_of_getLast? (by simpa using hd)] at hc
    obtain rfl : d = c := by simpa using hc
    exact hd

/-- Two trimmed texts are trimmed with anything between them. -/
theorem IsTrimmed.append_append {s t : Text} (hs : s.IsTrimmed) (hs0 : s ≠ []) (ht : t.IsTrimmed)
    (ht0 : t ≠ []) (between : Text) : (s ++ (between ++ t)).IsTrimmed := by
  refine ⟨fun c hc => ?_, fun c hc => ?_⟩
  · rw [List.head?_append_of_ne_nil _ hs0] at hc
    exact hs.head c hc
  · rw [List.getLast?_append_of_ne_nil _ (by simp [ht0]),
      List.getLast?_append_of_ne_nil _ ht0] at hc
    exact ht.last c hc

/-- **Trimming** takes the blanks in front of a trimmed stretch, and those at the end of what
follows it. -/
theorem trim_append_append (hfront : ∀ c ∈ front, isBlank c = true) (ht : t.IsTrimmed)
    (hne : t ≠ []) (back : Text) : trim (front ++ (t ++ back)) = t ++ trimBack back := by
  have hhead : ∀ c ∈ (t ++ back).head?, isBlank c = false := by
    intro c hc
    obtain ⟨d, rest, rfl⟩ := List.exists_cons_of_ne_nil hne
    exact ht.head c hc
  rw [trim, trimFront_append hfront, trimFront_of_head? hhead,
    trimBack_append_of_getLast? ht.last]

/-- A blank behind a text is trimmed. -/
theorem trim_concat {c : Char} (hc : isBlank c = true) (t : Text) :
    trim (t ++ [c]) = trim t := by
  have hblank : ∀ d ∈ [c], isBlank d = true := by simpa using hc
  rw [trim, trim, trimFront, trimFront, List.dropWhile_append]
  split_ifs with hempty
  · rw [List.isEmpty_iff.1 hempty, List.dropWhile_eq_nil_iff.2 hblank]
  · exact trimBack_append hblank _

/-- **A carriage return at the end** of a line is trimmed, whether or not it is dropped before. -/
theorem trim_dropReturn (line : Text) : trim (dropReturn line) = trim line := by
  rw [dropReturn]
  split_ifs with hlast
  · obtain ⟨body, rfl⟩ := List.getLast?_eq_some_iff.1 hlast
    rw [List.dropLast_concat, trim_concat isBlank_return]
  · rfl

end Text

end SourceRecovery
