import Mathlib.Data.List.Infix
import SourceRecovery.Pattern.Basic

/-! # The pattern of a literal

A pattern that is nothing but characters in a row is found exactly where they stand in a row.

* **`mem_reach_literal_iff`** — from a marked place, the place behind the literal is reached.
* **`found_literal_iff`** — the pattern of a literal is found in the texts in which it occurs. -/

namespace SourceRecovery

namespace Pattern

variable {set : CharSet} {s t : Text} {marks : Marks} {i j : Nat} {c : Char}

/-- The pattern of a **literal**: its characters one after another. -/
def literal : Text → Pattern
  | [] => .empty
  | c :: s => .sequence (.character (.singleton c)) (literal s)

/-- A place is reached over a character from the place in front of it. -/
theorem mem_over_iff :
    (marks.over set t)[i]? = some true ↔
      ∃ j c, i = j + 1 ∧ marks[j]? = some true ∧ t[j]? = some c ∧ set.contains c = true := by
  rw [Marks.over]
  cases i with
  | zero => simp
  | succ j =>
    simp only [List.getElem?_cons_succ, List.getElem?_zipWith, Nat.add_right_cancel_iff,
      exists_and_left, exists_eq_left']
    cases marks[j]? <;> cases t[j]? <;> simp

/-- A literal stands at a position exactly if its first character does and the others stand behind
it. -/
theorem cons_prefix_drop_iff : c :: s <+: t.drop j ↔ t[j]? = some c ∧ s <+: t.drop (j + 1) := by
  rw [List.cons_prefix_iff, ← List.head?_drop, ← List.tail_drop]
  cases t.drop j <;> simp

/-- **A literal leads from a marked place to the place behind it.** -/
theorem mem_reach_literal_iff :
    (reach t (literal s) marks)[i]? = some true ↔
      ∃ j, marks[j]? = some true ∧ i = j + s.length ∧ s <+: t.drop j := by
  -- The rest of the literal is searched from the places behind its first character.
  induction s generalizing marks with
  | nil => simp [literal, reach]
  | cons c s ih =>
    have hset : ∀ d, (CharSet.singleton c).contains d = true ↔ d = c :=
      fun d => CharSet.contains_singleton_iff
    rw [literal, reach, reach, ih]
    simp only [mem_over_iff, hset, cons_prefix_drop_iff, List.length_cons]
    constructor
    · rintro ⟨_, ⟨j, _, rfl, hj, hc, rfl⟩, rfl, hs⟩
      exact ⟨j, hj, by omega, hc, hs⟩
    · rintro ⟨j, hj, rfl, hc, hs⟩
      exact ⟨j + 1, ⟨j, c, rfl, hj, hc, rfl⟩, by omega, hs⟩

/-- **A literal is found in the texts in which it occurs.** -/
theorem found_literal_iff : (literal s).found t = true ↔ s <:+: t := by
  have hmarks : ∀ j, (List.replicate (t.length + 1) true)[j]? = some true ↔ j ≤ t.length := by
    intro j
    rw [List.getElem?_replicate]
    split_ifs <;> simp <;> omega
  rw [found, List.contains_iff_mem, List.mem_iff_getElem?]
  simp only [mem_reach_literal_iff, hmarks]
  constructor
  · rintro ⟨_, j, -, rfl, hs⟩
    exact hs.isInfix.trans (List.drop_suffix j t).isInfix
  · rintro ⟨before, after, rfl⟩
    refine ⟨_, before.length, by simp, rfl, ?_⟩
    rw [List.append_assoc, List.drop_left]
    exact List.prefix_append _ _

end Pattern

end SourceRecovery
