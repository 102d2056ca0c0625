import SourceRecovery.Json.Error
import SourceRecovery.Text.Utf8

/-! # Scanners

A **scanner** reads the front part of a byte list, one byte at a time. For each byte it says
whether to fail, to go on, or to end behind or in front of it. What is left over is a tail of the
bytes, so a reader built from scanners always comes to an end. -/

namespace SourceRecovery

namespace Json

/-- What a scanner makes of a byte. -/
inductive Step (σ : Type) where
  /-- The byte is wrong. -/
  | fail (e : Error)
  /-- More bytes may follow. -/
  | next (s : σ)
  /-- The byte is the last one. -/
  | last (s : σ)
  /-- The byte in front was the last one. -/
  | before (s : σ)

/-- A **scanner** with states of type `σ`. -/
structure Scanner (σ : Type) where
  /-- What happens at a byte. -/
  step : σ → UInt8 → Step σ
  /-- What happens when the bytes end. -/
  finish : σ → Except Error σ

namespace Scanner

variable {σ : Type}

/-- Runs a scanner: its last state and the bytes left over. -/
def run (m : Scanner σ) : σ → Bytes → Except Error (σ × Bytes)
  | s, [] => (m.finish s).map (·, [])
  | s, b :: rest =>
    match m.step s b with
    | .fail e => .error e
    | .next s => m.run s rest
    | .last s => .ok (s, rest)
    | .before s => .ok (s, b :: rest)

/-- A scanner leaves no more than it was given. -/
theorem length_le_of_run {m : Scanner σ} {s s' : σ} {bytes rest : Bytes}
    (h : m.run s bytes = .ok (s', rest)) : rest.length ≤ bytes.length := by
  induction bytes generalizing s with
  | nil =>
    simp only [run] at h
    cases hf : m.finish s <;> simp [hf, Except.map] at h
    simp [← h.2]
  | cons b bytes ih =>
    simp only [run] at h
    split at h
    · cases h
    · exact Nat.le_succ_of_le (ih h)
    · cases h
      simp
    · cases h
      simp

end Scanner

/-! ## Blanks between tokens -/

/-- Whether a byte may stand between two tokens. -/
def isSpace (b : UInt8) : Bool := b = 0x20 || b = 0x09 || b = 0x0A || b = 0x0D

/-- The bytes from the next token on. -/
def skipSpaces (bytes : Bytes) : Bytes := bytes.dropWhile isSpace

/-- Skipping spaces adds nothing. -/
theorem length_skipSpaces_le (bytes : Bytes) : (skipSpaces bytes).length ≤ bytes.length :=
  (List.dropWhile_sublist _).length_le

end Json

end SourceRecovery
