import SourceRecovery.Pattern.CharSet

/-! # Patterns

A **pattern** says which texts it matches. It is found in a text by marks on the **places** of the
text, the gaps between its characters and the two ends: from the places where a match can start,
`Pattern.reach` finds all those where it can stop. A repetition is followed until it marks no place
that has not been marked, so no search goes on without end.

* **`Pattern.found`** — whether a part of a text matches a pattern. -/

namespace SourceRecovery

namespace Pattern

/-- How a pattern is understood, by the flags that apply to it. -/
structure Settings where
  /-- Whether letters match in either case. -/
  ignoreCase : Bool
  /-- Whether the line assertions hold at every line. -/
  multiLine : Bool
  /-- Whether the dot matches a line feed. -/
  dotMatchesAll : Bool
  /-- Whether classes go beyond ASCII. -/
  unicode : Bool
  /-- Whether a carriage return ends a line. -/
  returns : Bool
deriving Repr, DecidableEq

namespace Settings

/-- The settings at the start of a pattern. -/
def start : Settings := ⟨false, false, false, true, false⟩

/-- The settings after some flags. -/
def follow (s : Settings) (flags : List FlagItem) : Settings where
  ignoreCase := (flagState? .ignoreCase flags).getD s.ignoreCase
  multiLine := (flagState? .multiLine flags).getD s.multiLine
  dotMatchesAll := (flagState? .dotMatchesAll flags).getD s.dotMatchesAll
  unicode := (flagState? .unicode flags).getD s.unicode
  returns := (flagState? .returns flags).getD s.returns

/-- No flags leave the settings as they are. -/
@[simp] theorem follow_nil (s : Settings) : s.follow [] = s := rfl

/-- Whether a character belongs to words. -/
def isWord (s : Settings) (c : Char) : Bool :=
  if s.unicode then Text.isWordCharacter c else AsciiClass.word.set.contains c

end Settings

/-! ## Places -/

/-- A **place** of a text, by its neighbours, where `none` is an end of the text. -/
structure Place where
  /-- The character in front of the place. -/
  before : Option Char
  /-- The character behind the place. -/
  after : Option Char
deriving Repr, DecidableEq

/-- The places of a text, the first of which lies behind `before`. -/
def placesFrom (before : Option Char) : Text → List Place
  | [] => [⟨before, none⟩]
  | c :: t => ⟨before, some c⟩ :: placesFrom (some c) t

/-- A text has one place more than it has characters. -/
@[simp] theorem length_placesFrom (before : Option Char) (t : Text) :
    (placesFrom before t).length = t.length + 1 := by
  induction t generalizing before with
  | nil => rfl
  | cons c t ih => rw [placesFrom, List.length_cons, ih, List.length_cons]

/-- Whether a line starts at a place. A line feed behind a carriage return does not start one of
its own. -/
def Settings.startsLine (s : Settings) (p : Place) : Bool :=
  p.before = some '\n' || (s.returns && p.before = some '\r' && p.after ≠ some '\n')

/-- Whether a line ends at a place. -/
def Settings.endsLine (s : Settings) (p : Place) : Bool :=
  if s.returns then p.after = some '\r' || (p.after = some '\n' && p.before ≠ some '\r')
  else p.after = some '\n'

/-- Whether an assertion holds at a place. -/
def Assertion.holds (s : Settings) (p : Place) : Assertion → Bool
  | lineStart => p.before.isNone || (s.multiLine && s.startsLine p)
  | lineEnd => p.after.isNone || (s.multiLine && s.endsLine p)
  | textStart => p.before.isNone
  | textEnd => p.after.isNone
  | wordBoundary => p.before.any s.isWord != p.after.any s.isWord
  | noWordBoundary => p.before.any s.isWord == p.after.any s.isWord
  | wordStart => !p.before.any s.isWord && p.after.any s.isWord
  | wordEnd => p.before.any s.isWord && !p.after.any s.isWord
  | wordStartHalf => !p.before.any s.isWord
  | wordEndHalf => !p.after.any s.isWord

/-- A place is a word boundary if a word starts or ends there. -/
theorem holds_wordBoundary (s : Settings) (p : Place) :
    Assertion.wordBoundary.holds s p =
      (Assertion.wordStart.holds s p || Assertion.wordEnd.holds s p) := by
  simp only [Assertion.holds]
  cases p.before.any s.isWord <;> cases p.after.any s.isWord <;> rfl

end Pattern

/-! ## Patterns -/

/-- A **pattern**. -/
inductive Pattern where
  /-- Nothing has to match. -/
  | empty
  /-- A character of a set. -/
  | character (set : Pattern.CharSet)
  /-- A place at which an assertion holds. -/
  | place (a : Pattern.Assertion) (s : Pattern.Settings)
  /-- One pattern behind another. -/
  | sequence (first second : Pattern)
  /-- One of two patterns. -/
  | either (left right : Pattern)
  /-- From `low` to `high?` rounds of a pattern, without an upper bound if there is none. -/
  | repeated (round : Pattern) (low : Nat) (high? : Option Nat)
deriving Repr, DecidableEq

namespace Pattern

/-! ## Marks -/

/-- **Marks** on the places of a text, one for each of them. -/
abbrev Marks := List Bool

/-- The places that are marked by one of two. -/
def Marks.union (left right : Marks) : Marks := List.zipWith (· || ·) left right

/-- The places behind a character of a set that has a marked place in front of it. -/
def Marks.over (set : CharSet) (t : Text) (marks : Marks) : Marks :=
  false :: List.zipWith (fun marked c => marked && set.contains c) marks t

/-- The marked places at which an assertion holds. -/
def Marks.at (a : Assertion) (s : Settings) (t : Text) (marks : Marks) : Marks :=
  List.zipWith (fun marked p => marked && a.holds s p) marks (placesFrom none t)

/-- The places that are reached by exactly `n` rounds. -/
def Marks.rounds (round : Marks → Marks) : Nat → Marks → Marks
  | 0, marks => marks
  | n + 1, marks => if round marks = marks then marks else rounds round n (round marks)

/-- The places that are reached by at most `n` rounds. -/
def Marks.spread (round : Marks → Marks) : Nat → Marks → Marks
  | 0, marks => marks
  | n + 1, marks =>
    if marks.union (round marks) = marks then marks else spread round n (marks.union (round marks))

/-- Rounds that change nothing are not counted. -/
theorem Marks.rounds_of_fixed {round : Marks → Marks} {marks : Marks} (h : round marks = marks)
    (n : Nat) : Marks.rounds round n marks = marks := by
  cases n with
  | zero => rfl
  | succ n => rw [Marks.rounds, if_pos h]

/-- The places of a text at which a match can stop that starts at a marked place. Of the rounds of
a repetition no more than one for each place make a difference. -/
def reach (t : Text) : Pattern → Marks → Marks
  | empty, marks => marks
  | character set, marks => marks.over set t
  | place a s, marks => Marks.at a s t marks
  | sequence first second, marks => reach t second (reach t first marks)
  | either left right, marks => (reach t left marks).union (reach t right marks)
  | repeated round low high?, marks =>
    let most := t.length + 1
    let further := (high?.map (· - low)).getD most
    Marks.spread (reach t round) (Nat.min further most)
      (Marks.rounds (reach t round) (Nat.min low most) marks)

/-- Whether a part of a text matches a pattern. -/
def found (p : Pattern) (t : Text) : Bool :=
  (reach t p (List.replicate (t.length + 1) true)).contains true

/-! ## Size -/

/-- The size beyond which a pattern is too large. The compiled pattern may take 10485760 bytes, of
which 32 are allowed for each unit of `size`: that is a rule of thumb, since a range of characters
takes more or fewer states by how its characters are encoded. -/
def sizeLimit : Nat := 10485760 / 32

/-- The **size** of a pattern: a set counts by its ranges, and a repetition by its rounds. -/
def size : Pattern → Nat
  | empty | place _ _ => 0
  | character set => set.rangeCount
  | sequence first second | either first second => first.size + second.size
  | repeated round low high? => round.size * high?.getD (Nat.max 1 low)

/-- A bounded repetition is found with as many rounds as it asks for. -/
example : (sequence (place .textStart .start)
      (sequence (repeated (character (.singleton 'a')) 2 (some 3)) (place .textEnd .start))).found
      "aaa".toList = true ∧
    (sequence (place .textStart .start)
      (sequence (repeated (character (.singleton 'a')) 2 (some 3)) (place .textEnd .start))).found
      "aaaa".toList = false := by decide +kernel

end Pattern

end SourceRecovery
