import SourceRecovery.Text.Basic

/-! # The syntax of patterns

A **pattern** is a regular expression. This file holds its syntax tree, as it is read from a text
and before it is known what its classes and assertions mean: flags, names of classes and the
**spans** of the text that errors point at. -/

namespace SourceRecovery

namespace Pattern

/-- A **span** of the text of a pattern, by the number of characters in front of its ends. -/
structure Span where
  /-- Where the span starts. -/
  start : Nat
  /-- Where it stops. -/
  stop : Nat
deriving Repr, DecidableEq

/-- A **flag** of a pattern. -/
inductive Flag where
  /-- Letters match in either case. -/
  | ignoreCase
  /-- The line assertions hold at every line. -/
  | multiLine
  /-- The dot matches a line feed. -/
  | dotMatchesAll
  /-- Repetitions prefer few rounds. -/
  | lazy
  /-- Classes go beyond ASCII. -/
  | unicode
  /-- A carriage return ends a line. -/
  | returns
  /-- Blanks and comments in the pattern mean nothing. -/
  | verbose
deriving Repr, DecidableEq

/-- The letter of a flag. -/
def Flag.letter : Flag → Char
  | ignoreCase => 'i'
  | multiLine => 'm'
  | dotMatchesAll => 's'
  | lazy => 'U'
  | unicode => 'u'
  | returns => 'R'
  | verbose => 'x'

/-- The flag of a letter. -/
def Flag.ofLetter? (c : Char) : Option Flag :=
  [ignoreCase, multiLine, dotMatchesAll, lazy, unicode, returns, verbose].find? (·.letter == c)

/-- What stands in a list of flags. -/
inductive FlagItem where
  /-- The minus sign, which turns off the flags behind it. -/
  | minus
  /-- A flag. -/
  | flag (f : Flag)
deriving Repr, DecidableEq

/-- What a list of flags says about one of them. -/
def flagState? (f : Flag) : List FlagItem → Option Bool
  | [] => none
  | .minus :: items => if .flag f ∈ items then some false else none
  | .flag g :: items => if g = f then some true else flagState? f items

/-- An **assertion** about a place of the text searched. -/
inductive Assertion where
  | lineStart
  | lineEnd
  | textStart
  | textEnd
  | wordBoundary
  | noWordBoundary
  | wordStart
  | wordEnd
  | wordStartHalf
  | wordEndHalf
deriving Repr, DecidableEq

/-- A class that is written with a letter. -/
inductive LetterClass where
  | digit
  | space
  | word
deriving Repr, DecidableEq

/-- A class of ASCII characters that is written with its name. -/
inductive AsciiClass where
  | alnum
  | alpha
  | ascii
  | blank
  | cntrl
  | digit
  | graph
  | lower
  | print
  | punct
  | space
  | upper
  | word
  | xdigit
deriving Repr, DecidableEq

/-- A character in a pattern. -/
structure Literal where
  /-- The character. -/
  char : Char
  /-- Whether it is written as a byte, by two digits. -/
  isByte : Bool
  /-- Where it is written. -/
  span : Span
deriving Repr, DecidableEq

/-- How a class of characters with a Unicode property is named. -/
inductive PropertyName where
  /-- By the property, or by one of its values. -/
  | plain (name : Text)
  /-- By the property and the value. -/
  | valued (name value : Text)
deriving Repr, DecidableEq

/-- The class of the characters with a Unicode property, or of those without it. -/
structure PropertyClass where
  /-- Whether the class is that of the characters without the property. -/
  negated : Bool
  /-- The property. -/
  name : PropertyName
  /-- Where the class is written. -/
  span : Span
deriving Repr, DecidableEq

/-- An operation on two sets of characters. -/
inductive SetOperation where
  | intersection
  | difference
  | symmetricDifference
deriving Repr, DecidableEq

/-- What stands between the brackets of a class. -/
inductive ClassSet where
  /-- Nothing. -/
  | empty (span : Span)
  /-- A character. -/
  | literal (l : Literal)
  /-- The characters from one to another. -/
  | range (low high : Literal)
  /-- A named class of ASCII characters. -/
  | ascii (kind : AsciiClass) (negated : Bool) (span : Span)
  /-- The characters with a Unicode property. -/
  | property (p : PropertyClass)
  /-- A class written with a letter. -/
  | letter (kind : LetterClass) (negated : Bool) (span : Span)
  /-- A class in brackets of its own. -/
  | bracketed (negated : Bool) (set : ClassSet) (span : Span)
  /-- All that stands side by side. -/
  | union (items : List ClassSet) (span : Span)
  /-- An operation on what stands on either side of its sign. -/
  | operation (op : SetOperation) (left right : ClassSet) (span : Span)
deriving Repr

/-- Where a set is written. -/
def ClassSet.span : ClassSet → Span
  | empty s | ascii _ _ s | letter _ _ s | bracketed _ _ s | union _ s | operation _ _ _ s => s
  | literal l => l.span
  | range low high => ⟨low.span.start, high.span.stop⟩
  | property p => p.span

/-- The **syntax tree** of a pattern. -/
inductive Tree where
  /-- Nothing. -/
  | empty (span : Span)
  /-- Flags for what follows. -/
  | flags (items : List FlagItem) (span : Span)
  /-- A character. -/
  | literal (l : Literal)
  /-- The dot. -/
  | dot (span : Span)
  /-- An assertion. -/
  | assertion (a : Assertion) (span : Span)
  /-- A class written with a letter. -/
  | letter (kind : LetterClass) (negated : Bool) (span : Span)
  /-- The characters with a Unicode property. -/
  | property (p : PropertyClass)
  /-- A class in brackets. -/
  | bracketed (negated : Bool) (set : ClassSet) (span : Span)
  /-- From `low` to `high?` rounds of a tree, without an upper bound if there is none. -/
  | repetition (tree : Tree) (low : Nat) (high? : Option Nat) (span : Span)
  /-- A group with flags of its own. -/
  | group (flags : List FlagItem) (tree : Tree) (span : Span)
  /-- One of several trees. -/
  | alternation (trees : List Tree) (span : Span)
  /-- Several trees one after another. -/
  | sequence (trees : List Tree) (span : Span)
deriving Repr

/-- Where a tree is written. -/
def Tree.span : Tree → Span
  | empty s | flags _ s | dot s | assertion _ s | letter _ _ s | bracketed _ _ s => s
  | repetition _ _ _ s | group _ _ s | alternation _ s | sequence _ s => s
  | literal l => l.span
  | property p => p.span

/-! ## Depth -/

mutual

/-- The first set that is nested in more than `room` others. -/
def ClassSet.tooDeep? (room : Nat) : ClassSet → Option Span
  | .bracketed _ set span => if room = 0 then some span else set.tooDeep? (room - 1)
  | .union items span => if room = 0 then some span else ClassSet.anyTooDeep? (room - 1) items
  | .operation _ left right span =>
    if room = 0 then some span
    else (left.tooDeep? (room - 1)).or (right.tooDeep? (room - 1))
  | _ => none

/-- The first set of a list, or in it, that is nested in more than `room` others. -/
def ClassSet.anyTooDeep? (room : Nat) : List ClassSet → Option Span
  | [] => none
  | set :: sets => (set.tooDeep? room).or (ClassSet.anyTooDeep? room sets)

end

mutual

/-- The first tree that is nested in more than `room` others. -/
def Tree.tooDeep? (room : Nat) : Tree → Option Span
  | .bracketed _ set span => if room = 0 then some span else set.tooDeep? (room - 1)
  | .repetition tree _ _ span => if room = 0 then some span else tree.tooDeep? (room - 1)
  | .group _ tree span => if room = 0 then some span else tree.tooDeep? (room - 1)
  | .alternation trees span => if room = 0 then some span else Tree.anyTooDeep? (room - 1) trees
  | .sequence trees span => if room = 0 then some span else Tree.anyTooDeep? (room - 1) trees
  | _ => none

/-- The first tree of a list, or in it, that is nested in more than `room` others. -/
def Tree.anyTooDeep? (room : Nat) : List Tree → Option Span
  | [] => none
  | tree :: trees => (tree.tooDeep? room).or (Tree.anyTooDeep? room trees)

end

end Pattern

end SourceRecovery
