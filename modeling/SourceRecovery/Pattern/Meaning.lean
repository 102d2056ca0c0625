import SourceRecovery.Pattern.Basic
import SourceRecovery.Pattern.Property
import SourceRecovery.Pattern.TreeReader

/-! # The meaning of a pattern

From its syntax tree a pattern gets its meaning: flags become settings, which hold up to the end of
their group, and classes become sets of characters. Without the flag for Unicode, a pattern that
could match a part of a character is refused.

* **`Pattern.ofText`** — the pattern that a text stands for, or a report of what is wrong. -/

namespace SourceRecovery

namespace Pattern

/-! ## Characters and sets -/

namespace Settings

/-- The set closed under case, if case does not matter. -/
def fold (s : Settings) (set : CharSet) : CharSet :=
  if !s.ignoreCase then set else if s.unicode then .anyCase set else .anyAsciiCase set

/-- The complement of a set, if the class is a negated one. Without Unicode it would contain parts
of characters. -/
def complementIf (s : Settings) (negated : Bool) (span : Span) (set : CharSet) :
    Except Mistake CharSet :=
  if !negated then .ok set
  else if s.unicode then .ok (.complement set)
  else fail .invalidUtf8 span

end Settings

/-- The character that a literal stands for. Without Unicode, two digits stand for a byte. -/
def Literal.character (s : Settings) (l : Literal) : Except Mistake Char :=
  if !s.unicode ∧ l.isByte ∧ 0x7F < l.char.toNat then fail .invalidUtf8 l.span else .ok l.char

/-- The character that a literal stands for in a class. Without Unicode it is one of ASCII. -/
def Literal.classCharacter (s : Settings) (l : Literal) : Except Mistake Char := do
  let c ← l.character s
  if !s.unicode ∧ 0x7F < c.toNat then fail .unicodeNotAllowed l.span else return c

/-- The set of a class written with a letter. -/
def LetterClass.toCharSet (s : Settings) (kind : LetterClass) (negated : Bool) (span : Span) :
    Except Mistake CharSet :=
  s.complementIf negated span (if s.unicode then kind.set else kind.asciiSet)

/-- The set of the characters with a Unicode property. -/
def PropertyClass.toCharSet (s : Settings) (p : PropertyClass) : Except Mistake CharSet :=
  if !s.unicode then fail .unicodeNotAllowed p.span
  else
    match p.name.set with
    | .error fault => fail fault p.span
    | .ok set => s.complementIf p.negated p.span (s.fold set)

mutual

/-- The set of what stands between the brackets of a class. -/
def ClassSet.toCharSet (s : Settings) : ClassSet → Except Mistake CharSet
  | .empty _ => .ok .empty
  | .literal l => (l.classCharacter s).map .singleton
  | .range low high => do
    let low ← low.classCharacter s
    let high ← high.classCharacter s
    return .ranges [(low.toNat, high.toNat)]
  | .ascii kind negated span => s.complementIf negated span (s.fold kind.set)
  | .property p => p.toCharSet s
  | .letter kind negated span => kind.toCharSet s negated span
  | .bracketed negated set span => do
    let set ← set.toCharSet s
    s.complementIf negated span (s.fold set)
  | .union items _ => ClassSet.unionOf s items
  | .operation op left right _ => do
    let left ← left.toCharSet s
    let right ← right.toCharSet s
    return .operation op (s.fold left) (s.fold right)

/-- The union of the sets of all that stands side by side. -/
def ClassSet.unionOf (s : Settings) : List ClassSet → Except Mistake CharSet
  | [] => .ok .empty
  | item :: items => do
    let set ← item.toCharSet s
    let others ← ClassSet.unionOf s items
    return .union set others

end

/-! ## Trees -/

/-- The set of the characters that the dot stands for. -/
def dotSet (s : Settings) (span : Span) : Except Mistake CharSet :=
  if !s.unicode then fail .invalidUtf8 span
  else
    let lineEnds : Text := if s.returns then ['\r', '\n'] else ['\n']
    let excluded : Text := if s.dotMatchesAll then [] else lineEnds
    .ok (.complement (.ranges (excluded.map fun c => (c.toNat, c.toNat))))

mutual

/-- The pattern of a tree, and the settings behind it. -/
def Tree.toPattern (s : Settings) : Tree → Except Mistake (Pattern × Settings)
  | .empty _ => .ok (.empty, s)
  | .flags items _ => .ok (.empty, s.follow items)
  | .literal l => do
    let c ← l.character s
    return (.character (s.fold (.singleton c)), s)
  | .dot span => do
    let set ← dotSet s span
    return (.character set, s)
  | .assertion a _ => .ok (.place a s, s)
  | .letter kind negated span => do
    let set ← kind.toCharSet s negated span
    return (.character set, s)
  | .property p => do
    let set ← p.toCharSet s
    return (.character set, s)
  | .bracketed negated set span => do
    let set ← set.toCharSet s
    let set ← s.complementIf negated span (s.fold set)
    return (.character set, s)
  | .repetition tree low high? _ => do
    let (p, s) ← tree.toPattern s
    return (.repeated p low high?, s)
  | .group items tree _ => do
    let (p, _) ← tree.toPattern (s.follow items)
    return (p, s)
  | .alternation trees _ => Tree.alternationOf s trees
  | .sequence trees _ => Tree.sequenceOf s trees

/-- The pattern of one of several trees. Flags apply to the trees behind as well. -/
def Tree.alternationOf (s : Settings) : List Tree → Except Mistake (Pattern × Settings)
  | [] => .ok (.character .empty, s)
  | tree :: trees => do
    let (p, s) ← tree.toPattern s
    let (q, s) ← Tree.alternationOf s trees
    return (.either p q, s)

/-- The pattern of several trees one after another. -/
def Tree.sequenceOf (s : Settings) : List Tree → Except Mistake (Pattern × Settings)
  | [] => .ok (.empty, s)
  | tree :: trees => do
    let (p, s) ← tree.toPattern s
    let (q, s) ← Tree.sequenceOf s trees
    return (.sequence p q, s)

end

/-- The pattern that a text stands for, whatever its size. -/
def read (t : Text) : Except Mistake Pattern := do
  let tree ← readTree t
  let (p, _) ← tree.toPattern .start
  return p

/-- The **pattern** that a text stands for, or a report of what is wrong with it. -/
def ofText (t : Text) : Except Text Pattern :=
  match read t with
  | .error m => .error (m.report t)
  | .ok p =>
    if sizeLimit < p.size then
      .error "Compiled regex exceeds size limit of 10485760 bytes.".toList
    else .ok p

/-- The empty text stands for a pattern that every text matches. -/
example : (ofText []).toOption.map (·.found "any".toList) = some true := by decide +kernel

/-- The dot stands for any character but a line feed. -/
example : ((ofText "Read . class".toList).toOption.map fun p =>
      (p.found "Read 3 class lines".toList, p.found "Read \n class lines".toList)) =
    some (true, false) := by decide +kernel

end Pattern

end SourceRecovery
