import SourceRecovery.Text.Blank

/-! # Replacing the package statement

A **package statement** is the word `package`, at least one blank, and what follows up to the
first semicolon, which must stand on the line where the blanks end. The word need not stand on
its own: the tail of a longer word begins a statement as well. -/

namespace SourceRecovery

namespace PackageStatement

/-- The word that begins a package statement. -/
def keyword : Text := "package".toList

/-- What follows a **package statement** at the front of the text, if there is one. -/
def behind? (t : Text) : Option Text :=
  match keyword.isPrefixOf? t with
  | some (c :: r) =>
    if Text.isBlank c then
      match (r.dropWhile Text.isBlank).dropWhile (fun d => d ≠ ';' ∧ d ≠ '\n') with
      | ';' :: after => some after
      | _ => none
    else none
  | _ => none

/-- The package statement of a package. -/
def render (package : Text) : Text := keyword ++ (' ' :: package ++ [';'])

/-- The text with its first package statement exchanged for that of `package`, or `none` if it
has none. -/
def replace? (package t : Text) : Option Text :=
  (Text.search (fun _ rest => behind? rest) t).map fun (before, after) =>
    before ++ (render package ++ after)

/-- The text with its first package statement exchanged, if there is one. -/
def replace (package t : Text) : Text := (replace? package t).getD t

/-- The blanks may include line ends, the rest of the statement may not. -/
example : replace? "x.y".toList "package\n  a.b ;class C".toList =
      some "package x.y;class C".toList ∧
    replace? "x.y".toList "package a\n;".toList = none := by decide

end PackageStatement

end SourceRecovery
