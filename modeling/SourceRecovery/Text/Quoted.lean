import SourceRecovery.Text.Printable

/-! # Quoting a text in a message

A text that a message **quotes** stands between quotation marks, with a backslash in front of the
marks and backslashes in it. Four control characters have short names, and every other character
that would not be seen on its own is written by its code. -/

namespace SourceRecovery

namespace Text

/-- A character inside quotation marks. -/
def quotedCharacter (c : Char) : Text :=
  match c with
  | '\x00' => ['\\', '0']
  | '\t' => ['\\', 't']
  | '\r' => ['\\', 'r']
  | '\n' => ['\\', 'n']
  | '"' => ['\\', '"']
  | '\\' => ['\\', '\\']
  | c => if isPlain c then [c] else "\\u\x7b".toList ++ Nat.toDigits 16 c.toNat ++ "\x7d".toList

/-- The text between quotation marks. -/
def quoted (t : Text) : Text := '"' :: t.flatMap quotedCharacter ++ ['"']

/-- The empty text is two quotation marks. -/
@[simp] theorem quoted_nil : quoted [] = ['"', '"'] := rfl

end Text

end SourceRecovery
