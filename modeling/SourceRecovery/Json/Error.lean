import SourceRecovery.Decimal.FloatText
import SourceRecovery.Text.Quoted

/-! # Errors of reading JSON

A JSON document is read from the front, and the first thing that is wrong decides the error. An
error is of one of three **categories**: the document ends too early, it is not JSON, or it is
JSON but not what is to be read from it.

An error does not say where in the document it arose. The program prints that behind the
description of an error, as ` at line L column C`; here, in what is printed too, the description
stands alone. -/

namespace SourceRecovery

namespace Json

/-- A number of a document. -/
inductive Number where
  /-- A whole number of at most 64 bits. -/
  | integer (n : Int)
  /-- Any other number. -/
  | float (x : Float)
deriving Repr, DecidableEq

/-- A value that is not of the type to be read. -/
inductive Found where
  | null
  | boolean (b : Bool)
  | number (n : Number)
  | string (t : Text)
  | list
  | object
deriving Repr, DecidableEq

/-- The description of a value of a wrong type. -/
def Found.describe : Found → Text
  | null => "null".toList
  | boolean true => "boolean `true`".toList
  | boolean false => "boolean `false`".toList
  | number (.integer n) => "integer `".toList ++ (toString n).toList ++ ['`']
  | number (.float x) => "floating point `".toList ++ Decimal.ofFloat x ++ ['`']
  | string t => "string ".toList ++ Text.quoted t
  | list => "sequence".toList
  | object => "map".toList

/-- The **category** of an error. -/
inductive Category where
  /-- The document is not JSON. -/
  | grammar
  /-- The document does not say what is to be read from it. -/
  | data
  /-- The document ends too early. -/
  | ending
deriving Repr, DecidableEq

/-- The word for a category. -/
def Category.word : Category → Text
  | grammar => "syntax".toList
  | data => "data".toList
  | ending => "eof".toList

/-- Why a document could not be read. -/
inductive Error where
  | endInValue
  | endInString
  | endInObject
  | endInList
  | valueExpected
  | wordExpected
  | keyExpected
  | colonExpected
  | listEndExpected
  | objectEndExpected
  | trailingComma
  | trailingCharacters
  | invalidNumber
  | numberOutOfRange
  | invalidEscape
  | unfinishedSurrogate
  | loneSurrogate
  | invalidCodePoint
  | controlCharacter
  /-- A value of another type than expected. -/
  | wrongType (found : Found) (expected : Text)
  /-- A word that is none of the two expected. -/
  | unknownWord (word first second : Text)
  /-- A key that has occurred before. -/
  | repeatedKey (key : Text)
deriving Repr, DecidableEq

/-- The category of an error. -/
def Error.category : Error → Category
  | endInValue | endInString | endInObject | endInList => .ending
  | wrongType _ _ | unknownWord _ _ _ | repeatedKey _ => .data
  | _ => .grammar

/-- The description of an error, without the line and column at which it arose. -/
def Error.message : Error → Text
  | endInValue => "EOF while parsing a value".toList
  | endInString => "EOF while parsing a string".toList
  | endInObject => "EOF while parsing an object".toList
  | endInList => "EOF while parsing a list".toList
  | valueExpected => "expected value".toList
  | wordExpected => "expected ident".toList
  | keyExpected => "key must be a string".toList
  | colonExpected => "expected `:`".toList
  | listEndExpected => "expected `,` or `]`".toList
  | objectEndExpected => "expected `,` or `\x7d`".toList
  | trailingComma => "trailing comma".toList
  | trailingCharacters => "trailing characters".toList
  | invalidNumber => "invalid number".toList
  | numberOutOfRange => "number out of range".toList
  | invalidEscape => "invalid escape".toList
  | unfinishedSurrogate => "unexpected end of hex escape".toList
  | loneSurrogate => "lone leading surrogate in hex escape".toList
  | invalidCodePoint => "invalid unicode code point".toList
  | controlCharacter =>
    "control character (\\u0000-\\u001F) found while parsing a string".toList
  | wrongType found expected =>
    "invalid type: ".toList ++ found.describe ++ ", expected ".toList ++ expected
  | unknownWord word first second =>
    "unknown variant `".toList ++ word ++ "`, expected `".toList ++ first ++ "` or `".toList ++
      second ++ ['`']
  | repeatedKey key => "duplicate field `".toList ++ key ++ ['`']

end Json

end SourceRecovery
