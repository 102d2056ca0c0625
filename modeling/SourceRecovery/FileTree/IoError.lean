import SourceRecovery.Text.Basic

/-! # Input and output errors

The causes for which an operation on a file tree fails, with the text that describes each. -/

namespace SourceRecovery

/-- Why an operation on a file tree failed. -/
inductive IoError where
  /-- Nothing is at the path. -/
  | missing
  /-- The directory or device is in use. -/
  | busy
  /-- Something is at the path already. -/
  | alreadyExists
  /-- The path leads to another device. -/
  | otherDevice
  /-- Something that is no directory is used as one. -/
  | notDirectory
  /-- A directory is used as a file. -/
  | directory
  /-- A directory would be moved below itself. -/
  | belowItself
  /-- A name or a path is too long. -/
  | nameTooLong
  /-- The directory is not empty. -/
  | notEmpty
  /-- The path holds a NUL character. -/
  | nulInPath
  /-- The bytes read are not valid UTF-8. -/
  | notUtf8
deriving Repr, DecidableEq

/-- The description of an error. -/
def IoError.message : IoError → Text
  | missing => "No such file or directory (os error 2)".toList
  | busy => "Device or resource busy (os error 16)".toList
  | alreadyExists => "File exists (os error 17)".toList
  | otherDevice => "Invalid cross-device link (os error 18)".toList
  | notDirectory => "Not a directory (os error 20)".toList
  | directory => "Is a directory (os error 21)".toList
  | belowItself => "Invalid argument (os error 22)".toList
  | nameTooLong => "File name too long (os error 36)".toList
  | notEmpty => "Directory not empty (os error 39)".toList
  | nulInPath => "file name contained an unexpected NUL byte".toList
  | notUtf8 => "stream did not contain valid UTF-8".toList

end SourceRecovery
