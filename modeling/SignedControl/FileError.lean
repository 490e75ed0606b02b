/-!
# File errors

What can go wrong when a file is read or written, in the operating system's words.
-/

namespace SignedControl

/-- Why a file could not be used. -/
inductive FileError where
  /-- There is no such file. -/
  | notFound
  /-- The file is read as text and is not UTF-8. -/
  | notText
  /-- It is a directory. -/
  | isDirectory
  /-- Something that is no directory is used as one. -/
  | notDirectory
  /-- Its name, or the path to it, is longer than any may be. -/
  | nameTooLong
  /-- Any other refusal of the operating system, in its words. -/
  | other (message : String)
deriving DecidableEq, Repr

/-- The wording of a file error. -/
def FileError.message : FileError → String
  | .notFound => "No such file or directory (os error 2)"
  | .notText => "stream did not contain valid UTF-8"
  | .isDirectory => "Is a directory (os error 21)"
  | .notDirectory => "Not a directory (os error 20)"
  | .nameTooLong => "File name too long (os error 36)"
  | .other message => message

end SignedControl
