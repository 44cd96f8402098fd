/-!
# Faults of a file system

Why a file could not be read or written, or a directory not be made.
-/

namespace MiniTemplate

inductive FileFault where
  | notFound
  | alreadyExists
  | notADirectory
  | isADirectory
  | nameTooLong
  /-- A name contains the character that ends names. -/
  | nulInName
  | notUtf8
  | other (text : String)
deriving DecidableEq

/-- The system's wording of a fault. -/
def FileFault.message : FileFault → String
  | notFound => "No such file or directory (os error 2)"
  | alreadyExists => "File exists (os error 17)"
  | notADirectory => "Not a directory (os error 20)"
  | isADirectory => "Is a directory (os error 21)"
  | nameTooLong => "File name too long (os error 36)"
  | nulInName => "file name contained an unexpected NUL byte"
  | notUtf8 => "stream did not contain valid UTF-8"
  | other text => text

end MiniTemplate
