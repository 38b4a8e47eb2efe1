/-!
What can be wrong with a file.
-/
set_option autoImplicit false

namespace QueryGate.Files

/-- What can be wrong with a file. -/
inductive FileFault where
  | missing
  | alreadyThere
  | notADirectory
  | isADirectory
  | nameTooLong
  /-- The character that ends a name for the machine is in one. -/
  | nulCharacter
  /-- The bytes of the file are no text. -/
  | notText
  | other (description : String)
deriving DecidableEq, Repr

/-- The wording of what is wrong with a file. -/
def FileFault.message : FileFault → String
  | missing => "No such file or directory (os error 2)"
  | alreadyThere => "File exists (os error 17)"
  | notADirectory => "Not a directory (os error 20)"
  | isADirectory => "Is a directory (os error 21)"
  | nameTooLong => "File name too long (os error 36)"
  | nulCharacter => "file name contained an unexpected NUL byte"
  | notText => "stream did not contain valid UTF-8"
  | other description => description

end QueryGate.Files
