/-!
# Errors of the file system

An error is given by its cause, and told by the text and the number that the system has for it.
-/

namespace Quarantine

inductive SystemError where
  | notFound
  | denied
  | alreadyExists
  | notDirectory
  | isDirectory
  | nameTooLong
  | notEmpty
  /-- The bytes of a file are no UTF-8 text. -/
  | notText
  | other (code : Nat) (text : String)
  deriving DecidableEq

namespace SystemError

/-- A text with the number of an error. -/
def numbered (text : String) (code : Nat) : String :=
  text ++ " (os error " ++ toString code ++ ")"

def message : SystemError → String
  | notFound => numbered "No such file or directory" 2
  | denied => numbered "Permission denied" 13
  | alreadyExists => numbered "File exists" 17
  | notDirectory => numbered "Not a directory" 20
  | isDirectory => numbered "Is a directory" 21
  | nameTooLong => numbered "File name too long" 36
  | notEmpty => numbered "Directory not empty" 39
  | notText => "stream did not contain valid UTF-8"
  | other code text => numbered text code

end SystemError
end Quarantine
