-- What can go wrong with a file, in the words of the operating system.
namespace OperationModels.Files

/-- Why a file could not be read, written or made. -/
inductive Fault
  | notFound
  | exists
  | notFolder
  | isFolder
  | nameTooLong
  | nulInName
  | notText
deriving DecidableEq, Repr

/-- The operating system's words. -/
def Fault.message : Fault → String
  | .notFound => "No such file or directory (os error 2)"
  | .exists => "File exists (os error 17)"
  | .notFolder => "Not a directory (os error 20)"
  | .isFolder => "Is a directory (os error 21)"
  | .nameTooLong => "File name too long (os error 36)"
  | .nulInName => "file name contained an unexpected NUL byte"
  | .notText => "stream did not contain valid UTF-8"

end OperationModels.Files
