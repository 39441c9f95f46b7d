/-!
Why a file operation fails.
-/

namespace ServerLogin

/-- The reasons for which a file operation fails. -/
inductive FileFault
  | notFound
  | busy
  | exists
  | notDirectory
  | isDirectory
  | nameTooLong
  | nulInName
  | notText
deriving DecidableEq, Repr

def FileFault.message : FileFault → String
  | .notFound => "No such file or directory (os error 2)"
  | .busy => "Device or resource busy (os error 16)"
  | .exists => "File exists (os error 17)"
  | .notDirectory => "Not a directory (os error 20)"
  | .isDirectory => "Is a directory (os error 21)"
  | .nameTooLong => "File name too long (os error 36)"
  | .nulInName => "file name contained an unexpected NUL byte"
  | .notText => "stream did not contain valid UTF-8"

end ServerLogin
