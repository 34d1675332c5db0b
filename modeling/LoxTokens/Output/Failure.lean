/-! Why reading or writing fails, and the wording of each cause. -/

namespace LoxTokens

/-- The cause of a failed read or write. -/
inductive Failure
  /-- A sink takes no more bytes. -/
  | closed
  /-- A sink cannot hand on what it took. -/
  | flushFailed
  /-- The input broke off. -/
  | inputFailed
  /-- A line is not UTF-8. -/
  | notText
  /-- Nothing has this path. -/
  | notFound
  /-- The path names a directory. -/
  | isDirectory
  /-- The path goes on below something that is no directory. -/
  | notDirectory
  /-- The path, or one name in it, is longer than names may be. -/
  | nameTooLong
  /-- The path holds a character that no path may hold. -/
  | nulInPath
  /-- Any other cause, which comes with its own words. -/
  | other (words : String)
  deriving DecidableEq, Repr

/-- The wording of a cause. -/
def Failure.message : Failure → String
  | .closed => "closed"
  | .flushFailed => "flush failed"
  | .inputFailed => "input failed"
  | .notText => "stream did not contain valid UTF-8"
  | .notFound => "No such file or directory (os error 2)"
  | .isDirectory => "Is a directory (os error 21)"
  | .notDirectory => "Not a directory (os error 20)"
  | .nameTooLong => "File name too long (os error 36)"
  | .nulInPath => "file name contained an unexpected NUL byte"
  | .other words => words

end LoxTokens
