/-!
# Failures of the operating system

What may go wrong when a file is touched or a program is started, with the text under which the
system reports it.
-/

namespace FilePlacement

inductive IoError where
  | notFound
  | alreadyExists
  | notADirectory
  | isADirectory
  | brokenPipe
  | nameTooLong
  /-- A path holds U+0000. -/
  | nulInPath
  /-- An argument of a program holds U+0000. -/
  | nulInArgument
  | other (text : String)
deriving DecidableEq, Repr

/-- The system's text for a failure. -/
def IoError.message : IoError → String
  | .notFound => "No such file or directory (os error 2)"
  | .alreadyExists => "File exists (os error 17)"
  | .notADirectory => "Not a directory (os error 20)"
  | .isADirectory => "Is a directory (os error 21)"
  | .brokenPipe => "Broken pipe (os error 32)"
  | .nameTooLong => "File name too long (os error 36)"
  | .nulInPath => "file name contained an unexpected NUL byte"
  | .nulInArgument => "nul byte found in provided data"
  | .other text => text

end FilePlacement
