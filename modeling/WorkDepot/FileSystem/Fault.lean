import WorkDepot.Text.Basic

/-!
# What can go wrong with files and processes

Each cause has one wording, the operating system's with its number or the checker's that stands
before the operating system.
-/
namespace WorkDepot

inductive IoFault where
  | notFound
  | accessDenied
  | alreadyExists
  | notDirectory
  | isDirectory
  | nameTooLong
  | tooManyLinks
  | notExecutable
  | argumentTooLong
  | nulInPath
  | nulInArgument
  | invalidUtf8
  | other (message : Text)
  deriving DecidableEq

def IoFault.message : IoFault → Text
  | .notFound => "No such file or directory (os error 2)".toList
  | .accessDenied => "Permission denied (os error 13)".toList
  | .alreadyExists => "File exists (os error 17)".toList
  | .notDirectory => "Not a directory (os error 20)".toList
  | .isDirectory => "Is a directory (os error 21)".toList
  | .nameTooLong => "File name too long (os error 36)".toList
  | .tooManyLinks => "Too many levels of symbolic links (os error 40)".toList
  | .notExecutable => "Exec format error (os error 8)".toList
  | .argumentTooLong => "Argument list too long (os error 7)".toList
  | .nulInPath => "file name contained an unexpected NUL byte".toList
  | .nulInArgument => "nul byte found in provided data".toList
  | .invalidUtf8 => "stream did not contain valid UTF-8".toList
  | .other message => message

end WorkDepot
