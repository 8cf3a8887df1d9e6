/-!
Why an operation on files failed.
-/
namespace BuildPipeline

inductive IoError
  | notFound
  | alreadyExists
  | notFolder
  | isFolder
  | tooManyLinks
  | nameTooLong
  | accessDenied
  | noSpace
  | argumentsTooLong
  /-- A path holds the character that ends texts in the operating system. -/
  | nulInPath
  /-- A text file holds bytes that are no text. -/
  | notText
  /-- The source of a copy is a folder or a device. -/
  | notRegular
  | other (text : String)
  deriving DecidableEq, Repr, Inhabited

def IoError.message : IoError → String
  | .notFound => "No such file or directory (os error 2)"
  | .alreadyExists => "File exists (os error 17)"
  | .notFolder => "Not a directory (os error 20)"
  | .isFolder => "Is a directory (os error 21)"
  | .tooManyLinks => "Too many levels of symbolic links (os error 40)"
  | .nameTooLong => "File name too long (os error 36)"
  | .accessDenied => "Permission denied (os error 13)"
  | .noSpace => "No space left on device (os error 28)"
  | .argumentsTooLong => "Argument list too long (os error 7)"
  | .nulInPath => "file name contained an unexpected NUL byte"
  | .notText => "stream did not contain valid UTF-8"
  | .notRegular => "the source path is neither a regular file nor a symlink to a regular file"
  | .other text => text

end BuildPipeline
