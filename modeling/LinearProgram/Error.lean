import LinearProgram.Duration
import LinearProgram.Format

/-!
Failures, as causes with one wording each.

* `FileFault`: failures of the file system and of starting a program.
* `Error`: every failure of the library, and `Error.message`, its text.
-/

namespace LinearProgram

/-! ### Files -/

/-- Why a file operation or the start of a program fails. -/
inductive FileFault where
  /-- There is no such file or directory. -/
  | notFound
  /-- The file may not be used that way. -/
  | permissionDenied
  /-- A directory stands where a file is wanted. -/
  | isADirectory
  /-- A file stands where a directory is wanted. -/
  | notADirectory
  /-- A name is longer than the file system allows. -/
  | invalidFilename
  /-- A name holds the character that ends names. -/
  | nulInName
  /-- A text is not UTF-8. -/
  | invalidData
  /-- Only regular files can be copied. -/
  | notRegular
  /-- A program file has no known format. -/
  | execFormat
  /-- Every name that was tried is taken. -/
  | alreadyExists
  /-- A command or an argument holds the character that ends arguments. -/
  | nulInArgument
  /-- There is something already where a new thing should be. -/
  | taken
  /-- A directory that should go has something in it. -/
  | notEmpty
  /-- A path leads through too many links. -/
  | tooManyLinks
  /-- There is no room for what is to be written. -/
  | noSpace
  /-- What is to be written would make a file longer than is allowed. -/
  | fileTooLarge
  /-- A stream that is to be used is closed. -/
  | badDescriptor
  /-- A stream is open, but not for what is to be done. -/
  | wrongWay
  /-- The arguments and settings of a program do not fit into the room for them. -/
  | argumentsTooLong
  deriving DecidableEq

/-- The wording of a file fault. -/
def FileFault.message : FileFault → String
  | notFound => "No such file or directory (os error 2)"
  | permissionDenied => "Permission denied (os error 13)"
  | isADirectory => "Is a directory (os error 21)"
  | notADirectory => "Not a directory (os error 20)"
  | invalidFilename => "File name too long (os error 36)"
  | nulInName => "file name contained an unexpected NUL byte"
  | invalidData => "stream did not contain valid UTF-8"
  | notRegular => "the source path is neither a regular file nor a symlink to a regular file"
  | execFormat => "Exec format error (os error 8)"
  | alreadyExists => "too many temporary files exist"
  | nulInArgument => "nul byte found in provided data"
  | taken => "File exists (os error 17)"
  | notEmpty => "Directory not empty (os error 39)"
  | tooManyLinks => "Too many levels of symbolic links (os error 40)"
  | noSpace => "No space left on device (os error 28)"
  | fileTooLarge => "File too large (os error 27)"
  | badDescriptor | wrongWay => "Bad file descriptor (os error 9)"
  | argumentsTooLong => "Argument list too long (os error 7)"

/-- Whether a fault shows only when something is read from what has been opened. -/
def FileFault.showsOnReading : FileFault → Bool
  | isADirectory | wrongWay => true
  | _ => false

/-! ### Failures of the library -/

/-- A failure reported to the caller. -/
inductive Error where
  /-- The backend is unknown or not part of this build. -/
  | unsupportedSolver (name : String)
  /-- A problem file could not be read or handed to the backend. -/
  | problemLoad (path : String) (cause : Error)
  /-- A solver program could not be started, or ended without success. -/
  | solverExecution (solver command reason : String)
  /-- A solver program ran beyond its time limit. -/
  | solverTimeout (solver command : String) (limit : Duration)
  /-- A format that the backend cannot read or write. -/
  | unsupportedFormat (solver format : String)
  /-- A problem was asked for in another format than that of its file. -/
  | formatMismatch (requested loaded : ProblemFormat)
  /-- A report does not follow its grammar. Line number `0` means the text as a whole. -/
  | parse (solver : String) (lineNumber : Nat) (line reason : String)
  /-- An embedded solver gave a code of unknown meaning. -/
  | unknownReturnCode (solver : String) (code : Int)
  /-- A name is taken. -/
  | duplicateName (kind name : String)
  /-- A look-up found nothing. -/
  | notFound (kind name : String)
  /-- Bounds that cannot be written. -/
  | invalidBounds (name reason : String)
  /-- The backend does not provide the operation. -/
  | notImplemented (solver operation : String)
  /-- The operation needs a loaded problem. -/
  | noProblemLoaded (solver : String)
  /-- A failure of the file system. -/
  | file (fault : FileFault)
  deriving DecidableEq

/-- The text of a failure. -/
def Error.message : Error → String
  | unsupportedSolver name => s!"solver '{name}' is not supported by this build"
  | problemLoad path cause => s!"failed to load problem from '{path}': {cause.message}"
  | solverExecution solver command reason =>
    s!"{solver}: failed to run solver with cmd '{command}': {reason}"
  | solverTimeout solver command limit =>
    s!"{solver}: cmd '{command}' did not finish within {limit.text}"
  | unsupportedFormat solver format => s!"{solver}: format '{format}' is not supported"
  | formatMismatch requested loaded =>
    s!"saving problem in format '{requested.name}' requested, but can only be saved as '{loaded.name}'"
  | parse solver lineNumber line reason =>
    s!"{solver}: failed to parse line {lineNumber} '{line}': {reason}"
  | unknownReturnCode solver code => s!"{solver}: unknown return code {code}"
  | duplicateName kind name => s!"{kind} '{name}' has already been added"
  | notFound kind name => s!"no {kind} '{name}'"
  | invalidBounds name reason => s!"invalid bounds for '{name}': {reason}"
  | notImplemented solver operation => s!"{solver}: '{operation}' is not implemented"
  | noProblemLoaded solver => s!"{solver}: no problem has been loaded"
  | file fault => fault.message

instance : ToString Error := ⟨Error.message⟩

end LinearProgram
