import LinearProgram.Script.Installed

/-!
Programs: what is started for a command that is not part of the shell.

A program is started from its file. The first line of a file that is not a program itself tells its interpreter, which
gets the path of the file and the arguments.

* `Call`: a utility that is called with arguments.
* `interpreterOf?`: the interpreter in the first line of a file.
* `callOf`: the call that a path and arguments come to.
* `commandCall`: the call that a command comes to along a search path.
* `Shell.findCall`, `Shell.findCallFor`: the same for a process.
-/

namespace LinearProgram

namespace Script

/-- A utility that is called under a name with arguments. -/
structure Call where
  utility : String
  name : ByteText
  arguments : List ByteText
  deriving DecidableEq

/-- The directories in which commands are looked for as long as nothing else is said. -/
def usualPath : String := "/usr/local/sbin:/usr/local/bin:/usr/sbin:/usr/bin:/sbin:/bin"

/-- How many bytes of a file are looked at for its interpreter. -/
def headLength : Nat := 256

/-- The beginning of a file, as if zero bytes stood behind it. -/
def headOf (file : List UInt8) : ByteText :=
  .ofBytes ((file.take headLength ++ List.replicate headLength 0).take headLength)

/-- The line that a head begins with. One that does not end in the head is cut short, which may cut an argument but
not the interpreter. -/
def lineOf? (head : ByteText) : Option ByteText :=
  let line := head.takeWhile fun c => c ≠ '\n' && c ≠ '\x00'
  if (head.drop line.length).head? = some '\n' then some line
  else if (head.dropWhile isGap).any fun c => isGap c || c = '\x00' then some head.dropLast
  else none

/-- The interpreter in the first line of a file, and its argument, in which there may be gaps. A zero byte ends
both. -/
def interpreterOf? (file : List UInt8) : Option (ByteText × Option ByteText) :=
  match headOf file with
  | '#' :: '!' :: head =>
    match (lineOf? head).map fun line => (line.reverse.dropWhile isGap).reverse.dropWhile isGap with
    | none | some [] => none
    | some told =>
      let ends : Char → Bool := fun c => c = '\x00'
      let interpreter := told.takeWhile fun c => !isGap c && !ends c
      match told.drop interpreter.length with
      | [] => some (interpreter, none)
      | c :: behind =>
        let argument := (behind.dropWhile isGap).takeWhile fun c => !ends c
        some (interpreter, if ends c then none else some argument)
  | _ => none

/-- The longest argument or setting that a program can be given, in bytes. -/
def longestArgument : Nat := 131071

/-- The room for all arguments and settings of a program, in bytes. -/
def argumentRoom : Nat := 2097152

/-- Whether some words do not fit into the room for arguments and settings, in which a word also takes a byte for its
end and eight for its place. -/
def isOverfull (words : List ByteText) : Bool :=
  (words.any fun w => decide (longestArgument < w.length)) ||
    decide (argumentRoom < words.foldl (fun room w => room + w.length + 9) 0)

/-- How many files may lead to one another, each being the interpreter of the one before. -/
def mostFiles : Nat := 6

/-- The call that a path and arguments come to, which are called by a name; `seen` tells paths as seen from the
root. An interpreter without a path is the working directory, which cannot be run. -/
def callFrom (fs : Files) (seen : ByteText → String) :
    Nat → ByteText → ByteText → List ByteText → Except FileFault Call
  | files, name, path, arguments =>
    match fs.file (seen path) with
    | .error .isADirectory | .error .notRegular => .error .permissionDenied
    | .error fault => .error fault
    | .ok file =>
      match file.executable, files with
      | false, _ => .error .permissionDenied
      | true, 0 => .error .tooManyLinks
      | true, files + 1 =>
        match programOf? file.bytes, interpreterOf? file.bytes with
        | some utility, _ => .ok ⟨utility, name, arguments⟩
        | none, none => .error .execFormat
        | none, some ([], _) => .error .permissionDenied
        | none, some (interpreter, argument) =>
          callFrom fs seen files interpreter interpreter
            (argument.toList ++ path :: arguments)

/-- The call that a path and arguments come to, beside settings. -/
def callOf (fs : Files) (seen : ByteText → String) (settings : List ByteText) (name path : ByteText)
    (arguments : List ByteText) : Except FileFault Call :=
  match callFrom fs seen mostFiles name path arguments with
  | .error .execFormat => if isOverfull words then .error .argumentsTooLong else .error .execFormat
  | .error fault => .error fault
  | .ok call => if isOverfull words then .error .argumentsTooLong else .ok call
where
  /-- All that the program is given. -/
  words : List ByteText := name :: arguments ++ settings

/-- The paths at which a command without slashes is looked for. -/
def pathsFor (path : ByteText) (command : ByteText) : List ByteText :=
  (pieces (fun c => c = ':') path).map fun directory =>
    if directory.isEmpty then command else directory ++ '/' :: command

/-- What the first of some paths that can be started comes to. A path at which there is nothing is passed over, and so
is one that may not be run, which is then what is wrong if there is no other. -/
def firstCall (callAt : ByteText → Except FileFault Call) : FileFault → List ByteText → Except FileFault Call
  | fault, [] => .error fault
  | fault, path :: paths =>
    match callAt path with
    | .error .notFound => firstCall callAt fault paths
    | .error .notADirectory => firstCall callAt fault paths
    | .error .permissionDenied => firstCall callAt .permissionDenied paths
    | result => result

/-- What a command comes to: what is at its path if it has slashes, or the first thing that can be started where it is
looked for. -/
def commandCall (searchPath : ByteText) (command : ByteText) (callAt : ByteText → Except FileFault Call) :
    Except FileFault Call :=
  if command.contains '/' then callAt command
  else if command.isEmpty then .error .notFound
  else if Files.longestName < command.length then .error .invalidFilename
  else firstCall callAt .notFound (pathsFor searchPath command)

/-- What the first of some paths that can be started comes to, or what is wrong with the last of them at which there
is something. -/
def anyCall (callAt : ByteText → Except FileFault Call) : FileFault → List ByteText → Except FileFault Call
  | fault, [] => .error fault
  | fault, path :: paths =>
    match callAt path with
    | .error .notFound => anyCall callAt fault paths
    | .error .notADirectory => anyCall callAt fault paths
    | .error other => anyCall callAt other paths
    | result => result

/-- Whether there is a file at a path that can be run. -/
def isProgram (fs : Files) (path : String) : Bool := ((fs.file path).toOption.map File.executable).getD false

namespace Shell

/-- The path along which commands are looked for if there is no parameter for it. -/
def fallbackPath : ByteText := "/bin:/usr/bin".toList

/-- The path along which commands are looked for, or the usual one. -/
def searchPath (usual : Bool) : Shell ByteText := do
  if usual then pure (.ofString usualPath) else return (← valueOf "PATH".toList).getD fallbackPath

/-- The path of a command: itself if it has slashes, or else where it has been found before, or the first of those
where it is looked for. -/
def commandPath? (usual : Bool) (command : ByteText) : Shell (Option ByteText) := do
  let p ← get
  match command.contains '/', if usual then none else p.known.lookup command with
  | true, _ => pure (some command)
  | false, some found => pure (some found.path)
  | false, none =>
    return (pathsFor (← searchPath usual) command).find? fun t => isProgram p.world.files (seenFrom p t)

/-- How many bytes of a file are looked at to see whether it can be a script. -/
def sampleLength : Nat := 128

/-- Whether a byte is not found in the first line of a script. -/
def isForeign (b : UInt8) : Bool := b ≤ 8 || 16 ≤ b && b ≤ 31 && b ≠ 27 || b = 127

/-- Whether the first line of a file at a path does not look like a script's. -/
def isBinary (p : Process) (path : ByteText) : Bool :=
  match p.world.files.read (seenFrom p path) with
  | .ok bytes => ((bytes.take sampleLength).takeWhile fun b => b ≠ 10).any isForeign
  | .error _ => false

/-- The call that a path and arguments come to. A file that is no program and does not tell its interpreter is a
script of the shell, if it can be one. -/
def callAt (p : Process) (isScript : Bool) (name path : ByteText) (arguments : List ByteText) :
    Except FileFault Call :=
  match callOf p.world.files (seenFrom p) p.settings name path arguments, isScript with
  | .error .execFormat, true => .ok ⟨"sh", "/bin/sh".toList, path :: arguments⟩
  | result, _ => result

/-- The call that a command with arguments comes to for a utility that runs it. -/
def findCallFor (command : ByteText) (arguments : List ByteText) : Shell (Except FileFault Call) := do
  let p ← get
  return commandCall (← searchPath false) command fun path => callAt p true command path arguments

/-- The call that a command with arguments comes to for the shell. -/
def findCall (usual : Bool) (command : ByteText) (arguments : List ByteText) :
    Shell (Except FileFault Call) := do
  let p ← get
  match ← commandPath? usual command with
  | none => pure (.error .notFound)
  | some path =>
    let call (path : ByteText) : Except FileFault Call := callAt p (!isBinary p path) command path arguments
    if command.contains '/' then pure (call path)
    else
      return anyCall call .notFound ((pathsFor (← searchPath usual) command).dropWhile fun t => t ≠ path)

end Shell

end Script

end LinearProgram
