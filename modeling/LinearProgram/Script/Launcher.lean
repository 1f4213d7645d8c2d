import LinearProgram.Script.Run

/-!
Starting programs.

A program is named by its path, or by a name that is looked for in the usual directories. It reads nothing, both its
output streams go to one file, and it is looked at from time to time: if it is still there when its limit is over,
it is killed.

* `callOfCommand`: what a command starts.
* `deadlineOf`: when a program with a limit is killed.
* `newProcess`: the process that a program runs in.
* `launcher`: a program from its start to its ending.
-/

namespace LinearProgram

namespace Script

/-- What a command with arguments starts. -/
def callOfCommand (fs : Files) (command : ByteText) (arguments : List ByteText) : Except FileFault Call :=
  commandCall usualPath.toList command fun path => callOf fs ByteText.string [] command path arguments

/-! ### Limits -/

/-- The nanoseconds from one check of a running program to the next. -/
def checkInterval : Nat := 10000000

/-- The time of the first check at or after a limit. -/
def deadlineOf (limit : Duration) : Nat :=
  (limit.nanos + (checkInterval - 1)) / checkInterval * checkInterval

/-! ### Running -/

/-- The number of the process of a program. -/
def firstNumber : Nat := 4242

/-- The parameters that every program is given. -/
def firstParameters (temporary : String) : List (ByteText × Variable) :=
  [("PATH", usualPath), ("HOME", "/root"), ("PWD", "/"), ("TMPDIR", temporary)].map fun (name, value) =>
    (name.toList, ⟨some (.ofString value), true, false⟩)

/-- The permissions that new files do not get: others do not write. -/
def firstMask : Nat := 18

/-- The directory that a path is in. -/
def parentOf (path : String) : String := (directoryOf (.ofString path)).string

/-- The process of a program: both its output streams go to the file at a path. -/
def newProcess (l : Launch) (fs : Files) : Process :=
  let output : Channel := match fs.number l.output with
    | .ok number => .file number 0 .write
    | .error _ => .device .null .write
  { world :=
      { files := fs, channels := #[.device .null .read, output], elapsed := 0, deadline := l.limit.map deadlineOf
        nextNumber := firstNumber + 1, nextLabel := 0, texts := [], horizon := none, turns := [], common := 0
        pause := (0, #[]), letters := [], posted := [], doom := none, jobs := [] }
    name := .ofString l.command, number := firstNumber, scriptNumber := firstNumber, parentNumber := firstNumber - 1
    arguments := [], parameters := firstParameters (parentOf l.output), functions := [], options := []
    streams := [(0, 0), (1, 1), (2, 1)], directory := [], path := "/", lastCode := 0, substitutionCode := none
    line := 0, lineRead := 0
    command := none, tested := false, depth := 0, loops := 0, bottom := none, saved := [], traps := [], ignored := []
    pending := [], within := [], others := [firstNumber - 1], background := none
    optionPlace := .first, mask := firstMask
    aliases := [], leaving := none, known := [], final := false, stopped := false, unsaid := none
    limits := .initial }

/-- How deeply the commands of a program may be nested while they run. -/
def deepestCommand : Nat := 1000000

/-- How a program ends. -/
def endingOf : Except Halt Nat → Ending
  | .ok code => .exited (code % 256)
  | .error (.exit code) => .exited code
  | .error (.killed _ signal) => .signalled signal
  | .error .overran => .overran
  | .error _ => .exited mistakeCode

/-- Run a program. One that is killed at the very first check has done nothing yet. -/
def runLaunched (call : Call) (l : Launch) (fs : Files) : Ending × Files :=
  if l.limit.map deadlineOf = some 0 then (.overran, fs)
  else
    let (result, p) := runCall (runAt deepestCommand) deepestCall call (newProcess l fs)
    (endingOf result, p.world.files)

/-- The programs of a host: its own files that can be run, and the utilities. -/
def launcher : Launcher := fun l fs =>
  if (l.command :: l.arguments).any fun a => a.toList.contains '\x00' then (.error .nulInArgument, fs)
  else
    match callOfCommand fs (.ofString l.command) (l.arguments.map .ofString) with
    | .error fault => (.error fault, fs)
    | .ok call =>
      let (ending, fs) := runLaunched call l fs
      (.ok ending, fs)

end Script

end LinearProgram
