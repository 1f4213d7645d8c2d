import LinearProgram.Host.Files
import LinearProgram.Journal
import LinearProgram.Text.Utf8

/-!
The host: the files, the programs and the journal that the library works with.

* `Launch`, `Ending`, `Launcher`: a program that is started, how it ends, and what programs do to files.
* `Host`: files, temporary names, journal and launcher.
* `HostM`: computations on a host that may fail. What they have done before a failure stays done.
* `Host.makeTemporary`: a new empty file under a name that no file has.
* `Host.discard`: the end of a temporary file.
-/

namespace LinearProgram

/-! ### Programs -/

/-- A program that is started. Both its output streams go to the file `output`, and a program that still runs
at the first check at or after the limit is killed. -/
structure Launch where
  command : String
  arguments : List String
  output : String
  limit : Option Duration
  deriving DecidableEq

/-- How a program ends. -/
inductive Ending where
  /-- It exits with a code. -/
  | exited (code : Nat)
  /-- A signal ends it. -/
  | signalled (number : Nat)
  /-- It runs beyond its limit and is killed. -/
  | overran
  deriving DecidableEq

namespace Ending

/-- The names of signals. -/
def signalNames : List (Nat × String) :=
  [(1, "SIGHUP"), (2, "SIGINT"), (3, "SIGQUIT"), (4, "SIGILL"), (5, "SIGTRAP"), (6, "SIGABRT"),
   (7, "SIGBUS"), (8, "SIGFPE"), (9, "SIGKILL"), (10, "SIGUSR1"), (11, "SIGSEGV"), (12, "SIGUSR2"),
   (13, "SIGPIPE"), (14, "SIGALRM"), (15, "SIGTERM"), (16, "SIGSTKFLT"), (24, "SIGXCPU"),
   (25, "SIGXFSZ"), (26, "SIGVTALRM"), (27, "SIGPROF"), (29, "SIGIO"), (30, "SIGPWR"), (31, "SIGSYS")]

/-- The text of an ending. -/
def text : Ending → String
  | exited code => s!"exit status: {code}"
  | signalled number =>
    match signalNames.lookup number with
    | some name => s!"signal: {number} ({name})"
    | none => s!"signal: {number}"
  | overran => "killed"

end Ending

/-- What programs do: how a launch ends, or why it cannot start, and the files it leaves. -/
abbrev Launcher := Launch → Files → Except FileFault Ending × Files

/-! ### The host -/

/-- The name of a temporary file: a number between two given texts. -/
structure TempName where
  before : String
  number : Nat
  after : String
  deriving DecidableEq

namespace TempName

/-- The number in a temporary name: six digits or more. -/
def digits (n : Nat) : String :=
  let ds := Nat.toDigits 10 n
  String.ofList (List.replicate (6 - ds.length) '0' ++ ds)

/-- A temporary name as a text. -/
def text (t : TempName) : String := t.before ++ digits t.number ++ t.after

end TempName

/-- The surroundings of the library. -/
structure Host where
  /-- The files. -/
  files : Files
  /-- The directory of temporary files. -/
  tempDirectory : String
  /-- The number that the next temporary name holds. -/
  nextTemp : Nat
  /-- The names of the temporary files made so far. -/
  tempNames : List TempName
  /-- The journal, oldest entry first. -/
  journal : List Entry
  /-- The programs. -/
  launcher : Launcher

/-- A computation on a host that may fail. -/
abbrev HostM := ExceptT Error (StateM Host)

namespace Host

/-- Write entries to the journal. -/
def note (entries : List Entry) : HostM Unit :=
  modify fun h => { h with journal := h.journal ++ entries }

/-- The value of a computation with a journal. -/
def logged {α : Type} (l : Logged (Except Error α)) : HostM α := do
  note l.entries
  liftExcept l.value
where
  /-- A result as a computation. -/
  liftExcept : Except Error α → HostM α
    | .ok a => pure a
    | .error e => throw e

/-- The value of a look at the files. -/
def look {α : Type} (f : Files → Except FileFault α) : HostM α := do
  match f (← get).files with
  | .ok a => pure a
  | .error fault => throw (.file fault)

/-- Change the files. -/
def change (f : Files → Except FileFault Files) : HostM Unit := do
  match f (← get).files with
  | .ok files => modify fun h => { h with files }
  | .error fault => throw (.file fault)

/-- Make the directories above a path. Those that have been made stay, even if another one cannot be made. -/
def makeDirectoriesAbove (path : String) : HostM Unit := do
  let (result, files) := (← get).files.makeDirectoriesAbove path
  modify fun h => { h with files }
  match result with
  | .ok () => pure ()
  | .error fault => throw (.file fault)

/-- The content of a file. -/
def read (path : String) : HostM (List UInt8) := look fun fs => fs.read path

/-- Give a file a content. -/
def write (path : String) (bytes : List UInt8) : HostM Unit := change fun fs => fs.write path bytes

/-- Put bytes behind the content of a file. -/
def append (path : String) (bytes : List UInt8) : HostM Unit := change fun fs => fs.append path bytes

/-- Copy a file. -/
def copy (source target : String) : HostM Unit := change fun fs => fs.copy source target

/-! ### Temporary files -/

/-- How many names are tried before giving up. -/
def tempTries : Nat := 65536

/-- The first number from `n` on whose name is free, among the given number of tries. -/
def freeTemp? (isFree : Nat → Bool) : Nat → Nat → Option Nat
  | 0, _ => none
  | tries + 1, n => if isFree n then some n else freeTemp? isFree tries (n + 1)

/-- The path of a name in the directory of temporary files. A name that begins at the root is its own path. -/
def inTempDirectory (h : Host) (name : String) : String :=
  if Files.isAbsolute name then name else h.tempDirectory ++ "/" ++ name

/-- Make an empty file whose name begins and ends in a given way and is new. -/
def makeTemporary (before after : String) : HostM String := do
  let h ← get
  let path := fun n => inTempDirectory h (TempName.mk before n after).text
  match freeTemp? (fun n => !h.files.holds (path n)) tempTries h.nextTemp with
  | none => throw (.file .alreadyExists)
  | some n =>
    write (path n) []
    modify fun h => { h with nextTemp := n + 1, tempNames := h.tempNames ++ [⟨before, n, after⟩] }
    pure (path n)

/-- Remove a temporary file, which may be gone already. -/
def discard (path : String) : StateM Host Unit :=
  modify fun h =>
    match h.files.remove path with
    | .ok files => { h with files }
    | .error _ => h

/-- Remove the temporary file that may be there. -/
def discardAny : Option String → StateM Host Unit
  | some path => discard path
  | none => pure ()

/-- Run a computation, and remove a temporary file if it fails. -/
def discardOnError {α : Type} (path : String) (act : HostM α) : HostM α := fun h =>
  match act h with
  | (.ok a, h') => (.ok a, h')
  | (.error e, h') => (.error e, (discard path h').2)

/-- Run a computation, and remove a temporary file afterwards in any case. -/
def discardAfter {α : Type} (path : String) (act : HostM α) : HostM α := fun h =>
  let (result, h') := act h
  (result, (discard path h').2)

end Host

end LinearProgram
