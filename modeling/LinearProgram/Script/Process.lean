import LinearProgram.Host.Basic
import LinearProgram.Script.Channel
import LinearProgram.Script.Limit
import LinearProgram.Script.Parser

/-!
Running processes.

All processes of a launch share the files, the channels through which text passes, and the clock; each has its own
parameters, streams and working directory. A process that starts another one waits for it, unless that one is a job.

A job has its turns: it runs until the time that the others have come to, and then pauses. A computation cannot be
stopped in its midst and go on later, so a job is run from its beginning each time, and finds at each of its pauses
what it has found there before. It does the same again up to its last pause, and goes on behind it with what is new.

* `Scene`, `Turn`: what is shared, and what a job finds when it goes on.
* `Job`, `World`: the jobs, and all that is shared.
* `Process`: what a process has of its own.
* `Halt`, `Shell`: computations of a process, and how they are cut short.
-/

namespace LinearProgram

namespace Script

/-! ### Processes -/

/-- A parameter with a name. -/
structure Variable where
  value : Option ByteText
  /-- Whether programs that are started see it. -/
  exported : Bool
  /-- Whether its value stays. -/
  fixed : Bool

/-- The names of options by their letters. -/
def optionNames : List (String × Char) :=
  [("errexit", 'e'), ("noglob", 'f'), ("ignoreeof", 'I'), ("interactive", 'i'), ("monitor", 'm'), ("noexec", 'n'),
   ("stdin", 's'), ("xtrace", 'x'), ("verbose", 'v'), ("vi", 'V'), ("emacs", 'E'), ("noclobber", 'C'),
   ("allexport", 'a'), ("notify", 'b'), ("nounset", 'u'), ("privileged", 'p')]

/-- What a job finds when it goes on. -/
structure Turn where
  /-- The nanoseconds that have passed when it goes on. -/
  begun : Nat
  files : Files
  channels : Array Channel
  /-- The signals that have come for it. -/
  signals : List Nat
  /-- The nanoseconds up to which it runs, if it is to pause at all. -/
  horizon : Option Nat

/-- What the processes of a launch share, but for the jobs. -/
structure Scene where
  files : Files
  channels : Array Channel
  /-- The nanoseconds that have passed. -/
  elapsed : Nat
  /-- The nanoseconds after which all is killed. -/
  deadline : Option Nat
  /-- The number of the next process. -/
  nextNumber : Nat
  /-- The next label of a text in a script. -/
  nextLabel : Nat
  /-- The texts in scripts that are the input of commands. -/
  texts : List (Nat × Word)
  /-- The nanoseconds up to which a job runs. -/
  horizon : Option Nat
  /-- The turns that a job has still to take. -/
  turns : List Turn
  /-- How many channels a job shares with others. The newer ones are its own. -/
  common : Nat
  /-- When a job that has paused goes on by itself, and the channels as they were when it paused. -/
  pause : Nat × Array Channel
  /-- The signals for processes that wait for the one that runs, each with the number of its process. -/
  letters : List (Nat × Nat)
  /-- The signals that a job has sent in this turn to processes outside. -/
  posted : List (Nat × Nat)
  /-- The time after which a process that waits for the one that runs is ended, its number, and the signal. -/
  doom : Option (Nat × Nat × Nat)

/-- Why a computation is cut short. -/
inductive Halt where
  /-- The process exits. -/
  | exit (code : Nat)
  /-- Something is wrong, which has been said. -/
  | mistake
  /-- A function or a script that is read in returns. -/
  | return (code : Nat)
  /-- A number of loops end. -/
  | break (levels : Nat)
  /-- The last of a number of loops goes on with its next round. -/
  | continue (levels : Nat)
  /-- A signal ends the process with a number. -/
  | killed (number signal : Nat)
  /-- The time is up. -/
  | overran
  /-- A job pauses. -/
  | paused
  deriving DecidableEq

/-- How a job has ended: its exit code, and the signal that has ended it, if one has. -/
structure JobEnd where
  code : Nat
  signal : Option Nat

/-- A command that is not waited for. -/
structure Job where
  /-- The number of its process. -/
  number : Nat
  /-- The number of the process that has started it. -/
  owner : Nat
  /-- Its number among the jobs of that process. -/
  slot : Nat
  /-- When it has begun. -/
  begun : Nat
  /-- The streams that it writes to where it does not say otherwise lead to these channels. -/
  outputs : List Nat
  /-- What it does from its beginning on. -/
  run : Scene → Except Halt Nat × Scene
  /-- What it has found at its beginning, once it has run. -/
  first : Option Scene
  /-- The turns that it has taken, but for the first one. -/
  turns : List Turn
  /-- The signals that it has still to be given. -/
  signals : List Nat
  /-- When there is something for it to do. -/
  wake : Nat
  /-- How many times it has paused with more to do at once. -/
  restless : Nat
  ending : Option JobEnd
  /-- How many commands it is made of, each of which writes to the next one. -/
  parts : Nat
  /-- Whether its owner has learnt of its end, so that there is no such process any more. -/
  reaped : Bool
  /-- Whether its owner has waited for it, so that another job can have its place. -/
  waited : Bool

/-- What the processes of a launch share. -/
structure World extends Scene where
  jobs : List Job

/-- Where the shell has found a program. -/
structure Finding where
  path : ByteText
  /-- Whether the working directory has been another one since. -/
  stale : Bool

/-- Where the search for options among arguments goes on. -/
structure OptionPlace where
  /-- The number of the next argument; zero if it is not known. -/
  next : Nat
  /-- How many characters of the argument before that are done with; zero if all are. -/
  taken : Nat

namespace OptionPlace

/-- At the beginning of an argument. -/
def argument (number : Nat) : OptionPlace := ⟨number, 0⟩

/-- At the first argument. -/
def first : OptionPlace := argument 1

/-- At a place that is not known. -/
def lost : OptionPlace := argument 0

end OptionPlace

/-- A process that runs a script. -/
structure Process where
  world : World
  /-- The name under which the script was started. -/
  name : ByteText
  /-- The number of the process. -/
  number : Nat
  /-- The number of the process that runs the script, of which this one may be a part. -/
  scriptNumber : Nat
  /-- The number of the process that has started the script. -/
  parentNumber : Nat
  arguments : List ByteText
  parameters : List (ByteText × Variable)
  functions : List (ByteText × Command)
  /-- The letters of the options that are set. -/
  options : List Char
  /-- The channel of each open stream. -/
  streams : List (Nat × Nat)
  directory : Place
  /-- The path of that directory, as it has been gone to. -/
  path : String
  /-- The exit code of the last command. -/
  lastCode : Nat
  /-- The exit code of the last substitution in the words of a command. -/
  substitutionCode : Option Nat
  /-- The line of the command that is run. -/
  line : Nat
  /-- The line up to which commands have been read. -/
  lineRead : Nat
  /-- The name of the command that makes complaints. -/
  command : Option ByteText
  /-- Whether the exit code of what is run is looked at, so that failing is no reason to leave. -/
  tested : Bool
  /-- The number of functions that are being run. -/
  depth : Nat
  /-- The number of loops that are being run. -/
  loops : Nat
  /-- How many commands have to be left to be put inside one another, once the first command has run. -/
  bottom : Option Nat
  /-- The parameters to be restored at the end of each function that is being run. -/
  saved : List (List (ByteText × Option Variable))
  /-- What is done at the end, and for signals. -/
  traps : List (Nat × ByteText)
  /-- The signals that do nothing whatever is said about them. -/
  ignored : List Nat
  /-- The signals that have come and are still to be handled. -/
  pending : List Nat
  /-- The processes that wait for this one, with what they do for signals. -/
  within : List (Nat × List (Nat × ByteText))
  /-- The numbers of other processes. -/
  others : List Nat
  /-- The number of the last process that is not waited for. -/
  background : Option Nat
  /-- Where `getopts` goes on. -/
  optionPlace : OptionPlace
  /-- The permissions that new files do not get. -/
  mask : Nat
  /-- The texts that stand for words in front of arguments, in the order in which they were put down. -/
  aliases : List (ByteText × ByteText)
  /-- The exit code with which the process ends, while what is to be done at the end is done. -/
  leaving : Option Nat
  /-- The programs that the shell has found by their names. -/
  known : List (ByteText × Finding)
  /-- Whether a simple command that comes next is the last thing the process does. -/
  final : Bool
  /-- Whether it stands still. -/
  stopped : Bool
  /-- What is wrong with the output, if a program has not been able to write to it. -/
  unsaid : Option FileFault
  /-- How much it may use. -/
  limits : Limits

/-- The parameters that programs see, as settings. -/
def Process.settings (p : Process) : List ByteText :=
  (p.parameters.filterMap fun (name, v) =>
    if v.exported then v.value.map fun value => name ++ '=' :: value else none).reverse

/-- A computation of a process. -/
abbrev Shell := ExceptT Halt (StateM Process)

namespace Shell

/-- Change what is shared. -/
def modifyWorld (f : World → World) : Shell Unit := modify fun p => { p with world := f p.world }

/-- The files. -/
def files : Shell Files := return (← get).world.files

/-- Put up with other files. -/
def setFiles (files : Files) : Shell Unit := modifyWorld fun w => { w with files }

/-- Run a computation to its end, whatever that is. -/
def attempt {α : Type} (act : Shell α) : Shell (Except Halt α) := fun p =>
  let (result, p) := act p
  (.ok result, p)

/-- Exit with a code, of which one byte is kept. -/
def exit {α : Type} (code : Nat) : Shell α := throw (.exit (code % 256))

/-- What the process does for signals. -/
def actions : Shell (List (Nat × ByteText)) := do
  let p ← get
  return p.ignored.map (fun signal => (signal, [])) ++ p.traps

end Shell

end Script

end LinearProgram
