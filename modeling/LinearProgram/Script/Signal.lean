import LinearProgram.Number.Decimal
import LinearProgram.Script.Syntax

/-!
Signals.

A signal ends the process that it comes to, unless it is one of those that do nothing by themselves, or the process
has said what is to be done.

* `Signal.names`, `Signal.description`: how signals are called.
* `Signal.ofText?`: the signal that a text tells.
* `Signal.Effect`, `Signal.effect`: what a signal does to a process.
-/

namespace LinearProgram

namespace Script

namespace Signal

/-- The names of signals with their numbers and what they are about. -/
def table : List (Nat × String × String) :=
  [(1, "HUP", "Hangup"), (2, "INT", "Interrupt"), (3, "QUIT", "Quit"), (4, "ILL", "Illegal instruction"),
   (5, "TRAP", "Trace/breakpoint trap"), (6, "ABRT", "Aborted"), (7, "BUS", "Bus error"),
   (8, "FPE", "Floating point exception"), (9, "KILL", "Killed"), (10, "USR1", "User defined signal 1"),
   (11, "SEGV", "Segmentation fault"), (12, "USR2", "User defined signal 2"), (13, "PIPE", "Broken pipe"),
   (14, "ALRM", "Alarm clock"), (15, "TERM", "Terminated"), (16, "16", "Stack fault"),
   (17, "CHLD", "Child exited"),
   (18, "CONT", "Continued"), (19, "STOP", "Stopped (signal)"), (20, "TSTP", "Stopped"),
   (21, "TTIN", "Stopped (tty input)"), (22, "TTOU", "Stopped (tty output)"), (23, "URG", "Urgent I/O condition"),
   (24, "XCPU", "CPU time limit exceeded"), (25, "XFSZ", "File size limit exceeded"),
   (26, "VTALRM", "Virtual timer expired"), (27, "PROF", "Profiling timer expired"), (28, "WINCH", "Window changed"),
   (29, "IO", "I/O possible"), (30, "PWR", "Power failure"), (31, "SYS", "Bad system call")]

/-- The first signal that has no name of its own. -/
def firstFree : Nat := 34

/-- The last signal. -/
def last : Nat := 64

/-- The signals without a name about which nothing can be said. -/
def reserved : List Nat := [32, 33]

/-- The name of a signal. -/
def name? (number : Nat) : Option String :=
  if number = 0 then some "EXIT"
  else if number = firstFree then some "RTMIN"
  else if number = last then some "RTMAX"
  else if firstFree < number ∧ number < last then
    some (if number < 50 then s!"RTMIN+{number - firstFree}" else s!"RTMAX-{last - number}")
  else if reserved.contains number then some (toString number)
  else (table.lookup number).map Prod.fst

/-- What a signal is about. -/
def description (number : Nat) : String :=
  match table.lookup number with
  | some (_, text) => text
  | none => if firstFree ≤ number ∧ number ≤ last then s!"Real-time signal {number - firstFree}"
    else s!"Unknown signal {number}"

/-- The signals that do nothing by themselves. Those with which a terminal stops processes are among them, as there is
no terminal. -/
def harmless : List Nat := [17, 18, 20, 21, 22, 23, 28]

/-- The signal that a text tells by its number or its name. -/
def ofText? (t : ByteText) : Option Nat :=
  if !t.isEmpty && t.all isDigit then (if valueOfDigits t ≤ last then some (valueOfDigits t) else none)
  else
    let wanted := String.ofList (t.map Char.toUpper)
    (List.range (last + 1)).find? fun n => name? n = some wanted

/-- What a signal does to a process. -/
inductive Effect where
  /-- The process ends. -/
  | ends
  /-- The process stands still until it is told to go on. -/
  | stops
  /-- Something is done instead. -/
  | handled
  | ignored
  deriving DecidableEq

/-- The signal that comes when a process that has been started has ended. -/
def childEnd : Nat := 17

/-- The signal that ends a process, whatever it says. -/
def kill : Nat := 9

/-- The signal that stops a process, whatever it says. -/
def stop : Nat := 19

/-- The signal for a process to go on. -/
def goOn : Nat := 18

/-- What a signal does to a process that has said what is to be done for some signals. -/
def effect (actions : List (Nat × ByteText)) (signal : Nat) : Effect :=
  if signal = kill || reserved.contains signal then .ends
  else if signal = stop then .stops
  else
    match actions.lookup signal with
    | some action => if action.isEmpty then .ignored else .handled
    | none => if harmless.contains signal then .ignored else .ends

end Signal

end Script

end LinearProgram
