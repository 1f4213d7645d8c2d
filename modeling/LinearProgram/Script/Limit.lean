/-!
Limits of what a process may use.

A limit can be set, and how far it may be raised again can be set too. Only the limit on the length of files has an
effect: a process that writes beyond it gets a signal.

* `Resource`, `Resource.all`: what there are limits of.
* `Limit`, `Limit.isSound`: how much may be used, and how much more that may become.
* `Limits`, `Limits.of`, `Limits.put`: the limits of a process.
-/

namespace LinearProgram

namespace Script

/-- Something that a process uses: the letter that it goes by, how it is listed, and how many of what is counted make
one of what is told. -/
structure Resource where
  letter : Char
  label : String
  unit : Nat

/-- What there are limits of. -/
def Resource.all : List Resource :=
  [⟨'t', "time(seconds)", 1⟩, ⟨'f', "file(blocks)", 512⟩, ⟨'d', "data(kbytes)", 1024⟩, ⟨'s', "stack(kbytes)", 1024⟩,
   ⟨'c', "coredump(blocks)", 512⟩, ⟨'m', "memory(kbytes)", 1024⟩, ⟨'l', "locked memory(kbytes)", 1024⟩,
   ⟨'p', "process", 1⟩, ⟨'n', "nofiles", 1⟩, ⟨'v', "vmemory(kbytes)", 1024⟩, ⟨'w', "locks", 1⟩, ⟨'r', "rtprio", 1⟩]

/-- How much a process may use, and how far that may be raised. There is no bound where nothing is given. -/
structure Limit where
  soft : Option Nat
  hard : Option Nat

/-- Whether as much may be used as a limit says. -/
def Limit.isSound (l : Limit) : Bool :=
  match l.soft, l.hard with
  | _, none => true
  | none, some _ => false
  | some soft, some hard => decide (soft ≤ hard)

/-- The limits of a process, by the letters of what they are about. -/
abbrev Limits := List (Char × Limit)

/-- The limits that a process begins with. -/
def Limits.initial : Limits :=
  [('s', ⟨some 8388608, none⟩), ('c', ⟨some 0, none⟩), ('l', ⟨some 8388608, some 8388608⟩),
   ('p', ⟨some 128604, some 128604⟩), ('n', ⟨some 20000, some 20000⟩), ('r', ⟨some 0, some 0⟩)]

/-- The limit of what goes by a letter. -/
def Limits.of (ls : Limits) (letter : Char) : Limit := (ls.lookup letter).getD ⟨none, none⟩

/-- Limits with another one in the place of one. -/
def Limits.put (ls : Limits) (letter : Char) (limit : Limit) : Limits :=
  (letter, limit) :: ls.filter fun e => e.1 ≠ letter

/-- How many bytes a file that is written may have. -/
def Limits.fileSize (ls : Limits) : Option Nat := (ls.of 'f').soft

end Script

end LinearProgram
