import LinearProgram.Host.Files
import LinearProgram.Script.Syntax

/-!
What streams lead to.

A file is read and written from an offset on. A pipe holds what has been written to it until it is read; it remembers
when it was written, so that who reads it waits for that. Processes run one after the other here, so a pipe is filled
before it is read: who writes more than it takes up is stopped, and the pipe remembers whether anybody has asked for
what is missing then.

* `Pipe`, `Supply`: text between processes, and what is known about its end.
* `Channel`: what a stream leads to.
* `Channel.left`, `Channel.line`: what is to be read next.
* `Channel.taking`, `Channel.written`: the channel after reading and writing.
-/

namespace LinearProgram

namespace Script

/-! ### Pipes -/

/-- What happens when a pipe is full, and when its content is used up. -/
inductive Supply where
  /-- It is filled until it holds a number of characters, or until a time from which on nobody reads it. -/
  | filling (room closing : Option Nat)
  /-- Nothing more comes, which is known from a time on. -/
  | ended (time : Nat)
  /-- More would have come. -/
  | stopped
  /-- More would have come, and has been asked for. -/
  | missed
  deriving DecidableEq

/-- Text between processes. -/
structure Pipe where
  /-- What is still to be read, but for the texts that have come last. -/
  content : ByteText
  /-- The texts that have come last, the last one first. -/
  recent : List ByteText
  /-- How many characters have been read. -/
  taken : Nat
  /-- How many characters have been written. -/
  size : Nat
  /-- How many characters had been written when, the last time first. Times close to each other count as one. -/
  times : List (Nat × Nat)
  supply : Supply

namespace Pipe

/-- A pipe that takes up a number of characters, and is read until a time. -/
def new (room closing : Option Nat) : Pipe := ⟨[], [], 0, 0, [], .filling room closing⟩

/-- A pipe with a text that has always been there. -/
def ofText (t : ByteText) : Pipe := ⟨t, [], 0, t.length, [], .ended 0⟩

/-- What is left to be read. -/
def left (p : Pipe) : ByteText := if p.recent.isEmpty then p.content else p.content ++ p.recent.reverse.flatten

/-- The pipe with all that is left to be read in one text. -/
def settled (p : Pipe) : Pipe := { p with content := p.left, recent := [] }

/-- Whether who writes at a time is stopped. -/
def refuses (p : Pipe) (time : Nat) : Bool :=
  match p.supply with
  | .filling room closing => (room.any fun n => decide (n ≤ p.size)) || (closing.any fun t => decide (t < time))
  | .ended _ => false
  | _ => true

/-- How many nanoseconds lie between times that count as different. -/
def instant : Nat := 1000000

/-- The pipe after a text has been written at a time. -/
def add (p : Pipe) (time : Nat) (t : ByteText) : Pipe :=
  let size := p.size + t.length
  let times := match p.times with
    | (_, before) :: earlier => if time < before + instant then (size, before) :: earlier else (size, time) :: p.times
    | [] => [(size, time)]
  { p with recent := t :: p.recent, size, times }

/-- The pipe after some characters of what is left, which is in one text, have been read; `beyond` tells whether more
would have been. -/
def advance (p : Pipe) (n : Nat) (beyond : Bool) : Pipe :=
  { p with
    content := p.content.drop n
    taken := p.taken + n
    supply := if beyond && p.supply = .stopped then .missed else p.supply }

/-- How many characters had been written at a time. -/
def sizeAt (p : Pipe) (time : Nat) : Nat :=
  match p.times.find? fun e => decide (e.2 ≤ time) with
  | some e => e.1
  | none => if p.times.isEmpty then p.size else 0

/-- The time from which on what has been read is known. -/
def timeOf (p : Pipe) (beyond : Bool) : Nat :=
  let first := match (p.times.takeWhile fun e => decide (p.taken ≤ e.1)).getLast? with
    | some e => if p.taken = 0 then 0 else e.2
    | none => 0
  match p.supply with
  | .ended time => if beyond then max time first else first
  | _ => first

end Pipe

/-! ### Channels -/

/-- What a stream leads to. -/
inductive Channel where
  | device (d : Device) (opening : Opening)
  /-- The file with a number, which is read and written from an offset on, or written always at its end. -/
  | file (number offset : Nat) (opening : Opening)
  /-- A directory, of which nothing can be read. -/
  | directory
  /-- Text between processes. -/
  | pipe (p : Pipe)

namespace Channel

/-- What is read from a device, as far as anybody goes on reading. -/
def plentyOf : Device → ByteText
  | .null => []
  | _ => List.replicate 1048576 '\x00'

/-- Whether something can be read. -/
def isReadable : Channel → Bool
  | device _ opening | file _ _ opening => opening.reads
  | _ => true

/-- Whether something can be written. -/
def isWritable : Channel → Bool
  | device _ opening | file _ _ opening => opening.writes
  | _ => true

/-- What is left to be read from what is readable. -/
def left (fs : Files) : Channel → ByteText
  | device d _ => plentyOf d
  | pipe p => p.left
  | file number offset _ => .ofBytes ((fs.stored number).bytes.drop offset)
  | directory => []

/-- The line that is to be read next, with its end if it has one. -/
def line (fs : Files) : Channel → ByteText
  | device d _ => plentyOf d
  | pipe p => untilEnd p.left
  | file number offset _ =>
    let left := (fs.stored number).bytes.drop offset
    .ofBytes (left.take ((left.takeWhile fun b => b ≠ 10).length + 1))
  | directory => []
where
  /-- A text up to the end of its first line. -/
  untilEnd (t : ByteText) : ByteText := t.take ((t.takeWhile fun c => c ≠ '\n').length + 1)

/-- The channel after some characters of what is left have been read; `beyond` tells whether more would have been. -/
def taking (n : Nat) (beyond : Bool) : Channel → Channel
  | device d opening => device d opening
  | pipe p => pipe (p.settled.advance n beyond)
  | file number offset opening => file number (offset + n) opening
  | directory => directory

/-- Where the next text that is written begins in the file that a channel leads to. -/
def end_ (fs : Files) : Channel → Nat
  | file number offset opening => if opening = .extend then (fs.stored number).bytes.length else offset
  | _ => 0

/-- The channel and the files after a text has been written at a time. A gap is filled with zeros. -/
def written (fs : Files) (time : Nat) (text : ByteText) : Channel → Channel × Files
  | device d opening => (device d opening, fs)
  | pipe p => (pipe (p.add time text), fs)
  | file number offset opening =>
    let held := (fs.stored number).bytes
    let length := held.length
    let start := if opening = .extend then length else offset
    let bytes := if start = length then held ++ text.toBytes
      else held.take start ++ List.replicate (start - length) 0 ++ text.toBytes ++ held.drop (start + text.length)
    (file number (start + text.length) opening, fs.fill number bytes)
  | directory => (directory, fs)

end Channel

end Script

end LinearProgram
