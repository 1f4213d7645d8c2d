import LinearProgram.Text.Blank
import LinearProgram.Text.Utf8

/-!
The lines of a text file.

A line feed ends a line, and a carriage return just before it belongs to the line end. What follows the
last line feed is a line if it is not empty, and keeps a carriage return at its end.

* `linesOfBytes`: the lines of a byte list without their ends.
* `Line`, `fileLines`: the lines as texts; one that is not UTF-8 is `garbled`.
* `textLines`: the lines of a text.
-/

namespace LinearProgram

/-- A line without the one carriage return that may end it. -/
def dropReturn {α : Type} [DecidableEq α] (ret : α) (line : List α) : List α :=
  if line.getLast? = some ret then line.dropLast else line

/-- The lines of a list, given what feeds a line and what returns the carriage. -/
def linesWith {α : Type} [DecidableEq α] (feed ret : α) (as : List α) : List (List α) :=
  let ps := pieces (fun a => a = feed) as
  let unfinished := ps.getLast?.getD []
  ps.dropLast.map (dropReturn ret) ++ (if unfinished.isEmpty then [] else [unfinished])

/-- The lines of a byte list. -/
def linesOfBytes (bs : List UInt8) : List (List UInt8) := linesWith 10 13 bs

/-- The lines of a text. -/
def textLines (s : String) : List String := (linesWith '\n' '\r' s.toList).map String.ofList

/-- A line of a file. -/
inductive Line where
  /-- A line of text. -/
  | text (content : String)
  /-- A line whose bytes are not UTF-8. -/
  | garbled
  deriving DecidableEq

/-- The line that some bytes make. -/
def Line.ofBytes (bs : List UInt8) : Line :=
  match Utf8.decode? bs with
  | some s => .text s
  | none => .garbled

/-- The lines of a file. -/
def fileLines (bs : List UInt8) : List Line := (linesOfBytes bs).map Line.ofBytes

end LinearProgram
