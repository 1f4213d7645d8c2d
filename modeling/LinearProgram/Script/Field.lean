import LinearProgram.Script.Pattern

/-!
Splitting what words come to into fields.

The characters between fields are those of a parameter. Blanks among them are taken together; any other one ends a
field of its own.

* `Chunk`: what a piece of a word comes to.
* `fieldsOfChunks`: the fields of some chunks.
* `splitAmong`: a line shared out among a number of names.
-/

namespace LinearProgram

namespace Script

/-- What a piece of a word comes to. -/
inductive Chunk where
  /-- Text that stays in one field, which is there even if it is empty. -/
  | solid (quoted : Bool) (t : ByteText)
  /-- Text that is split into fields. -/
  | loose (t : ByteText)
  /-- The end of a field. Where nothing is split, a text stands there instead. -/
  | cut (between : ByteText)
  /-- A blank between fields. Where nothing is split, a text stands there instead. -/
  | gap (between : ByteText)

/-- The characters between fields. -/
structure Separators where
  /-- Those that are taken together. -/
  blanks : List Char
  /-- The other ones. -/
  marks : List Char

/-- The separators that a parameter tells, or the usual ones if it does not exist. -/
def Separators.ofValue (value : Option ByteText) : Separators :=
  let all := value.getD [' ', '\t', '\n']
  ⟨all.filter fun c => " \t\n".toList.contains c, all.filter fun c => !" \t\n".toList.contains c⟩

/-- The separators of a process. -/
def separators : Shell Separators := return .ofValue (← Shell.valueOf "IFS".toList)

/-- Fields on their way. All texts are in reverse order. -/
structure Fields where
  done : List Marked
  /-- The field that has begun. -/
  begun : Option Marked
  /-- Whether blanks have ended the last field, so that a mark behind them does not end another one. -/
  blank : Bool

namespace Fields

/-- Text that belongs to the field that has begun, or begins one. -/
def add (f : Fields) (m : Marked) : Fields := { f with begun := some (m.reverse ++ f.begun.getD []), blank := false }

/-- The end of a field. -/
def finish (f : Fields) : Fields := { f with done := f.begun.toList ++ f.done, begun := none }

/-- A blank. -/
def pause (f : Fields) : Fields := if f.begun.isSome then { f.finish with blank := true } else f

/-- A character of loose text. -/
def step (s : Separators) (f : Fields) (c : Char) : Fields :=
  if s.blanks.contains c then f.pause
  else if s.marks.contains c then
    if f.begun.isSome then { f.finish with blank := false }
    else if f.blank then { f with blank := false }
    else { f with done := [] :: f.done }
  else f.add [(c, false)]

/-- A chunk. -/
def chunk (s : Separators) (f : Fields) : Chunk → Fields
  | .solid quoted t => f.add (markedOf quoted t)
  | .loose t => t.foldl (step s) f
  | .cut _ => { f.finish with blank := false }
  | .gap _ => f.pause

end Fields

/-- The fields of some chunks. -/
def fieldsOfChunks (s : Separators) (cs : List Chunk) : List Marked :=
  let f := (cs.foldl (Fields.chunk s) ⟨[], none, false⟩).finish
  (f.done.map List.reverse).reverse

/-- The one text of some chunks where nothing is split. -/
def markedOfChunks (cs : List Chunk) : Marked :=
  cs.flatMap fun
    | .solid quoted t => markedOf quoted t
    | .loose t => markedOf false t
    | .cut between => markedOf false between
    | .gap between => markedOf false between

/-! ### Lines -/

/-- A line on its way to a number of names. All texts are in reverse order. -/
structure Sharing where
  done : List ByteText
  /-- The text that has begun. -/
  text : ByteText
  /-- How many more fields there may be in front of separators; without any, all that is left belongs to the text. -/
  left : Nat
  /-- The length that the text has without the separators at its end, if it has any. -/
  cut : Option Nat
  /-- Whether a blank has been the last separator, so that a mark behind it does not end another field. -/
  blank : Bool

namespace Sharing

/-- A character that separates nothing. -/
def add (f : Sharing) (c : Char) : Sharing := { f with text := c :: f.text, blank := false }

/-- A character of the text to which all that is left belongs. One mark behind blanks goes with them. -/
def addLast (s : Separators) (f : Sharing) (c : Char) : Sharing :=
  if s.blanks.contains c then { f with text := c :: f.text, cut := f.cut <|> some f.text.length }
  else { f.add c with cut := if s.marks.contains c && f.blank then f.cut else none }

/-- A separator behind a field. With the last one the text goes on. -/
def finish (f : Sharing) (isBlank : Bool) (c : Char) : Sharing :=
  if f.left = 1 then { f with text := c :: f.text, left := 0, cut := some f.text.length, blank := isBlank }
  else { f with done := f.text :: f.done, text := [], left := f.left - 1, blank := isBlank }

/-- A character. -/
def step (s : Separators) (f : Sharing) (e : Char × Bool) : Sharing :=
  let isBlank := s.blanks.contains e.1
  let isMark := s.marks.contains e.1
  if e.2 then f.add e.1
  else if f.left = 0 then f.addLast s e.1
  else if isBlank then if f.blank || f.text.isEmpty then f else f.finish true e.1
  else if isMark then if f.blank then { f with blank := false } else f.finish false e.1
  else f.add e.1

/-- A part of the line, behind which it has been joined to the next one. -/
def part (s : Separators) (f : Sharing) (m : Marked) : Sharing := { m.foldl (step s) f with blank := false }

end Sharing

/-- A line in parts shared out among the given number of names: a field for each, and for the last one all that is
left. -/
def splitAmong (s : Separators) (names : Nat) (parts : List Marked) : List ByteText :=
  let f := parts.foldl (Sharing.part s) ⟨[], [], names, none, false⟩
  let last := f.text.reverse.take (f.cut.getD f.text.length)
  let fields := f.done.map List.reverse |>.reverse
  let fields := if last.isEmpty then fields else fields ++ [last]
  fields ++ List.replicate (names - fields.length) []

end Script

end LinearProgram
