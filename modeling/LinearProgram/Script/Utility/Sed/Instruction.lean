import LinearProgram.Script.Utility.Regex.Reader

/-!
Instructions for editing lines.

The lines are taken one by one into the pattern space, and the instructions of a script are carried out on it.
Instructions stand in a row; a block is an instruction that may skip those up to its closing brace.

* `Address`, `Guard`: the lines that an instruction is for.
* `Substitution`: a text in the place of what an expression matches.
* `Action`, `Instruction`: what is done.
-/

namespace LinearProgram

namespace Script

namespace Utility

/-- Which lines are meant. -/
inductive Address where
  | line (n : Nat)
  /-- Every so many lines, beginning with one. -/
  | every (first step : Nat)
  | last
  /-- The lines that match an expression; none for the one that was used last. -/
  | matching (r : Option Regex)

/-- Where a range of lines ends. -/
inductive RangeEnd where
  | at (a : Address)
  /-- A number of lines behind the first one. -/
  | behind (n : Nat)
  /-- At the next multiple of a number. -/
  | multiple (n : Nat)

/-- The lines that an instruction is for. -/
structure Guard where
  first : Option Address
  last : Option RangeEnd
  negated : Bool

/-- Changes of letters in a replacement. -/
inductive Casing where
  | asItIs
  | upper
  | lower
  deriving DecidableEq

/-- A part of a replacement. -/
inductive ReplacementPart where
  | text (t : ByteText)
  /-- What a group has matched, or all that has been matched for zero. -/
  | group (n : Nat)
  /-- From here on, or for the next letter only, letters are changed. -/
  | casing (c : Casing) (once : Bool)

/-- A substitution. -/
structure Substitution where
  pattern : Option Regex
  replacement : List ReplacementPart
  /-- The number of the match with which it begins. -/
  nth : Nat
  everywhere : Bool
  shown : Bool
  target : Option ByteText

/-- When a jump is made. -/
inductive JumpCondition where
  | always
  | substituted
  | unsubstituted
  deriving DecidableEq

/-- What an instruction does. -/
inductive Action where
  /-- The beginning of a block. -/
  | begin
  /-- The end of a block. -/
  | close
  | label (name : ByteText)
  | jump (condition : JumpCondition) (label : ByteText)
  | append (t : ByteText)
  | insert (t : ByteText)
  | change (t : ByteText)
  | appendFile (path : ByteText)
  /-- One more line of a file is appended. -/
  | appendLine (path : ByteText)
  /-- The pattern space is written to a file, or only its first line. -/
  | writeTo (whole : Bool) (path : ByteText)
  | delete
  | deleteLine
  | print
  | printLine
  /-- The width is the greatest one of what is written in a line. -/
  | list (width : Option Nat)
  | next
  | join
  | quit (shown : Bool) (code : Nat)
  | hold (more : Bool)
  | fetch (more : Bool)
  | exchange
  | number
  | fileName
  | clear
  | nothing
  | substitute (s : Substitution)
  | transliterate (table : List (Char × Char))

/-- An instruction. -/
structure Instruction where
  guard : Guard
  action : Action

end Utility

end Script

end LinearProgram
