import LinearProgram.Text.Utf8

/-!
The language of shell scripts: words, redirections and commands.

Solver programs are often small scripts. A word is a list of pieces, since part of it may be text as it stands and
part may be substituted when the script runs; a command is made of words, redirections and other commands.

* `ByteText`: the text of a script, which need not be UTF-8.
* `Piece`, `Use`: what words are made of.
* `Redirection`: a stream that goes elsewhere.
* `Command`: what is run.
-/

namespace LinearProgram

/-! ### Texts of bytes -/

/-- A text with one character for each byte. -/
abbrev ByteText := List Char

namespace ByteText

/-- The text of some bytes. -/
def ofBytes (bs : List UInt8) : ByteText := bs.map fun b => Char.ofNat b.toNat

/-- The bytes of a text. -/
def toBytes (t : ByteText) : List UInt8 := t.map fun c => UInt8.ofNat c.toNat

/-- A string as its UTF-8 bytes. -/
def ofString (s : String) : ByteText := ofBytes (Utf8.encode s)

/-- The string that the bytes of a text spell. -/
def string (t : ByteText) : String := Utf8.decodeLossy t.toBytes

/-- A number in decimal digits. -/
def ofNat (n : Nat) : ByteText := Nat.toDigits 10 n

/-- An integer in decimal digits. -/
def ofInt (n : Int) : ByteText := if n < 0 then '-' :: ofNat n.natAbs else ofNat n.natAbs

/-- Whether two texts are in the order of their bytes. -/
def inOrder (a b : ByteText) : Bool := !decide (b < a)

/-- The character that stands for a byte outside of the characters of UTF-8; it is one of the last there are. -/
def stray (c : Char) : Char := Char.ofNat (0x10FF00 + c.toNat)

/-- Whether a character stands for a byte outside of the characters of UTF-8. -/
def isStray (c : Char) : Bool := decide (0x10FF00 ≤ c.toNat)

/-- The character of more than one byte that a text begins with in UTF-8, and the number of its bytes. -/
def wideFront? (t : ByteText) : Option (Char × Nat) :=
  [2, 3, 4].findSome? fun n =>
    match (Utf8.decode? (toBytes (t.take n))).map String.toList with
    | some [c] => some (c, n)
    | _ => none

/-- The characters that a text spells in UTF-8; the bytes outside of them have characters of their own. -/
def characters : ByteText → List Char
  | [] => []
  | c :: cs =>
    if c.toNat < 0x80 then c :: characters cs
    else
      match wideFront? (c :: cs) with
      | some (d, n) => d :: characters (cs.drop (n - 1))
      | none => stray c :: characters cs
termination_by t => t.length
decreasing_by
  all_goals simp only [List.length_drop, List.length_cons]
  all_goals omega

/-- The text that spells some characters in UTF-8. -/
def ofCharacters (cs : List Char) : ByteText :=
  cs.flatMap fun c =>
    if c.toNat < 0x80 then [c]
    else if isStray c then [Char.ofNat (c.toNat - 0x10FF00)]
    else ofBytes (Utf8.encodeChars [c])

end ByteText

namespace Script

/-! ### Redirections -/

/-- How a redirection opens a file. -/
inductive Opening where
  /-- For reading. -/
  | read
  /-- For writing; what the file held is gone. -/
  | write
  /-- The same, even if an option says that no file is to lose what it holds. -/
  | overwrite
  /-- For writing behind what the file holds. -/
  | extend
  /-- For reading and writing. -/
  | both
  deriving DecidableEq

namespace Opening

/-- Whether what is opened can be read. -/
def reads : Opening → Bool
  | read | both => true
  | _ => false

/-- Whether what is opened can be written. -/
def writes (o : Opening) : Bool := decide (o ≠ read)

end Opening

/-! ### Words and commands -/

/-- Which part of the value of a parameter a pattern takes away. -/
inductive Trim where
  | shortestStart
  | longestStart
  | shortestEnd
  | longestEnd
  deriving DecidableEq

mutual

/-- A piece of a word. What comes of an unquoted substitution is split into words of its own. -/
inductive Piece where
  /-- Text as it stands. -/
  | text (quoted : Bool) (content : ByteText)
  /-- The value of a parameter, put to some use. -/
  | parameter (quoted : Bool) (name : ByteText) (use : Use)
  /-- The output of a command. -/
  | output (quoted : Bool) (command : Command)
  /-- The value of an expression. -/
  | arithmetic (quoted : Bool) (expression : List Piece)
  /-- The home directory. -/
  | home

/-- What is made of the value of a parameter. Where `orEmpty` is set an empty value counts as none. -/
inductive Use where
  /-- The value itself. -/
  | plain
  /-- The value with a word behind it. Nothing comes of what stands behind that. -/
  | before (word : List Piece)
  /-- The length of the value. -/
  | length
  /-- The word, if there is no value. -/
  | otherwise (orEmpty : Bool) (word : List Piece)
  /-- The word, if there is a value. -/
  | instead (orEmpty : Bool) (word : List Piece)
  /-- The word, which becomes the value if there is none. -/
  | assign (orEmpty : Bool) (word : List Piece)
  /-- The value, which must be there; if it is not, the word says why. -/
  | require (orEmpty : Bool) (word : List Piece)
  /-- The value without what a pattern matches at one of its ends. -/
  | trim (part : Trim) (pattern : List Piece)
  /-- A form that is not known. -/
  | unknown

/-- A stream that goes elsewhere, given by its number. -/
inductive Redirection where
  /-- To or from a file. -/
  | file (stream : Nat) (opening : Opening) (path : List Piece)
  /-- From a text that stands in the script, under a label. -/
  | here (stream label : Nat)
  /-- Where another stream goes, or nowhere for a dash. -/
  | copy (stream : Nat) (source : List Piece)

/-- A command, some with the number of their line. -/
inductive Command where
  /-- A command with its arguments, behind parameters that are set. -/
  | simple (line : Nat) (settings : List (ByteText × List Piece)) (words : List (List Piece))
      (redirections : List Redirection)
  /-- One command after the other. -/
  | sequence (first second : Command)
  /-- A command run if the one before succeeds. -/
  | both (first second : Command)
  /-- A command run if the one before fails. -/
  | either (first second : Command)
  /-- A command that succeeds if the one inside fails. -/
  | negated (inner : Command)
  /-- Commands each of which reads what the one before writes. -/
  | pipeline (parts : List Command)
  /-- A command that is not waited for. -/
  | background (line : Nat) (inner : Command)
  /-- A command with redirections for all of it. -/
  | redirected (line : Nat) (inner : Command) (redirections : List Redirection)
  /-- A command in a process of its own. -/
  | subshell (line : Nat) (inner : Command) (redirections : List Redirection)
  /-- A command run if another one succeeds, and perhaps one run if it does not. -/
  | choice (condition body : Command) (otherwise : Option Command)
  /-- A command run again and again, as long as another one succeeds, or until it does. -/
  | loop (untilSuccess : Bool) (condition body : Command)
  /-- A command run once for each word. -/
  | each (line : Nat) (name : ByteText) (words : List (List Piece)) (body : Command)
  /-- The command of the first branch with a pattern that matches a word. -/
  | select (line : Nat) (subject : List Piece)
      (branches : List (List (List Piece) × Option Command))
  /-- A name for a command. -/
  | define (line : Nat) (name : ByteText) (body : Command)

end

/-- A word. -/
abbrev Word := List Piece

/-- Put text before pieces, joined to text of the same kind that they begin with. -/
def consText (quoted : Bool) (t : ByteText) : Word → Word
  | .text q u :: pieces => if q = quoted then .text q (t ++ u) :: pieces else .text quoted t :: .text q u :: pieces
  | pieces => .text quoted t :: pieces

end Script

end LinearProgram
