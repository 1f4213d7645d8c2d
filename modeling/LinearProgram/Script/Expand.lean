import LinearProgram.Script.Arithmetic
import LinearProgram.Script.Field

/-!
What words come to when a script runs.

The pieces of a word are expanded from left to right; unquoted text that has been substituted is split into fields,
and fields with unquoted signs of a pattern are replaced by the paths of files. Commands inside words are run by a
function that the functions here are given.

* `Capture`: how the output of a command is taken.
* `Parameter.value?`: the values of parameters.
* `chunksOf`: what the pieces of a word come to.
* `fieldsOf`, `textOf`, `markedTextOf`: the fields of words, and words that are not split.
-/

namespace LinearProgram

namespace Script

/-- How the output of a command is taken. -/
abbrev Capture := Command → Shell ByteText

/-! ### Parameters -/

/-- The sign between the arguments where they are joined. -/
def joint : Shell ByteText := do
  return match ← Shell.valueOf "IFS".toList with
    | none => [' ']
    | some signs => signs.take 1

namespace Parameter

/-- The value of a parameter that is written with a sign or a number. -/
def special? (p : Process) (name : ByteText) : Option (Option ByteText) :=
  match name with
  | ['#'] => some (some (.ofNat p.arguments.length))
  | ['?'] => some (some (.ofNat p.lastCode))
  | ['$'] => some (some (.ofNat p.scriptNumber))
  | ['!'] => some (p.background.map ByteText.ofNat)
  | ['-'] => some (some ((optionNames.map Prod.snd).reverse.filter p.options.contains))
  | ['0'] => some (some p.name)
  | name =>
    if name.all isDigit && !name.isEmpty then some (p.arguments[valueOfDigits name - 1]?)
    else none

/-- The value of a parameter, if it has one. -/
def value? (name : ByteText) : Shell (Option ByteText) := do
  let p ← get
  match special? p name with
  | some value => pure value
  | none =>
    if name = ['@'] || name = ['*'] then
      let between ← joint
      pure (some (between.intercalate p.arguments))
    else Shell.valueOf name

/-- Complain about a parameter, and go no further. -/
def refuse {α : Type} (name reason : ByteText) : Shell α := Shell.fail (name ++ ": ".toList ++ reason)

end Parameter

/-! ### Chunks -/

/-- Text that is split unless it is quoted. -/
def Chunk.ofText (quoted : Bool) (t : ByteText) : Chunk := if quoted then .solid true t else .loose t

/-- The chunks of arguments that stay apart. -/
def chunksOfArguments (quoted : Bool) (arguments : List ByteText) : Shell (List Chunk) := do
  let between ← joint
  return (arguments.map (Chunk.ofText quoted)).intersperse (if quoted then .cut between else .gap between)

/-- The chunks of the value of a parameter. -/
def chunksOfValue (quoted : Bool) (name : ByteText) (value : ByteText) : Shell (List Chunk) := do
  if name = ['@'] || name = ['*'] && !quoted then chunksOfArguments quoted (← get).arguments
  else pure [.ofText quoted value]

/-- The chunks of a parameter. One that does not exist comes to nothing, unless an option forbids it. -/
def chunksOfParameter (quoted : Bool) (name : ByteText) : Shell (List Chunk) := do
  match ← Parameter.value? name with
  | some value => chunksOfValue quoted name value
  | none =>
    if ← Shell.hasOption 'u' then Parameter.refuse name "parameter not set".toList
    else pure [.ofText quoted []]

/-- Chunks that are there even if they are empty, where they are quoted. -/
def present (quoted : Bool) (cs : List Chunk) : List Chunk := if quoted then .solid true [] :: cs else cs

/-- The one text of some chunks. -/
def textOfChunks (cs : List Chunk) : ByteText := plainOf (markedOfChunks cs)

mutual

/-- What a piece of a word comes to, which is split into fields if `splits` is set. Text that is not quoted is split
inside a substitution. -/
def chunksOfPiece (capture : Capture) (splits inside : Bool) : Piece → Shell (List Chunk)
  | .text quoted t => pure [if quoted || !inside then .solid quoted t else .loose t]
  | .home => do
    let directory := (← Shell.valueOf "HOME".toList).getD ['~']
    pure (if directory.isEmpty then [] else [.solid true directory])
  | .output quoted command => return [.ofText quoted (← capture command)]
  | .arithmetic quoted pieces => do
    let t := textOfChunks (← chunksOf capture false false pieces)
    return [.ofText quoted (.ofInt (← Expression.eval t))]
  | .parameter quoted name use => chunksOfUse capture splits quoted name use

/-- What the use of a parameter comes to. -/
def chunksOfUse (capture : Capture) (splits quoted : Bool) (name : ByteText) : Use → Shell (List Chunk)
  | .plain => chunksOfParameter quoted name
  | .before word => return (← chunksOfParameter quoted name) ++ (← chunksOf capture splits false word)
  | .length => do
    let n ← match ← Parameter.value? name with
      | some value => pure value.length
      | none => if ← Shell.hasOption 'u' then Parameter.refuse name "parameter not set".toList else pure 0
    pure [.ofText quoted (.ofNat n)]
  | .otherwise orEmpty word => do
    match (← Parameter.value? name).filter fun v => !orEmpty || !v.isEmpty with
    | some value => chunksOfValue quoted name value
    | none => return present quoted (← chunksOf capture splits true word)
  | .instead orEmpty word => do
    match (← Parameter.value? name).filter fun v => !orEmpty || !v.isEmpty with
    | some _ => return present quoted (← chunksOf capture splits true word)
    | none => pure (present quoted [])
  | .assign orEmpty word => do
    match (← Parameter.value? name).filter fun v => !orEmpty || !v.isEmpty with
    | some value => chunksOfValue quoted name value
    | none =>
      let value := textOfChunks (← chunksOf capture false true word)
      if !isName name then Parameter.refuse name "bad variable name".toList
      Shell.assign name value
      pure [.ofText quoted value]
  | .require orEmpty word => do
    match (← Parameter.value? name).filter fun v => !orEmpty || !v.isEmpty with
    | some value => chunksOfValue quoted name value
    | none =>
      if word.isEmpty then
        Parameter.refuse name ("parameter not set".toList ++ (if orEmpty then " or null".toList else []))
      else Parameter.refuse name (textOfChunks (← chunksOf capture false true word))
  | .trim part word => do
    match ← Parameter.value? name with
    | some value =>
      let pattern := Pattern.ofMarked (markedOfChunks (← chunksOf capture false false word))
      if splits && (name = ['@'] || name = ['*'] && !quoted) then
        chunksOfArguments quoted (trimmedAmong part pattern (← get).arguments)
      else pure [.ofText quoted (trimmed part pattern value)]
    | none =>
      if ← Shell.hasOption 'u' then Parameter.refuse name "parameter not set".toList
      else pure [.ofText quoted []]
  | .unknown => Shell.fail "Bad substitution".toList

/-- What the pieces of a word come to. -/
def chunksOf (capture : Capture) (splits inside : Bool) : List Piece → Shell (List Chunk)
  | [] => pure []
  | piece :: pieces => do
    let first ← chunksOfPiece capture splits inside piece
    return first ++ (← chunksOf capture splits inside pieces)

end

/-! ### Words -/

/-- The text of a word that is not split, with its quoted characters marked. -/
def markedTextOf (capture : Capture) (word : Word) : Shell Marked :=
  return markedOfChunks (← chunksOf capture false false word)

/-- The text of a word that is not split. -/
def textOf (capture : Capture) (word : Word) : Shell ByteText := return plainOf (← markedTextOf capture word)

/-- The paths that a field stands for, or the field itself. -/
def pathsOf (field : Marked) : Shell (List ByteText) := do
  let paths ← if ← Shell.hasOption 'f' then pure [] else pathsMatching field
  return if paths.isEmpty then [plainOf field] else paths

/-- The fields of a word. -/
def fieldsOfWord (capture : Capture) (word : Word) : Shell (List ByteText) := do
  let fields := fieldsOfChunks (← separators) (← chunksOf capture true false word)
  return (← fields.mapM pathsOf).flatten

/-- The fields of words. -/
def fieldsOf (capture : Capture) (words : List Word) : Shell (List ByteText) :=
  return (← words.mapM (fieldsOfWord capture)).flatten

end Script

end LinearProgram
