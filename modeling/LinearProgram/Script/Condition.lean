import LinearProgram.Script.Arithmetic

/-!
The conditions that `test` looks at.

A condition is a list of words. What a word means depends on those around it: the same word may be an operator or a
text that is looked at.

* `ConditionOp`, `operatorOfWord?`: operators.
* `readEither`, `readAll`, `readPrimary`: conditions, by how closely their operators bind.
* `condition`: whether a condition holds.
-/

namespace LinearProgram

namespace Script

namespace Condition

/-! ### Operators -/

/-- What a word can be in a condition. -/
inductive Role where
  /-- An operator in front of one word. -/
  | unary
  /-- An operator between two words. -/
  | binary
  | negation
  | all
  | either
  | openParenthesis
  | closeParenthesis
  deriving DecidableEq

/-- The operators in front of one word. -/
def unaryOperators : List String :=
  ["-r", "-w", "-x", "-e", "-f", "-d", "-c", "-b", "-p", "-u", "-g", "-k", "-s", "-t", "-z", "-n", "-h", "-L", "-O",
   "-G", "-S"]

/-- The operators between two words. -/
def binaryOperators : List String :=
  ["=", "!=", "<", ">", "-eq", "-ne", "-lt", "-le", "-gt", "-ge", "-nt", "-ot", "-ef"]

/-- The characters that operators begin with. -/
def firstSigns : List Char := ['-', '=', '!', '<', '>', '(', ')']

/-- The role of a word by itself. -/
def roleOf? (word : ByteText) : Option Role :=
  let w := String.ofList word
  if !(word.head?.any firstSigns.contains) then none
  else if unaryOperators.contains w then some .unary
  else if binaryOperators.contains w then some .binary
  else [("!", Role.negation), ("-a", .all), ("-o", .either), ("(", .openParenthesis),
    (")", .closeParenthesis)].lookup w

/-- The role of the first of some words; an operator that cannot be one there is a word to be looked at. -/
def roleIn? : List ByteText → Option Role
  | [] => none
  | word :: rest =>
    match roleOf? word with
    | some .unary =>
      let isOperand : Bool := match rest with
        | [] => true
        | [_] => false
        | next :: _ => decide (roleOf? next = some .binary)
      if isOperand then none else some .unary
    | some .openParenthesis => if rest.isEmpty then none else some .openParenthesis
    | role => role

/-! ### Tests -/

/-- A condition that cannot be understood. -/
def refuse {α : Type} (word : ByteText) (reason : String) : Shell α :=
  Shell.fail (if word.isEmpty then reason.toList else word ++ ": ".toList ++ reason.toList)

/-- The number that a word writes. -/
def number (word : ByteText) : Shell Int := do
  match (readDecimal? word).filter fun n => saturated n = n with
  | some n => pure n
  | none => Shell.fail ("Illegal number: ".toList ++ word)

/-- Whether an operator holds of a word. -/
def unary (op : String) (word : ByteText) : Shell Bool := do
  if op = "-z" then pure word.isEmpty
  else if op = "-n" then pure !word.isEmpty
  else if op = "-t" then
    discard (number word)
    pure false
  else
    let fs ← Shell.files
    let path ← Shell.path word
    let node? := ((fs.find path).toOption).map Prod.snd
    let file? := (fs.file path).toOption
    let isDevice := node? matches some (.device _)
    match op with
    | "-h" => pure (match fs.findLink path with | .ok (_, .link _) => true | _ => false)
    | "-L" => pure (match fs.findLink path with | .ok (_, .link _) => true | _ => false)
    | "-d" => pure (node? = some .directory)
    | "-f" => pure file?.isSome
    | "-s" => pure (match file? with | some f => !f.bytes.isEmpty | none => node?.isSome && !isDevice)
    | "-x" => pure (match file? with | some f => f.executable | none => node?.isSome && !isDevice)
    | "-c" => pure isDevice
    | op => pure (["-e", "-r", "-w", "-O", "-G"].contains op && node?.isSome)

/-- Whether an operator holds of two words. -/
def binary (a : ByteText) (op : String) (b : ByteText) : Shell Bool := do
  match op with
  | "=" => pure (a = b)
  | "!=" => pure (a ≠ b)
  | "<" => pure (decide (a < b))
  | ">" => pure (decide (b < a))
  | "-eq" => return (← number a) = (← number b)
  | "-ne" => return (← number a) ≠ (← number b)
  | "-lt" => return (← number a) < (← number b)
  | "-le" => return (← number a) ≤ (← number b)
  | "-gt" => return (← number a) > (← number b)
  | "-ge" => return (← number a) ≥ (← number b)
  | "-ef" => return (← Shell.files).same (← Shell.path a) (← Shell.path b)
  | _ => pure false

/-! ### Conditions -/

mutual

/-- Whether a condition with `-o` holds, and the words behind it. The first word is looked at if `operand` is set. -/
def readEither : Nat → Bool → List ByteText → Shell (Bool × List ByteText)
  | 0, _, words => pure (false, words)
  | fuel + 1, operand, words => do
    let (holds, rest) ← readAll fuel operand words
    if roleIn? rest = some .either then
      let (other, rest) ← readEither fuel false (rest.drop 1)
      pure (holds || other, rest)
    else pure (holds, rest)

/-- Whether a condition with `-a` holds, and the words behind it. -/
def readAll : Nat → Bool → List ByteText → Shell (Bool × List ByteText)
  | 0, _, words => pure (false, words)
  | fuel + 1, operand, words => do
    let (holds, rest) ← readNegated fuel operand words
    if roleIn? rest = some .all then
      let (other, rest) ← readAll fuel false (rest.drop 1)
      pure (holds && other, rest)
    else pure (holds, rest)

/-- Whether a condition that may be negated holds, and the words behind it. -/
def readNegated : Nat → Bool → List ByteText → Shell (Bool × List ByteText)
  | 0, _, words => pure (false, words)
  | fuel + 1, operand, words => do
    if !operand && roleIn? words = some .negation then
      let (holds, rest) ← readNegated fuel false (words.drop 1)
      pure (!holds, rest)
    else readPrimary fuel operand words

/-- Whether a condition without operators between conditions holds, and the words behind it. -/
def readPrimary : Nat → Bool → List ByteText → Shell (Bool × List ByteText)
  | 0, _, words => pure (false, words)
  | _, _, [] => pure (false, [])
  | fuel + 1, operand, word :: rest => do
    let role := if operand then none else roleIn? (word :: rest)
    match role, rest with
    | some .openParenthesis, rest =>
      if roleIn? rest = some .closeParenthesis then pure (false, rest.drop 1)
      else
        let (holds, rest) ← readEither fuel false rest
        if roleIn? rest = some .closeParenthesis then pure (holds, rest.drop 1)
        else refuse [] "closing paren expected"
    | some .unary, [] => refuse word "argument expected"
    | some .unary, other :: rest => return (← unary (String.ofList word) other, rest)
    | _, rest =>
      if roleIn? rest = some .binary then
        match rest with
        | op :: other :: rest => return (← binary word (String.ofList op) other, rest)
        | _ => refuse (rest.headD []) "argument expected"
      else pure (!word.isEmpty, rest)

end

/-- Whether a condition holds, perhaps turned round. -/
def evalFrom : Nat → List ByteText → Shell Bool
  | _, [] => pure false
  | 0, _ => pure false
  | fuel + 1, words => do
    let isShort := words.length = 3 || words.length = 4
    let operand := words.length = 3 && (words[1]?.bind roleOf?) = some .binary
    if isShort && !operand && words.head? = some ['!'] then return !(← evalFrom fuel (words.drop 1))
    let words :=
      if isShort && !operand && words.head? = some ['('] && words.getLast? = some [')'] then (words.drop 1).dropLast
      else words
    let (holds, rest) ← readEither (6 * words.length + 6) operand words
    match rest with
    | [] => pure holds
    | rest => refuse (words[words.length - rest.length - 1]?.getD []) "unexpected operator"

/-- Whether a condition holds. -/
def eval (words : List ByteText) : Shell Bool := evalFrom (words.length + 1) words

end Condition

end Script

end LinearProgram
