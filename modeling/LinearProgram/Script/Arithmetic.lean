import LinearProgram.Script.Numeral
import LinearProgram.Script.Stream

/-!
Arithmetic in scripts: whole numbers of 64 bits, with the operators of expressions and parameters that can be set.

A parameter is set where an expression begins, be it the whole one, one in parentheses, one that another parameter is
set to, or the first alternative of a choice; nowhere else. A text that is no expression is flawed from some place on,
and what stands in front of that place takes effect before the flaw is told.

* `Expression`: an expression as a tree, as far as the text can be read.
* `Expression.read`: the expression that a text writes.
* `Expression.flaw?`: what is wrong with the text.
* `Expression.eval`: its value; parameters may change on the way.
-/

namespace LinearProgram

namespace Script

/-! ### Words -/

/-- The number of values of a 64-bit word. -/
def wordCount : Nat := 18446744073709551616

/-- The greatest signed 64-bit word. -/
def largestWord : Int := 9223372036854775807

/-- An integer brought into the range of signed 64-bit words. -/
def wrapped (n : Int) : Int := Int.bmod n wordCount

/-- The signed 64-bit word that is nearest to an integer. -/
def saturated (n : Int) : Int := max (-largestWord - 1) (min largestWord n)

/-! ### Expressions -/

/-- An operator between two expressions. -/
inductive BinaryOp where
  | mul | div | mod | add | sub | shiftLeft | shiftRight | less | lessEqual | greater | greaterEqual | equal
  | unequal | bitAnd | bitXor | bitOr | both | either
  deriving DecidableEq

/-- What is wrong with an expression. -/
inductive ExpressionFault where
  /-- There is no operand where one has to be. -/
  | noOperand
  /-- A parenthesis is not closed behind an expression. -/
  | notClosed
  /-- There is no second alternative behind the first one. -/
  | noAlternative
  /-- There is more behind the expression. -/
  | surplus
  | divisionByZero
  deriving DecidableEq

/-- What is said about an expression. -/
def ExpressionFault.message : ExpressionFault → String
  | noOperand => "expecting primary"
  | notClosed => "expecting ')'"
  | noAlternative => "expecting ':'"
  | surplus => "expecting EOF"
  | divisionByZero => "division by zero"

/-- An arithmetic expression. -/
inductive Expression where
  | number (n : Int)
  | parameter (name : ByteText)
  /-- The value with the other sign. -/
  | negated (a : Expression)
  /-- One for zero, and zero for anything else. -/
  | opposite (a : Expression)
  /-- The value with all its bits turned over. -/
  | complement (a : Expression)
  | binary (op : BinaryOp) (a b : Expression)
  /-- The second one if the first is not zero, and the third one if it is. -/
  | choice (a b c : Expression)
  /-- A parameter that gets a value, perhaps made from the one it has. -/
  | assign (name : ByteText) (op : Option BinaryOp) (a : Expression)
  /-- An expression behind which the text is flawed. -/
  | flawed (a : Expression) (fault : ExpressionFault)

namespace Expression

/-- What is wrong with the text of an expression, if anything is. -/
def flaw? : Expression → Option ExpressionFault
  | number _ | parameter _ => none
  | negated a | opposite a | complement a | assign _ _ a => a.flaw?
  | binary _ a b => a.flaw?.orElse fun _ => b.flaw?
  | choice a b c => (a.flaw?.orElse fun _ => b.flaw?).orElse fun _ => c.flaw?
  | flawed a fault => some (a.flaw?.getD fault)

/-! ### Signs -/

/-- The operators by their signs, longer signs first, with how closely they bind. -/
def operators : List (ByteText × BinaryOp × Nat) := List.map (fun e => (e.1.toList, e.2))
  [("<<", .shiftLeft, 8), (">>", .shiftRight, 8), ("<=", .lessEqual, 7), (">=", .greaterEqual, 7),
   ("==", .equal, 6), ("!=", .unequal, 6), ("&&", .both, 2), ("||", .either, 1), ("*", .mul, 10), ("/", .div, 10),
   ("%", .mod, 10), ("+", .add, 9), ("-", .sub, 9), ("<", .less, 7), (">", .greater, 7), ("&", .bitAnd, 5),
   ("^", .bitXor, 4), ("|", .bitOr, 3)]

/-- The signs that set a parameter. -/
def assignments : List (ByteText × Option BinaryOp) := List.map (fun e => (e.1.toList, e.2))
  [("<<=", some .shiftLeft), (">>=", some .shiftRight), ("*=", some .mul), ("/=", some .div), ("%=", some .mod),
   ("+=", some .add), ("-=", some .sub), ("&=", some .bitAnd), ("^=", some .bitXor), ("|=", some .bitOr), ("=", none)]

/-- The rest of a text behind a sign, if it begins with it. -/
def behind? (sign t : ByteText) : Option ByteText :=
  if sign.isPrefixOf t then some (t.drop sign.length) else none

/-- A text without the blanks it begins with. -/
def skipBlanks (t : ByteText) : ByteText := t.dropWhile fun c => " \t\n".toList.contains c

/-- The assignment that a text begins with. -/
def assignmentOf? (t : ByteText) : Option (Option BinaryOp × ByteText) :=
  if "==".toList.isPrefixOf t then none
  else assignments.findSome? fun (sign, op) => (behind? sign t).map fun rest => (op, rest)

/-- The operator that a text begins with, unless it is part of an assignment. -/
def operatorOf? (t : ByteText) : Option (BinaryOp × Nat × ByteText) :=
  if (assignmentOf? t).isSome then none
  else operators.findSome? fun (sign, op, level) => (behind? sign t).map fun rest => (op, level, rest)

/-! ### Reading -/

/-- An expression at the front of a text, and the rest; or one that ends in a flaw. -/
abbrev Reading := Except Expression (Expression × ByteText)

/-- A reading that finds no operand. -/
def noOperand : Reading := .error (.flawed (.number 0) .noOperand)

/-- A parameter at the front of a text that is set, with the rest behind the sign. -/
def assignedFront? (t : ByteText) : Option (ByteText × Option BinaryOp × ByteText) :=
  let name := t.takeWhile continuesName
  if !(t.head?.map beginsName).getD false then none
  else (assignmentOf? (skipBlanks (t.drop name.length))).map fun found => (name, found)

mutual

/-- Read an operand: a number, a parameter, an expression in parentheses, or a sign and an operand. -/
def readOperand : Nat → ByteText → Reading
  | 0, _ => noOperand
  | fuel + 1, t =>
    match skipBlanks t with
    | '(' :: rest => do
      let (a, rest) ← readAll fuel rest
      match skipBlanks rest with
      | ')' :: rest => .ok (a, rest)
      | _ => .error (.flawed a .notClosed)
    | '-' :: rest => do
      let (a, rest) ← (readOperand fuel rest).mapError .negated
      .ok (.negated a, rest)
    | '+' :: rest => readOperand fuel rest
    | '!' :: rest => do
      let (a, rest) ← (readOperand fuel rest).mapError .opposite
      .ok (.opposite a, rest)
    | '~' :: rest => do
      let (a, rest) ← (readOperand fuel rest).mapError .complement
      .ok (.complement a, rest)
    | t =>
      match magnitudeFront? t with
      | some (n, rest) => .ok (.number n, rest)
      | none =>
        if (t.head?.map beginsName).getD false then
          let name := t.takeWhile continuesName
          .ok (.parameter name, t.drop name.length)
        else noOperand

/-- Read what is joined to an operand by operators that bind as closely as a level or more. -/
def readJoined : Nat → Nat → Expression → ByteText → Reading
  | 0, _, a, t => .ok (a, t)
  | fuel + 1, level, a, t =>
    match operatorOf? (skipBlanks t) with
    | none => .ok (a, t)
    | some (op, own, rest) =>
      if own < level then .ok (a, t)
      else do
        let (b, rest) ← (readOperand fuel rest).mapError (.binary op a)
        let (b, rest) ← (readJoined fuel (own + 1) b rest).mapError (.binary op a)
        readJoined fuel level (.binary op a b) rest

/-- Read an expression that sets no parameter, perhaps a choice. -/
def readChoice : Nat → ByteText → Reading
  | 0, _ => noOperand
  | fuel + 1, t => do
    let (a, rest) ← readOperand fuel t
    let (a, rest) ← readJoined fuel 0 a rest
    match skipBlanks rest with
    | '?' :: rest =>
      let (b, rest) ← (readAll fuel rest).mapError fun b => .choice a b (.number 0)
      match skipBlanks rest with
      | ':' :: rest =>
        let (c, rest) ← (readChoice fuel rest).mapError (.choice a b)
        .ok (.choice a b c, rest)
      | _ => .error (.choice a (.flawed b .noAlternative) (.number 0))
    | _ => .ok (a, rest)

/-- Read an expression, which may set a parameter. -/
def readAll : Nat → ByteText → Reading
  | 0, _ => noOperand
  | fuel + 1, t =>
    match assignedFront? (skipBlanks t) with
    | some (name, op, rest) => do
      let (a, rest) ← (readAll fuel rest).mapError (.assign name op)
      .ok (.assign name op a, rest)
    | none => readChoice fuel t

end

/-- The expression that a text writes, as far as it does. -/
def read (t : ByteText) : Expression :=
  match readAll (4 * t.length + 4) t with
  | .ok (a, rest) => if (skipBlanks rest).isEmpty then a else .flawed a .surplus
  | .error a => a

/-! ### Values -/

/-- One for what holds and zero for what does not. -/
def truth (b : Bool) : Int := if b then 1 else 0

/-- The bits of an integer as a natural number. -/
def bits (n : Int) : Nat := (n % wordCount).toNat

/-- The value of two words with an operator between them. A division by zero has none. -/
def combine (op : BinaryOp) (m n : Int) : Option Int :=
  match op with
  | .mul => some (wrapped (m * n))
  | .div => if n = 0 then none else some (wrapped (m.tdiv n))
  | .mod => if n = 0 then none else some (wrapped (m.tmod n))
  | .add => some (wrapped (m + n))
  | .sub => some (wrapped (m - n))
  | .shiftLeft => some (wrapped (m * Nat.pow 2 (bits n % 64)))
  | .shiftRight => some (m.shiftRight (bits n % 64))
  | .less => some (truth (m < n))
  | .lessEqual => some (truth (m ≤ n))
  | .greater => some (truth (n < m))
  | .greaterEqual => some (truth (n ≤ m))
  | .equal => some (truth (m = n))
  | .unequal => some (truth (m ≠ n))
  | .bitAnd => some (wrapped (Nat.land (bits m) (bits n)))
  | .bitXor => some (wrapped (Nat.xor (bits m) (bits n)))
  | .bitOr => some (wrapped (Nat.lor (bits m) (bits n)))
  | .both => some (truth (m ≠ 0 ∧ n ≠ 0))
  | .either => some (truth (m ≠ 0 ∨ n ≠ 0))

/-- The signal for a process that divides the least word by minus one, the result of which is no word. -/
def overflowSignal : Nat := 8

/-- Whether the result of a division is no word. -/
def overflows (op : BinaryOp) (m n : Int) : Bool := (op = .div || op = .mod) && m = -largestWord - 1 && n = -1

/-- Complain about an expression that is a text. -/
def refuse {α : Type} (t : ByteText) (fault : ExpressionFault) : Shell α :=
  Shell.fail ("arithmetic expression: ".toList ++ fault.message.toList ++ ": \"".toList ++ t ++ ['"'])

/-- The value of two words with an operator between them, in an expression that is a text. -/
def join (t : ByteText) (op : BinaryOp) (m n : Int) : Shell Int := do
  if overflows op m n then throw (.killed (← get).number overflowSignal)
  match combine op m n with
  | some n => pure n
  | none => refuse t .divisionByZero

/-- The value of a parameter as a number. -/
def parameterValue (name : ByteText) : Shell Int := do
  match ← Shell.valueOf name with
  | none => pure 0
  | some value =>
    if isBlankText value then pure 0
    else
      match (readInteger? value).filter fun n => saturated n = n with
      | some n => pure n
      | none => Shell.fail ("Illegal number: ".toList ++ value)

/-- Pass over an expression whose value is not wanted, in a text that may be flawed there. -/
def passOver (t : ByteText) (a : Expression) : Shell Unit := do
  if let some fault := a.flaw? then refuse t fault

/-- The value of an expression that is part of a text. -/
def evalIn (t : ByteText) : Expression → Shell Int
  | number n => pure (saturated n)
  | parameter name => parameterValue name
  | negated a => return wrapped (-(← evalIn t a))
  | opposite a => return truth ((← evalIn t a) = 0)
  | complement a => return -(← evalIn t a) - 1
  | binary .both a b => do
    if (← evalIn t a) ≠ 0 then return truth ((← evalIn t b) ≠ 0)
    passOver t b
    pure 0
  | binary .either a b => do
    if (← evalIn t a) = 0 then return truth ((← evalIn t b) ≠ 0)
    passOver t b
    pure 1
  | binary op a b => do
    let m ← evalIn t a
    let n ← evalIn t b
    join t op m n
  | choice a b c => do
    if (← evalIn t a) ≠ 0 then
      let n ← evalIn t b
      passOver t c
      pure n
    else
      passOver t b
      evalIn t c
  | assign name op a => do
    let n ← evalIn t a
    let n ← match op with
      | none => pure n
      | some op => join t op (← parameterValue name) n
    Shell.assign name (.ofInt n)
    pure n
  | flawed a fault => do
    discard (evalIn t a)
    refuse t fault

/-- The value of the expression that a text writes. -/
def eval (t : ByteText) : Shell Int := evalIn t (read t)

end Expression

end Script

end LinearProgram
