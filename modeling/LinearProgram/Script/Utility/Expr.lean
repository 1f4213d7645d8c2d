import LinearProgram.Script.Utility.Basic
import LinearProgram.Script.Utility.Regex.Reader

/-!
Values of expressions, the operators and operands of which are arguments.

* `Expr.integer?`, `Expr.isNull`: values as numbers and as truth values.
* `Expr.matched`, `Expr.combine`: the values of two values with an operator between them.
* `Expr.readLevel`: the value of an expression by how closely its operators bind.
* `expr`: the value of the arguments.
-/

namespace LinearProgram

namespace Script

namespace Utility

namespace Expr

/-! ### Values -/

/-- The integer that a word writes. -/
def integer? (t : ByteText) : Option Int :=
  let digits := if t.head? = some '-' then t.drop 1 else t
  if digits.isEmpty || !digits.all isDigit then none
  else
    let n : Int := valueOfDigits digits
    some (if t.head? = some '-' then -n else n)

/-- Whether a value counts as false. -/
def isNull (t : ByteText) : Bool := t.isEmpty || integer? t = some 0

/-- What can be wrong with an expression. -/
inductive Fault where
  | missing
  | unclosed
  | notClosed (word : ByteText)
  | unopened
  | unexpected (word : ByteText)
  | noInteger
  | divisionByZero
  | pattern (fault : Regex.Fault)

/-- What is said about a fault, given the last argument. -/
def Fault.message (last : ByteText) : Fault → ByteText
  | missing => "syntax error: missing argument after ".toList ++ quoted last
  | unclosed => "syntax error: expecting ')' after ".toList ++ quoted last
  | notClosed word => "syntax error: expecting ')' instead of ".toList ++ quoted word
  | unopened => "syntax error: unexpected ')'".toList
  | unexpected word => "syntax error: unexpected argument ".toList ++ quoted word
  | noInteger => "non-integer argument".toList
  | divisionByZero => "division by zero".toList
  | pattern fault => fault.message.toList

/-- What a text and an expression have in common: the group of the expression, or the length of the match. -/
def matched (t pattern : ByteText) : Except Fault ByteText := do
  let (r, _) ← (Regex.read ⟨false, false, false, false, false⟩ pattern).mapError Fault.pattern
  let hasGroup := (suffixes pattern).any fun s => "\\(".toList.isPrefixOf s
  let s := Regex.subject t
  match r.matchAt s (fun _ _ => true) 0 with
  | some m =>
    .ok (if hasGroup then m.groupText s 1 else .ofNat (ByteText.characters (Regex.slice s 0 m.stop)).length)
  | none => .ok (if hasGroup then [] else ['0'])

/-- The operators between two values, those that bind less closely first. -/
def operators : List (List String) :=
  [["|"], ["&"], ["<", "<=", "=", "==", "!=", ">=", ">"], ["+", "-"], ["*", "/", "%"], [":"]]

/-- The value of two values with an operator between them that needs both. -/
def combine (op : String) (a b : ByteText) : Except Fault ByteText :=
  let compare (holds : Ordering → Bool) : Except Fault ByteText :=
    let known := match integer? a, integer? b with
      | some m, some n => orderOf m n
      | _, _ => orderOf a b
    .ok (if holds known then ['1'] else ['0'])
  let compute (f : Int → Int → Except Fault Int) : Except Fault ByteText :=
    match integer? a, integer? b with
    | some m, some n => (f m n).map ByteText.ofInt
    | _, _ => .error .noInteger
  match op with
  | "<" => compare fun o => o = .lt
  | "<=" => compare fun o => o ≠ .gt
  | "=" | "==" => compare fun o => o = .eq
  | "!=" => compare fun o => o ≠ .eq
  | ">=" => compare fun o => o ≠ .lt
  | ">" => compare fun o => o = .gt
  | "+" => compute fun m n => .ok (m + n)
  | "-" => compute fun m n => .ok (m - n)
  | "*" => compute fun m n => .ok (m * n)
  | "/" => compute fun m n => if n = 0 then .error .divisionByZero else .ok (m.tdiv n)
  | "%" => compute fun m n => if n = 0 then .error .divisionByZero else .ok (m.tmod n)
  | _ => matched a b

/-- The value of two values, of which the first one may tell that the second one does not count. -/
def choose (op : String) (a b : ByteText) : ByteText :=
  if op = "|" then (if !isNull a then a else if !isNull b then b else ['0'])
  else if isNull a || isNull b then ['0'] else a

/-! ### Reading -/

/-- What is read of an expression: its value, and the words behind it. -/
abbrev Reading := Except Fault (ByteText × List ByteText)

mutual

/-- Read a word or what its keyword calls for. What does not count, `counts` being unset, is read and not matched. -/
def readTerm : Nat → Bool → List ByteText → Reading
  | 0, _, _ => .error .missing
  | _, _, [] => .error .missing
  | fuel + 1, counts, word :: rest => do
    match String.ofList word with
    | "+" =>
      match rest with
      | [] => .error .missing
      | other :: rest => .ok (other, rest)
    | "length" =>
      let (a, rest) ← readTerm fuel counts rest
      .ok (.ofNat a.characters.length, rest)
    | "match" =>
      let (a, rest) ← readTerm fuel counts rest
      let (b, rest) ← readTerm fuel counts rest
      return (← if counts then matched a b else .ok a, rest)
    | "index" =>
      let (a, rest) ← readTerm fuel counts rest
      let (b, rest) ← readTerm fuel counts rest
      let found := (a.characters.zipIdx 1).find? fun e => b.characters.contains e.1
      .ok (.ofNat ((found.map Prod.snd).getD 0), rest)
    | "substr" =>
      let (a, rest) ← readTerm fuel counts rest
      let (b, rest) ← readTerm fuel counts rest
      let (c, rest) ← readTerm fuel counts rest
      match integer? b, integer? c with
      | some start, some count =>
        if start ≤ 0 || count ≤ 0 then .ok ([], rest)
        else .ok (.ofCharacters ((a.characters.drop (start.toNat - 1)).take count.toNat), rest)
      | _, _ => .ok ([], rest)
    | "(" =>
      let (a, rest) ← readLevel fuel 0 counts rest
      match rest with
      | [')'] :: rest => .ok (a, rest)
      | [] => .error .unclosed
      | other :: _ => .error (.notClosed other)
    | ")" => .error .unopened
    | _ => .ok (word, rest)

/-- Read operands with operators between them that bind as closely as a level or more. -/
def readLevel : Nat → Nat → Bool → List ByteText → Reading
  | 0, _, _, _ => .error .missing
  | fuel + 1, level, counts, words => do
    if operators.length ≤ level then readTerm fuel counts words
    else
      let (a, rest) ← readLevel fuel (level + 1) counts words
      readJoined fuel level counts a rest

/-- Read what is joined to a value by operators of a level. -/
def readJoined : Nat → Nat → Bool → ByteText → List ByteText → Reading
  | 0, _, _, _, _ => .error .missing
  | _, _, _, a, [] => .ok (a, [])
  | fuel + 1, level, counts, a, op :: rest => do
    let name := String.ofList op
    if !(operators[level]?.getD []).contains name then .ok (a, op :: rest)
    else
      let goesOn := counts && if name = "|" then isNull a else name ≠ "&" || !isNull a
      let (b, rest) ← readLevel fuel (level + 1) goesOn rest
      let value ← if name = "|" || name = "&" then .ok (choose name a b)
        else if counts then combine name a b
        else .ok (if level = 2 then ['0'] else a)
      readJoined fuel level counts value rest

end

/-- The value of words that are an expression as a whole. -/
def value (words : List ByteText) : Except Fault ByteText := do
  match ← readLevel (9 * words.length + 9) 0 true words with
  | (a, []) => .ok a
  | (_, word :: _) => .error (.unexpected word)

end Expr

/-- Write the value of an expression. -/
def expr : Utility := fun name arguments => do
  let arguments := if arguments.head? = some ['-', '-'] then arguments.drop 1 else arguments
  if arguments.isEmpty then misuse name "missing operand".toList 2
  else
    match Expr.value arguments with
    | .ok value =>
      Shell.sayLine value
      pure (if Expr.isNull value then 1 else 0)
    | .error fault => refuse name (fault.message (arguments.getLast?.getD [])) 2

end Utility

end Script

end LinearProgram
