import LinearProgram.Script.Utility.Regex.Set

/-!
Reading regular expressions.

There are two notations: in the basic one most operators have a backslash in front, in the extended one they stand by
themselves. Utilities differ in what they make of an operator with nothing in front of it.

* `Style`: how an expression is written and what it means.
* `Sign`, `signOf?`: the operators.
* `interval?`: how often something may be repeated.
* `Regex.read`: the expression that a text writes, with the operators that have nothing in front of them.
-/

namespace LinearProgram

namespace Script

namespace Regex

/-! ### Notation -/

/-- How an expression is written and what it means. -/
structure Style where
  extended : Bool
  /-- Whether operators with nothing in front of them are faults. -/
  strict : Bool
  /-- Whether more letters have a meaning behind a backslash. -/
  rich : Bool
  /-- Whether small and capital letters are the same. -/
  folded : Bool
  /-- Whether each line of a text has a beginning and an end of its own. -/
  byLines : Bool

/-- The beginning of a text, or of a line in it. -/
def Style.front (n : Style) : Regex :=
  if n.byLines then .between fun before _ => before.all (· = '\n') else start

/-- The end of a text, or of a line in it. -/
def Style.back (n : Style) : Regex := if n.byLines then .between fun _ after => after.all (· = '\n') else stop

/-- Whether a character is a blank. -/
def isBlankSign (c : Char) : Bool := " \t\n\r\x0b\x0c".toList.contains c

/-- The places that a letter behind a backslash means. -/
def placeOf? (c : Char) : Option Regex :=
  match c with
  | 'b' => some (.between fun a b => isWordSide a != isWordSide b)
  | 'B' => some (.between fun a b => isWordSide a == isWordSide b)
  | '<' => some (.between fun a b => !isWordSide a && isWordSide b)
  | '>' => some (.between fun a b => isWordSide a && !isWordSide b)
  | '\x60' => some start
  | '\'' => some stop
  | _ => none

/-- The characters that a letter behind a backslash means. -/
def testOf (n : Style) (c : Char) : Char → Bool :=
  match c, n.rich with
  | 'w', _ => isWordChar
  | 'W', _ => fun c => !isWordChar c
  | 's', _ => isBlankSign
  | 'S', _ => fun c => !isBlankSign c
  | 'd', true => Char.isDigit
  | 'D', true => fun c => !c.isDigit
  | 'n', true => fun c => c = '\n'
  | 't', true => fun c => c = '\t'
  | c, _ => foldedTest n.folded fun d => d = c

/-- An operator. -/
inductive Sign where
  | groupStart
  | groupEnd
  | bar
  | star
  | plus
  | question
  | brace
  deriving DecidableEq

/-- The signs by their characters. -/
def signs : List (Char × Sign) :=
  [('(', .groupStart), (')', .groupEnd), ('|', .bar), ('+', .plus), ('?', .question), ('\x7b', .brace)]

/-- The operator that a text begins with, and the rest. -/
def signOf? (extended : Bool) (t : List Char) : Option (Sign × List Char) :=
  match extended, t with
  | _, '*' :: rest => some (.star, rest)
  | true, c :: rest => (signs.lookup c).map fun sign => (sign, rest)
  | false, '\\' :: c :: rest => (signs.lookup c).map fun sign => (sign, rest)
  | _, _ => none

/-- Whether an expression, or a part of it in a group, ends in front of a text. -/
def endsBefore (extended : Bool) (t : List Char) : Bool :=
  match signOf? extended t with
  | some (.groupEnd, _) => true
  | some (.bar, _) => true
  | _ => t.isEmpty

/-! ### Intervals -/

/-- What a part of an interval ends with. -/
inductive BoundEnd where
  | ended
  | comma
  | closed
  deriving DecidableEq

/-- The part of an interval that a text begins with, what it ends with, and the rest. -/
def boundAt (extended : Bool) : List Char → List Char × BoundEnd × List Char
  | [] => ([], .ended, [])
  | '\\' :: c :: cs =>
    if c = '\x7d' && !extended then ([], .closed, cs)
    else
      let (part, stop, rest) := boundAt extended cs
      ('\\' :: c :: part, stop, rest)
  | c :: cs =>
    if c = ',' then ([], .comma, cs)
    else if c = '\x7d' && extended then ([], .closed, cs)
    else
      let (part, stop, rest) := boundAt extended cs
      (c :: part, stop, rest)

/-- The greatest number of repetitions that can be told. -/
def mostRepetitions : Nat := 32767

/-- The bounds that an interval tells, from behind its opening brace, and what is behind its closing one. Something
else may stand for itself if the style puts up with it. -/
def interval? (n : Style) (t : List Char) : Except Fault (Option (Nat × Option Nat × List Char)) :=
  let misread (stop : BoundEnd) : Except Fault (Option (Nat × Option Nat × List Char)) :=
    if n.extended && !n.strict then .ok none
    else if stop = .ended then .error .interval else .error .bounds
  let checked (low : Nat) (high : Option Nat) (rest : List Char) :
      Except Fault (Option (Nat × Option Nat × List Char)) :=
    if high.any fun h => decide (h < low) then .error .bounds
    else if mostRepetitions < high.getD low then .error .size
    else .ok (some (low, high, rest))
  let (part, stop, rest) := boundAt n.extended t
  if stop = .ended || !part.all isDigit then misread stop
  else
    let low := valueOfDigits part
    match part.isEmpty, stop with
    | true, .closed => .error .bounds
    | _, .closed => checked low (some low) rest
    | _, _ =>
      let (part, stop, rest) := boundAt n.extended rest
      if stop = .ended || !part.all isDigit then misread stop
      else if stop = .comma then .error .bounds
      else checked low (if part.isEmpty then none else some (valueOfDigits part)) rest

/-! ### Expressions -/

/-- What has been read of an expression. -/
structure Progress where
  /-- How many groups have begun. -/
  groups : Nat
  /-- The groups that have ended. -/
  closed : List Nat
  /-- The operators with nothing in front of them, the last one first. -/
  bare : List Sign
  /-- Whether a set looks like the name of a class. -/
  isLikeClass : Bool

/-- The expression that is read, what has been read so far, and what is left. -/
abbrev Reading := Except Fault (Regex × Progress × List Char)

/-- The expression with the operators for repetition that a text begins with. -/
def readRepetitions (n : Style) : Nat → Regex → List Char → Except Fault (Regex × List Char)
  | 0, r, t => .ok (r, t)
  | fuel + 1, r, t =>
    let again (low : Nat) (high : Option Nat) (rest : List Char) : Except Fault (Regex × List Char) :=
      let isRefused := match signOf? n.extended rest with
        | some (.star, _) => n.strict && !n.extended
        | some (.brace, _) => n.strict && !n.extended
        | _ => false
      if isRefused then .error .repetition else readRepetitions n fuel (.repeated low high r) rest
    match signOf? n.extended t with
    | some (.star, rest) => again 0 none rest
    | some (.plus, rest) => again 1 none rest
    | some (.question, rest) => again 0 (some 1) rest
    | some (.brace, rest) => do
      match ← interval? n rest with
      | some (low, high, rest) => again low high rest
      | none => .ok (r, t)
    | _ => .ok (r, t)

/-- The operator for repetition that a text begins with. -/
def repetitionAt? (n : Style) (t : List Char) : Option Sign :=
  match signOf? n.extended t with
  | some (.star, _) => some .star
  | some (.plus, _) => some .plus
  | some (.question, _) => some .question
  | some (.brace, rest) => if (interval? n rest) matches .ok none then none else some .brace
  | _ => none

mutual

/-- Read alternatives. -/
def readEither (n : Style) : Nat → Nat → Progress → List Char → Reading
  | 0, _, _, _ => .error .size
  | fuel + 1, depth, p, t => do
    let (a, p, rest) ← readSequence n fuel depth p true t
    match signOf? n.extended rest with
    | some (.bar, rest) =>
      let (b, p, rest) ← readEither n fuel depth p rest
      .ok (.either a b, p, rest)
    | _ => .ok (a, p, rest)

/-- Read expressions one after the other. In the basic notation operators for repetition stand for themselves where
they get here, since there is nothing in front of them. -/
def readSequence (n : Style) : Nat → Nat → Progress → Bool → List Char → Reading
  | 0, _, _, _, _ => .error .size
  | fuel + 1, depth, p, atStart, t =>
    match t with
    | [] => .ok (.empty, p, [])
    | c :: cs =>
      match signOf? n.extended t, n.extended with
      | some (.bar, _), _ => .ok (.empty, p, t)
      | some (.groupEnd, _), extended =>
        if 0 < depth then .ok (.empty, p, t)
        else if extended && !n.strict then atom fuel depth p (.one fun d => d = c) cs
        else .error .groupEnd
      | some (.groupStart, rest), _ => do
        let number := p.groups + 1
        let (inner, p, rest) ← readEither n fuel (depth + 1) { p with groups := number } rest
        match signOf? n.extended rest with
        | some (.groupEnd, rest) =>
          atom fuel depth { p with closed := number :: p.closed } (.group number inner) rest
        | _ => .error .groupStart
      | some (.brace, rest), false =>
        if n.strict then .error .repetition else atom fuel depth p (.one fun d => d = '\x7b') rest
      | some (.star, rest), false => atom fuel depth p (.one fun d => d = '*') rest
      | sign?, extended =>
        if extended && atStart && (repetitionAt? n t).isSome then
          if n.strict then .error .repetition
          else atom fuel depth { p with bare := (repetitionAt? n t).toList ++ p.bare } .empty t
        else if extended && atStart && n.strict && sign?.any fun sign => sign.1 = .brace then .error .repetition
        else
          match c, cs with
          | '^', cs =>
            if extended || atStart then place fuel depth p n.front cs
            else atom fuel depth p (.one fun d => d = '^') cs
          | '$', cs =>
            if extended || endsBefore false cs then place fuel depth p n.back cs
            else atom fuel depth p (.one fun d => d = '$') cs
          | '.', cs => atom fuel depth p (.one fun d => !ByteText.isStray d) cs
          | '[', cs => do
            let (test, isLikeClass, rest) ← readSet n.folded cs
            atom fuel depth { p with isLikeClass := p.isLikeClass || isLikeClass }
              (.one fun d => test d && !ByteText.isStray d) rest
          | '\\', [] => .error .escape
          | '\\', e :: cs =>
            if '1' ≤ e ∧ e ≤ '9' then
              let number := digitValue e
              if p.closed.contains number then atom fuel depth p (.again number n.folded) cs else .error .reference
            else
              match placeOf? e with
              | some r => place fuel depth p r cs
              | none => atom fuel depth p (.one (testOf n e)) cs
          | c, cs => atom fuel depth p (.one (foldedTest n.folded fun d => d = c)) cs
where
  /-- Read what is behind an expression that is read as a whole. -/
  atom (fuel depth : Nat) (p : Progress) (r : Regex) (rest : List Char) : Reading := do
    let (r, rest) ← readRepetitions n (rest.length + 1) r rest
    let (next, p, rest) ← readSequence n fuel depth p false rest
    .ok (.sequence r next, p, rest)
  /-- Read what is behind an expression for a place, which is not repeated unless the style puts up with it. -/
  place (fuel depth : Nat) (p : Progress) (r : Regex) (rest : List Char) : Reading := do
    if n.extended && !n.strict then
      atom fuel depth { p with bare := (repetitionAt? n rest).toList ++ p.bare } r rest
    else
      let (next, p, rest) ← readSequence n fuel depth p n.extended rest
      .ok (.sequence r next, p, rest)

end

/-- The expression that a text writes, and the operators in it that have nothing in front of them. -/
def read (n : Style) (t : ByteText) : Except Fault (Regex × List Sign) := do
  let (r, p, _) ← readEither n (2 * t.length + 2) 0 ⟨0, [], [], false⟩ t.characters
  if p.isLikeClass then throw .likeClass
  .ok (r, p.bare.reverse)

end Regex

end Script

end LinearProgram
