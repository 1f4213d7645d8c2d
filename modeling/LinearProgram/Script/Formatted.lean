import LinearProgram.Number.Shortest
import LinearProgram.Script.Arithmetic

/-!
Formatted output, with escape sequences and conversions.

* `escaped`, `unescape`: escape sequences.
* `Conversion`: how an argument is to be written, with `padded` to bring a text to its width.
* `fixedDigits`, `scientificDigits`, `generalDigits`: the digits of a number to a precision.
* `formatted`: what a format makes of arguments.
-/

namespace LinearProgram

namespace Script

/-! ### Escape sequences -/

/-- The value of up to `n` octal digits, and the rest. -/
def octal : Nat → Nat → ByteText → Nat × ByteText
  | 0, value, cs => (value, cs)
  | _, value, [] => (value, [])
  | n + 1, value, c :: cs =>
    if '0' ≤ c ∧ c ≤ '7' then octal n (8 * value + digitValue c) cs else (value, c :: cs)

/-- The characters that single letters behind a backslash stand for. -/
def escapes : List (Char × Char) :=
  [('a', '\x07'), ('b', '\x08'), ('e', '\x1b'), ('f', '\x0c'), ('n', '\n'), ('r', '\r'), ('t', '\t'), ('v', '\x0b'),
   ('\\', '\\')]

/-- The character of a byte. -/
def byteChar (n : Nat) : Char := Char.ofNat (n % 256)

/-- The character that an escape sequence stands for, from behind its backslash, and the rest. A zero in
front of three octal digits is allowed where `longOctal` is set. -/
def escaped (longOctal : Bool) : ByteText → ByteText × ByteText
  | [] => (['\\'], [])
  | c :: cs =>
    if longOctal && c = '0' then
      let (value, rest) := octal 3 0 cs
      ([byteChar value], rest)
    else if '0' ≤ c ∧ c ≤ '7' then
      let (value, rest) := octal 3 0 (c :: cs)
      ([byteChar value], rest)
    else
      match escapes.lookup c with
      | some e => ([e], cs)
      | none => (['\\'], c :: cs)

/-- The character that an escape sequence stands for, which may be written in hexadecimal digits, and the rest. -/
def escapedOrHex (zero : Bool) (cs : ByteText) : ByteText × ByteText :=
  let digits := ((cs.drop 1).take 2).takeWhile fun c => (hexValue? c).isSome
  match cs.head?, valueToBase? 16 digits with
  | some 'x', some n => if digits.isEmpty then escaped zero cs else ([byteChar n], cs.drop (digits.length + 1))
  | _, _ => escaped zero cs

/-- A text with its escape sequences replaced, and whether it may go on: the sequence with a `c` ends all
output. Hexadecimal digits are read only if `hex` is set. Each step shortens the text, so that its length is fuel
enough. -/
def unescapeFrom (hex : Bool) : Nat → ByteText → ByteText × Bool
  | 0, _ => ([], true)
  | _, [] => ([], true)
  | _, '\\' :: 'c' :: _ => ([], false)
  | fuel + 1, '\\' :: cs =>
    let (text, rest) := if hex then escapedOrHex true cs else escaped true cs
    let (tail, goesOn) := unescapeFrom hex fuel rest
    (text ++ tail, goesOn)
  | fuel + 1, c :: cs =>
    let (tail, goesOn) := unescapeFrom hex fuel cs
    (c :: tail, goesOn)

/-- A text with its escape sequences replaced, and whether it may go on. -/
def unescape (hex : Bool) (cs : ByteText) : ByteText × Bool := unescapeFrom hex (cs.length + 1) cs

/-- Words with a blank between any two. -/
def spaced (words : List ByteText) : ByteText := [' '].intercalate words

/-! ### Conversions -/

/-- How an argument is to be written. -/
structure Conversion where
  flags : List Char
  width : Nat
  precision : Option Nat

namespace Conversion

/-- Whether a flag is set. -/
def has (c : Conversion) (flag : Char) : Bool := c.flags.contains flag

/-- A text brought to the width. -/
def padded (c : Conversion) (t : ByteText) : ByteText :=
  let pad := List.replicate (c.width - t.length) ' '
  if c.has '-' then t ++ pad else pad ++ t

/-- A number brought to the width, from its sign and its digits. Zeros fill it up if `zeros` is set. -/
def paddedNumber (c : Conversion) (zeros : Bool) (sign digits : ByteText) : ByteText :=
  if zeros && c.has '0' && !c.has '-' then
    sign ++ List.replicate (c.width - sign.length - digits.length) '0' ++ digits
  else c.padded (sign ++ digits)

/-- The sign of a number. -/
def sign (c : Conversion) (negative : Bool) : ByteText :=
  if negative then ['-'] else if c.has '+' then ['+'] else if c.has ' ' then [' '] else []

/-- Digits of a whole number, brought to the precision. -/
def wholeDigits (c : Conversion) (ds : ByteText) : ByteText :=
  if c.precision = some 0 && ds = ['0'] then []
  else List.replicate (c.precision.getD 1 - ds.length) '0' ++ ds

/-- A whole number in a conversion. -/
def whole (c : Conversion) (letter : Char) (n : Int) : ByteText :=
  let zeros := c.precision.isNone
  if letter = 'd' ∨ letter = 'i' then
    c.paddedNumber zeros (c.sign (decide (n < 0))) (c.wholeDigits (.ofNat n.natAbs))
  else
    let (base, mark) : Nat × ByteText :=
      if letter = 'o' then (8, ['0'])
      else if letter = 'x' then (16, ['0', 'x'])
      else if letter = 'X' then (16, ['0', 'X'])
      else (10, [])
    let digits := c.wholeDigits (Nat.toDigits base (Expression.bits n))
    let digits := if letter = 'X' then digits.map Char.toUpper else digits
    c.paddedNumber zeros (if c.has '#' && n ≠ 0 then mark else []) digits

end Conversion

/-! ### Numbers with a point -/

/-- The digits of a magnitude with a number of places behind the point. -/
def fixedDigits (u places : Nat) : ByteText :=
  let ds : ByteText := .ofNat (nearestEven (u * Nat.pow 10 places) unitsPerOne)
  let ds := List.replicate (places + 1 - ds.length) '0' ++ ds
  let whole := ds.take (ds.length - places)
  if places = 0 then whole else whole ++ '.' :: ds.drop whole.length

/-- The exponent of the first digit of a magnitude that is not zero. -/
def firstExponent (u : Nat) : Int :=
  if unitsPerOne ≤ u then ((Nat.toDigits 10 (u / unitsPerOne)).length : Int) - 1
  else
    match (List.range 330).find? fun k => decide (unitsPerOne ≤ u * Nat.pow 10 k) with
    | some k => -(k : Int)
    | none => 0

/-- The digits of a magnitude with one of them before the point and a number of places behind it, and the exponent
that belongs to them. -/
def scientificParts (u places : Nat) : ByteText × Int :=
  if u = 0 then (List.replicate (places + 1) '0', 0)
  else
    let e := firstExponent u
    let shift := (places : Int) - e
    let ds : ByteText := .ofNat (nearestEven (u * Nat.pow 10 shift.toNat) (unitsPerOne * Nat.pow 10 (-shift).toNat))
    if places + 1 < ds.length then (ds.take (places + 1), e + 1) else (ds, e)

/-- An exponent with its sign and at least two digits. -/
def exponentDigits (e : Int) : ByteText :=
  let ds : ByteText := .ofNat e.natAbs
  'e' :: (if e < 0 then '-' else '+') :: (List.replicate (2 - ds.length) '0' ++ ds)

/-- The digits of a magnitude with an exponent. -/
def scientificDigits (u places : Nat) : ByteText :=
  let (ds, e) := scientificParts u places
  ds.take 1 ++ (if places = 0 then [] else '.' :: ds.drop 1) ++ exponentDigits e

/-- A text with a point, without the zeros at its end. -/
def withoutZeros (t : ByteText) : ByteText :=
  if t.contains '.' then
    let kept := (t.reverse.dropWhile fun c => c = '0').reverse
    if kept.getLast? = some '.' then kept.dropLast else kept
  else t

/-- The digits of a magnitude in the shorter of the two forms, with a number of significant digits. -/
def generalDigits (u significant : Nat) (keepZeros : Bool) : ByteText :=
  let places := significant - 1
  let (ds, e) := scientificParts u places
  if -4 ≤ e ∧ e < (significant : Int) then
    let t := fixedDigits u ((places : Int) - e).toNat
    if keepZeros then t else withoutZeros t
  else
    let t := ds.take 1 ++ (if places = 0 then [] else '.' :: ds.drop 1)
    (if keepZeros then t else withoutZeros t) ++ exponentDigits e

/-- A number with a point in a conversion. -/
def Conversion.real (c : Conversion) (letter : Char) (x : Binary64) : ByteText :=
  let places := c.precision.getD 6
  let upper (t : ByteText) : ByteText := if letter.isUpper then t.map Char.toUpper else t
  match x with
  | .nan => c.padded (upper "nan".toList)
  | .infinite negative => c.paddedNumber false (c.sign negative) (upper "inf".toList)
  | .finite negative u _ =>
    let digits :=
      if letter = 'f' ∨ letter = 'F' then fixedDigits u places ++ (if places = 0 && c.has '#' then ['.'] else [])
      else if letter = 'e' ∨ letter = 'E' then scientificDigits u places
      else generalDigits u (max places 1) (c.has '#')
    c.paddedNumber true (c.sign negative) (upper digits)

/-! ### Formats -/

/-- What can be wrong with an argument that is to be a number. -/
inductive NumberFault where
  | noNumber
  /-- Something stands behind the number. -/
  | excess
  | outOfRange
  deriving DecidableEq

/-- Complain about an argument that is no number. The part of the shell and the program say it in their own words. -/
def refuseNumber (name t : ByteText) (fault : NumberFault) : Shell Unit := do
  let p ← get
  let reason := match fault, p.command.isSome with
    | .noNumber, true => "expected numeric value"
    | .noNumber, false => "expected a numeric value"
    | .excess, true => "not completely converted"
    | .excess, false => "value not completely converted"
    | .outOfRange, _ => "Numerical result out of range"
  if p.command.isSome then Shell.complain (t ++ ": ".toList ++ reason.toList)
  else Shell.warn (name ++ ": ".toList ++ .ofString "‘" ++ t ++ .ofString "’: " ++ reason.toList)

/-- The number of the character that an argument tells behind a quote. The part of the shell takes the quote alone for
zero. -/
def signOf? (lenient : Bool) (t : ByteText) : Option Nat :=
  match t with
  | [] => some 0
  | [c] => if lenient && (c = '\'' || c = '"') then some 0 else none
  | c :: d :: _ => if c = '\'' || c = '"' then some d.toNat else none

/-- The number that an argument writes, and whether it does. One that does not fit in a word is brought to the
nearest one, or to the greatest one without a sign. -/
def wholeArgument (name : ByteText) (unsigned : Bool) (t : ByteText) : Shell (Int × Bool) := do
  match signOf? (← get).command.isSome t with
  | some n => pure (n, true)
  | none =>
    match integerFront? t with
    | none =>
      refuseNumber name t .noNumber
      pure (0, false)
    | some (n, rest) =>
      let greatest : Int := wordCount - 1
      let nearest := if !unsigned then saturated n else if n.natAbs < wordCount then n else greatest
      if !rest.isEmpty then refuseNumber name t .excess
      else if nearest ≠ n then refuseNumber name t .outOfRange
      pure (nearest, rest.isEmpty && nearest = n)

/-- The number with a point that an argument writes, and whether it does. -/
def realArgument (name t : ByteText) : Shell (Binary64 × Bool) := do
  match signOf? (← get).command.isSome t with
  | some n => pure (.ofNat n, true)
  | none =>
    match realFront? t with
    | none =>
      refuseNumber name t .noNumber
      pure (.zero, false)
    | some front =>
      if !front.rest.isEmpty then refuseNumber name t .excess
      else if front.outOfRange then refuseNumber name t .outOfRange
      pure (front.value, front.rest.isEmpty && !front.outOfRange)

/-- A number that an asterisk in a format takes from an argument, and whether the argument writes one. The part of the
shell keeps as much of it as fits in 32 bits; the program ends if it does not fit. -/
def measureArgument (name : ByteText) (isPrecision : Bool) (t : ByteText) : Shell (Int × Bool) := do
  let (n, fine) ← wholeArgument name false t
  if (← get).command.isSome then pure (n.bmod 4294967296, fine)
  else if 2147483647 < n ∨ n < -2147483648 ∧ !isPrecision then
    let measure := if isPrecision then "precision" else "field width"
    Shell.warn (name ++ (": invalid " ++ measure ++ ": ").toList ++ .ofString "‘" ++ t ++ .ofString "’")
    Shell.exit 1
  else pure (n, fine)

/-- A number in a conversion. -/
structure Measure where
  value : Option Int
  /-- What follows it. -/
  rest : ByteText
  arguments : List ByteText
  fine : Bool

/-- A number in a conversion, which the next argument may tell. -/
def measureOf (name : ByteText) (isPrecision : Bool) (t : ByteText) (arguments : List ByteText) : Shell Measure := do
  match t with
  | '*' :: rest =>
    let (n, fine) ← measureArgument name isPrecision (arguments.headD [])
    pure ⟨some n, rest, arguments.drop 1, fine⟩
  | t =>
    let digits := t.takeWhile Char.isDigit
    pure ⟨if digits.isEmpty then none else some (valueOfDigits digits), t.drop digits.length, arguments, true⟩

/-- The conversion that a text begins with behind its sign, and the measure that it ends with. -/
def conversionOf (name t : ByteText) (arguments : List ByteText) : Shell (Conversion × Measure) := do
  let flags := t.takeWhile fun c => "#-+ 0".toList.contains c
  let first ← measureOf name false (t.drop flags.length) arguments
  let width := first.value.getD 0
  let flags := if width < 0 then '-' :: flags else flags
  match first.rest with
  | '.' :: rest =>
    let second ← measureOf name true rest first.arguments
    let precision := second.value.getD 0
    let precision? := if precision < 0 then none else some precision.toNat
    pure (⟨flags, width.natAbs, precision?⟩, { second with fine := first.fine && second.fine })
  | _ => pure (⟨flags, width.natAbs, none⟩, first)

/-- How far the formatting of arguments has come. -/
structure Pass where
  arguments : List ByteText
  /-- The texts made so far, the last one first. -/
  texts : List ByteText
  /-- Whether all went well. -/
  fine : Bool
  /-- Whether output goes on. -/
  goesOn : Bool

namespace Pass

/-- A text is added. -/
def add (pass : Pass) (t : ByteText) : Pass := { pass with texts := t :: pass.texts }

/-- A text made from an argument is added. -/
def take (pass : Pass) (arguments : List ByteText) (t : ByteText) (fine : Bool) : Pass :=
  { pass with arguments := arguments.drop 1, texts := t :: pass.texts, fine := pass.fine && fine }

end Pass

/-- Write the texts made so far, if complaints are not to come before them. -/
def flushed (pass : Pass) : Shell Pass := do
  if (← get).command.isSome then pure pass
  else
    Shell.say pass.texts.reverse.flatten
    pure { pass with texts := [] }

/-- Refuse a conversion that is not known, or not whole. -/
def refuseDirective (name : ByteText) (pass : Pass) (isWhole : Bool) (directive : ByteText) : Shell Pass := do
  if (← get).command.isSome then
    Shell.complain (if isWhole then directive ++ ": invalid directive".toList else "missing format character".toList)
    Shell.say pass.texts.reverse.flatten
    throw .mistake
  else
    let pass ← flushed pass
    Shell.warn (name ++ ": ".toList ++ directive ++ ": invalid conversion specification".toList)
    pure { pass with fine := false, goesOn := false }

/-- Make texts of a format and arguments in one pass. -/
def formatOnce (name : ByteText) : Nat → ByteText → Pass → Shell Pass
  | 0, _, pass => pure pass
  | _, [], pass => pure pass
  | fuel + 1, '\\' :: cs, pass => do
    let (text, rest) := if (← get).command.isSome then escaped false cs else escapedOrHex false cs
    formatOnce name fuel rest (pass.add text)
  | fuel + 1, '%' :: '%' :: cs, pass => formatOnce name fuel cs (pass.add ['%'])
  | fuel + 1, '%' :: cs, pass => do
    let pass ← if cs.contains '*' then flushed pass else pure pass
    let (c, measure) ← conversionOf name cs pass.arguments
    let arguments := measure.arguments
    let argument := arguments.headD []
    let pass := { pass with fine := pass.fine && measure.fine }
    match measure.rest with
    | [] => refuseDirective name pass false ('%' :: cs)
    | letter :: rest =>
      if letter = 'b' then
        let (text, goesOn) := unescape (← get).command.isNone argument
        let after := pass.take arguments (c.padded (text.take (c.precision.getD text.length))) true
        if goesOn then formatOnce name fuel rest after else pure { after with goesOn := false }
      else if letter = 's' then
        let text := c.padded (argument.take (c.precision.getD argument.length))
        formatOnce name fuel rest (pass.take arguments text true)
      else if letter = 'c' then
        formatOnce name fuel rest (pass.take arguments (c.padded [argument.headD '\x00']) true)
      else if "diouxX".toList.contains letter then
        let pass ← flushed pass
        let (n, fine) ← wholeArgument name (!"di".toList.contains letter) argument
        formatOnce name fuel rest (pass.take arguments (c.whole letter n) fine)
      else if "eEfFgG".toList.contains letter then
        let pass ← flushed pass
        let (x, fine) ← realArgument name argument
        formatOnce name fuel rest (pass.take arguments (c.real letter x) fine)
      else refuseDirective name pass true ('%' :: cs.take (cs.length - rest.length))
  | fuel + 1, c :: cs, pass =>
    let run := cs.takeWhile fun c => c ≠ '%' && c ≠ '\\'
    formatOnce name fuel (cs.drop run.length) (pass.add (c :: run))

/-- Make texts of a format and arguments. The format is used again as long as there are arguments that it takes
up. -/
def formatAll (name format : ByteText) : Nat → Pass → Shell Pass
  | 0, pass => pure pass
  | passes + 1, pass => do
    let after ← formatOnce name (format.length + 1) format pass
    if after.arguments.isEmpty || !after.goesOn || after.arguments.length = pass.arguments.length then pure after
    else formatAll name format passes after

/-- Write what a format makes of arguments, and tell whether all went well. -/
def formatted (name format : ByteText) (arguments : List ByteText) : Shell Bool := do
  let pass ← formatAll name format (arguments.length + 1) ⟨arguments, [], true, true⟩
  let pass ← flushed pass
  if pass.goesOn && !pass.arguments.isEmpty then
    Shell.warn (name ++ ": warning: ignoring excess arguments, starting with ".toList ++ .ofString "‘"
      ++ pass.arguments.headD [] ++ .ofString "’")
  pure pass.fine

end Script

end LinearProgram
