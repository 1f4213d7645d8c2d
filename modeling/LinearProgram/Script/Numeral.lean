import LinearProgram.Number.Decimal
import LinearProgram.Script.Syntax

/-!
Numbers at the front of texts.

What stands in front may be blanks and a sign; the number is as long as it can be, and what stands behind it is the
rest.

* `integerFront?`: integers, with digits to the base that their beginning tells.
* `readInteger?`, `readDecimal?`, `readCount?`: integers that take up whole texts.
* `realFront?`: numbers with a point and an exponent, in decimal or hexadecimal digits, and the words for values
  without digits.
-/

namespace LinearProgram

namespace Script

/-! ### Digits -/

/-- The value of a hexadecimal digit. -/
def hexValue? (c : Char) : Option Nat :=
  if c.isDigit then some (digitValue c)
  else if 'a' ≤ c ∧ c ≤ 'f' then some (c.toNat - 87)
  else if 'A' ≤ c ∧ c ≤ 'F' then some (c.toNat - 55)
  else none

/-- The value of digits to a base. -/
def valueToBase? (base : Nat) (ds : ByteText) : Option Nat :=
  ds.foldlM (fun n c => do
    let d ← hexValue? c
    if d < base then some (base * n + d) else none) 0

/-- A text behind the blanks in front, without its sign, and whether that is the negative one. -/
def signedFront (t : ByteText) : Bool × ByteText :=
  match t.dropWhile fun c => " \t\n\x0b\x0c\r".toList.contains c with
  | '-' :: ds => (true, ds)
  | '+' :: ds => (false, ds)
  | ds => (false, ds)

/-- The digits to a base at the front of a text. -/
def digitsFront (base : Nat) (t : ByteText) : ByteText :=
  t.takeWhile fun c => ((hexValue? c).map fun d => decide (d < base)).getD false

/-- Whether a text begins like a number in binary digits; at least one of the digits is there. -/
def beginsBinary (t : ByteText) : Bool :=
  match t with
  | '0' :: b :: ds => (b = 'b' || b = 'B') && !(digitsFront 2 (ds.take 1)).isEmpty
  | _ => false

/-- Whether a text begins like a number in hexadecimal digits; at least one of the digits is there. -/
def beginsHex (t : ByteText) : Bool :=
  match t with
  | '0' :: x :: ds =>
    let ds := if ds.head? = some '.' then ds.drop 1 else ds
    (x = 'x' || x = 'X') && !(digitsFront 16 (ds.take 1)).isEmpty
  | _ => false

/-! ### Integers -/

/-- The magnitude at the front of a text, and the rest. -/
def magnitudeFront? (t : ByteText) : Option (Nat × ByteText) :=
  let base := if t.head? = some '0' then 8 else 10
  let (skipped, base) := if beginsHex t && t[2]? ≠ some '.' then (2, 16)
    else if beginsBinary t then (2, 2) else (0, base)
  let digits := digitsFront base (t.drop skipped)
  if digits.isEmpty then none
  else (valueToBase? base digits).map fun n => (n, t.drop (skipped + digits.length))

/-- The integer at the front of a text, and the rest. -/
def integerFront? (t : ByteText) : Option (Int × ByteText) :=
  let (negative, ds) := signedFront t
  (magnitudeFront? ds).map fun (n, rest) => (if negative then -(n : Int) else n, rest)

/-- Whether a text is made of blanks. -/
def isBlankText (t : ByteText) : Bool := t.all fun c => " \t\n\x0b\x0c\r".toList.contains c

/-- The integer that a text writes, perhaps with blanks around it, the base being told by how its digits begin. -/
def readInteger? (t : ByteText) : Option Int :=
  (integerFront? t).bind fun (n, rest) => if isBlankText rest then some n else none

/-- The integer that a text writes in decimal digits, perhaps with blanks around it. -/
def readDecimal? (t : ByteText) : Option Int :=
  let (negative, ds) := signedFront t
  let digits := ds.takeWhile isDigit
  if digits.isEmpty || !isBlankText (ds.drop digits.length) then none
  else some (if negative then -(valueOfDigits digits : Int) else valueOfDigits digits)

/-- The greatest number that a count can be. -/
def largestCount : Int := 2147483647

/-- The count that a text writes in decimal digits, perhaps with blanks around it. -/
def readCount? (t : ByteText) : Option Nat :=
  ((readDecimal? t).filter fun n => 0 ≤ n && n ≤ largestCount).map Int.toNat

/-! ### Numbers with a point -/

/-- The exponent behind a mark at the front of a text, and the rest. A mark without digits is part of the rest. -/
def exponentFront (mark : Char) (t : ByteText) : Int × ByteText :=
  match t with
  | [] => (0, [])
  | c :: cs =>
    let (negative, ds) := match cs with
      | '-' :: ds => (true, ds)
      | '+' :: ds => (false, ds)
      | ds => (false, ds)
    let digits := ds.takeWhile isDigit
    if c.toLower ≠ mark || digits.isEmpty then (0, t)
    else
      let e : Int := exponentOfDigits digits
      (if negative then -e else e, ds.drop digits.length)

/-- The digits before and behind a point at the front of a text, and the rest. There is at least one digit. -/
def pointedFront? (base : Nat) (t : ByteText) : Option (ByteText × ByteText × ByteText) :=
  let whole := digitsFront base t
  let behind := t.drop whole.length
  let places := if behind.head? = some '.' then digitsFront base (behind.drop 1) else []
  if whole.isEmpty && places.isEmpty then none
  else some (whole, places, if behind.head? = some '.' then behind.drop (places.length + 1) else behind)

/-- The word for a value without digits at the front of a text, and the rest. -/
def wordFront? (negative : Bool) (t : ByteText) : Option (Binary64 × ByteText) :=
  let begins (word : String) : Bool := word.toList.isPrefixOf (t.map Char.toLower)
  let note := (t.drop 4).takeWhile fun c => c.isAlphanum || c = '_'
  if begins "infinity" then some (.infinite negative, t.drop 8)
  else if begins "inf" then some (.infinite negative, t.drop 3)
  else if begins "nan(" && t[4 + note.length]? = some ')' then some (.nan, t.drop (note.length + 5))
  else if begins "nan" then some (.nan, t.drop 3)
  else none

/-- A number at the front of a text. -/
structure RealFront where
  /-- The nearest number. -/
  value : Binary64
  /-- Whether what is written is too great or too near to zero for any number but these. -/
  outOfRange : Bool
  rest : ByteText

/-- The number that digits and an exponent write. -/
def realOfParts (negative : Bool) (base exponentBase : Nat) (digits : ByteText) (exponent : Int) (rest : ByteText) :
    RealFront :=
  let n := (valueToBase? base digits).getD 0
  let value := Binary64.ofQuotient negative (n * Nat.pow exponentBase exponent.toNat * unitsPerOne)
    (Nat.pow exponentBase (-exponent).toNat)
  let outOfRange := match value with
    | .finite _ u _ => n ≠ 0 && decide (u = 0)
    | _ => true
  ⟨value, outOfRange, rest⟩

/-- The number at the front of a text. -/
def realFront? (t : ByteText) : Option RealFront :=
  let (negative, ds) := signedFront t
  if beginsHex ds then do
    let (whole, places, rest) ← pointedFront? 16 (ds.drop 2)
    let (e, rest) := exponentFront 'p' rest
    return realOfParts negative 16 2 (whole ++ places) (e - 4 * places.length) rest
  else
    match pointedFront? 10 ds with
    | some (whole, places, rest) =>
      let (e, rest) := exponentFront 'e' rest
      some (realOfParts negative 10 10 (whole ++ places) (e - places.length) rest)
    | none => (wordFront? negative ds).map fun (value, rest) => ⟨value, false, rest⟩

end Script

end LinearProgram
