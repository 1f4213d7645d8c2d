import LinearProgram.Number.Binary64

/-!
Decimal numbers: digits times a power of ten, how they are read from text and which binary64 number
each of them stands for.

* `Decimal`, `Decimal.magnitude`: a decimal and the magnitude nearest to it.
* `Decimal.read?`: the written form, digits with an optional point and an optional exponent.
* `Binary64.read`: numbers as text, with a sign, `inf`, `infinity` and `nan` in any letter case.
* `NumberFault`: why a text is no number.
-/

namespace LinearProgram

/-! ### Faults -/

/-- Why a text is not accepted as a number. -/
inductive NumberFault where
  /-- An empty text where a real number is wanted. -/
  | emptyReal
  /-- A text that is no real number. -/
  | invalidReal
  /-- An empty text where a natural number is wanted. -/
  | emptyNatural
  /-- A character that is no decimal digit. -/
  | invalidDigit
  /-- A natural number beyond the largest one allowed. -/
  | tooLarge
  deriving DecidableEq

/-- The wording of a number fault. -/
def NumberFault.message : NumberFault → String
  | emptyReal => "cannot parse float from empty string"
  | invalidReal => "invalid float literal"
  | emptyNatural => "cannot parse integer from empty string"
  | invalidDigit => "invalid digit found in string"
  | tooLarge => "number too large to fit in target type"

/-! ### Digits -/

/-- Whether a character is one of the ten ASCII digits. -/
def isDigit (c : Char) : Bool := decide ('0' ≤ c) && decide (c ≤ '9')

/-- The value of an ASCII digit. -/
def digitValue (c : Char) : Nat := c.toNat - 48

/-- The number that a row of digits writes. -/
def valueOfDigits (ds : List Char) : Nat := ds.foldl (fun n c => 10 * n + digitValue c) 0

/-- The exponent that a row of digits writes. It stops growing at the first value of `65536` or more,
far beyond the exponent of any finite number. -/
def exponentOfDigits (ds : List Char) : Nat :=
  ds.foldl (fun n c => if n < 0x10000 then 10 * n + digitValue c else n) 0

/-! ### Decimals -/

/-- The decimal `digits * 10 ^ exponent`. -/
structure Decimal where
  digits : Nat
  exponent : Int
  deriving DecidableEq

namespace Decimal

/-- The numerator of a decimal in units of `2^-1074`. -/
def numerator (d : Decimal) : Nat := d.digits * Nat.pow 10 d.exponent.toNat * unitsPerOne

/-- The denominator that belongs to `numerator`. -/
def denominator (d : Decimal) : Nat := Nat.pow 10 (-d.exponent).toNat

/-- The magnitude nearest to a decimal. -/
def magnitude (d : Decimal) : Nat := roundToGrid d.numerator d.denominator

/-- The number nearest to a decimal, with the given sign. -/
def toBinary64 (negative : Bool) (d : Decimal) : Binary64 :=
  .ofQuotient negative d.numerator d.denominator

/-- An exponent with its mark, up to the end of the text; no text at all is the exponent zero. -/
def readExponent? : List Char → Option Int
  | [] => some 0
  | mark :: rest =>
    if mark = 'e' ∨ mark = 'E' then
      let (negative, ds) := match rest with
        | '-' :: ds => (true, ds)
        | '+' :: ds => (false, ds)
        | ds => (false, ds)
      if ds ≠ [] ∧ ds.all isDigit then
        some (if negative then -(exponentOfDigits ds : Int) else exponentOfDigits ds)
      else none
    else none

/-- An unsigned decimal: digits, then perhaps a point and more digits, at least one digit in all, then
perhaps an exponent. -/
def read? (s : List Char) : Option Decimal :=
  let whole := s.takeWhile isDigit
  let afterWhole := s.dropWhile isDigit
  let (places, afterPlaces) := match afterWhole with
    | '.' :: t => (t.takeWhile isDigit, t.dropWhile isDigit)
    | t => ([], t)
  if whole = [] ∧ places = [] then none
  else (readExponent? afterPlaces).map fun e =>
    ⟨valueOfDigits (whole ++ places), e - places.length⟩

end Decimal

/-! ### Numbers as text -/

namespace Binary64

/-- The lower-case form of an ASCII letter; any other character stays. -/
def lowerAscii (c : Char) : Char := if 'A' ≤ c ∧ c ≤ 'Z' then Char.ofNat (c.toNat + 32) else c

/-- The words for the values that have no digits. -/
def readWord? (negative : Bool) (s : List Char) : Option Binary64 :=
  let word := String.ofList (s.map lowerAscii)
  if word = "inf" ∨ word = "infinity" then some (.infinite negative)
  else if word = "nan" then some .nan
  else none

/-- An unsigned number: a decimal or one of the words. -/
def readUnsigned (negative : Bool) (s : List Char) : Except NumberFault Binary64 :=
  match Decimal.read? s with
  | some d => .ok (d.toBinary64 negative)
  | none =>
    match readWord? negative s with
    | some x => .ok x
    | none => .error .invalidReal

/-- Read a number with an optional sign. The text must hold the number and nothing else, and the result
is the number nearest to what is written. -/
def readChars : List Char → Except NumberFault Binary64
  | [] => .error .emptyReal
  | '-' :: s => readUnsigned true s
  | '+' :: s => readUnsigned false s
  | s => readUnsigned false s

/-- Read a number from a text. -/
def read (s : String) : Except NumberFault Binary64 := readChars s.toList

end Binary64

end LinearProgram
