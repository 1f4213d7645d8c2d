import LinearProgram.Number.Decimal

/-!
Natural numbers as text, up to a largest value.

* `readNaturalChars`, `readNatural`: an optional plus sign and decimal digits.
* `maxSize`, `maxIndex`: the largest count and the largest column index.
-/

namespace LinearProgram

/-- The largest count: counts are 64-bit words. -/
def maxSize : Nat := 18446744073709551615

/-- The largest column index: indices are 32-bit words. -/
def maxIndex : Nat := 4294967295

/-- Read the remaining digits after those that write `n`. The first character that is no digit, or the
first digit that passes the largest value, decides the fault. -/
def readDigits (largest : Nat) : Nat → List Char → Except NumberFault Nat
  | n, [] => .ok n
  | n, c :: cs =>
    if isDigit c then
      if 10 * n + digitValue c ≤ largest then readDigits largest (10 * n + digitValue c) cs
      else .error .tooLarge
    else .error .invalidDigit

/-- Read a natural number no larger than `largest`. -/
def readNaturalChars (largest : Nat) : List Char → Except NumberFault Nat
  | [] => .error .emptyNatural
  | ['+'] => .error .invalidDigit
  | '+' :: s => readDigits largest 0 s
  | s => readDigits largest 0 s

/-- Read a natural number no larger than `largest` from a text. -/
def readNatural (largest : Nat) (s : String) : Except NumberFault Nat := readNaturalChars largest s.toList

end LinearProgram
