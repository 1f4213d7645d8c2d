import LinearProgram.Number.Decimal

/-!
Numbers as text: the fewest digits that read back as the same number, written positionally.

Every finite number has an exact decimal form, because `2^-k` is `5^k * 10^-k`. Cutting that form after `n`
digits gives the decimal just below the number on the grid of `n` digits, and one more in the last place
gives the decimal just above. The first grid on which one of the two reads back is taken.

* `Decimal.exact`: the exact decimal form of a magnitude.
* `Decimal.reading?`: the neighbour on a grid that reads back, the nearer of two, an exact tie going up.
* `Decimal.shortest`: the decimal that is written.
* `Decimal.positional`: digits with a point and no exponent.
* `Binary64.text`: the text of a number.
-/

namespace LinearProgram

namespace Decimal

/-- The exact decimal form of a magnitude. The magnitude is a fraction whose denominator is a power of two in
lowest terms, and that power gives the number of places. -/
def exact (u : Nat) : Decimal :=
  let common := Nat.gcd u unitsPerOne
  let places := 1074 - common.log2
  ⟨u / common * Nat.pow 5 places, -places⟩

/-- The digits of a natural number, most significant first. -/
def digitChars (n : Nat) : List Char := Nat.toDigits 10 n

/-- Without the last `dropped` digits of its exact form, the neighbour of a magnitude that reads back as it.
Of two such neighbours it is the nearer one, and on an exact tie the upper one. -/
def reading? (u : Nat) (whole : Decimal) (dropped : Nat) : Option Decimal :=
  let step := Nat.pow 10 dropped
  let below : Decimal := ⟨whole.digits / step, whole.exponent + dropped⟩
  let above : Decimal := ⟨whole.digits / step + 1, whole.exponent + dropped⟩
  let nearer := if 2 * (whole.digits % step) < step then [below, above] else [above, below]
  nearer.find? fun d => d.magnitude = u

/-- The decimal with the fewest digits that reads back as a magnitude. Seventeen digits suffice; the exact
form stands behind them. -/
def shortest (u : Nat) : Decimal :=
  let whole := exact u
  let count := (digitChars whole.digits).length
  ((List.range 17).findSome? fun i => reading? u whole (count - (i + 1))).getD whole

/-- The same decimal without the zeros at the end of its digits. -/
def strip (d : Decimal) : Decimal :=
  if h : d.digits ≠ 0 ∧ d.digits % 10 = 0 then strip ⟨d.digits / 10, d.exponent + 1⟩ else d
termination_by d.digits
decreasing_by omega

/-- The positional form of a decimal: zeros fill the places between the digits and the point. -/
def positional (d : Decimal) : List Char :=
  let ds := digitChars d.digits
  if 0 ≤ d.exponent then ds ++ List.replicate d.exponent.toNat '0'
  else
    let places := (-d.exponent).toNat
    if places < ds.length then ds.take (ds.length - places) ++ '.' :: ds.drop (ds.length - places)
    else '0' :: '.' :: List.replicate (places - ds.length) '0' ++ ds

end Decimal

/-- The text of a magnitude. -/
def magnitudeChars (u : Nat) : List Char :=
  if u = 0 then ['0'] else (Decimal.shortest u).strip.positional

/-- The text of a number: the fewest digits that read back, without an exponent and without a point where
the number is whole. The sign of zero is written, and that of `nan` does not exist. -/
def Binary64.chars : Binary64 → List Char
  | nan => "NaN".toList
  | infinite false => "inf".toList
  | infinite true => "-inf".toList
  | finite false u _ => magnitudeChars u
  | finite true u _ => '-' :: magnitudeChars u

/-- The text of a number as a string. -/
def Binary64.text (x : Binary64) : String := String.ofList x.chars

instance : ToString Binary64 := ⟨Binary64.text⟩

end LinearProgram
