/-!
Binary64 numbers as exact integers.

A finite number is a sign and a *magnitude*, a natural number that counts units of `2^-1074`, the gap
between the smallest numbers. Every comparison and every truncation below is then exact integer
arithmetic, and rounding happens in one place, `Binary64.ofQuotient`.

* `spacing`, `OnGrid`: the gap of the grid around a magnitude, and the magnitudes a number may have.
* `Binary64`: the numbers, with `nan` and the two infinities.
* `roundToGrid`, `onGrid_roundToGrid`: a quotient goes to the nearest magnitude, a tie to the even one.
* `Binary64.position?`: the place on the extended number line, through which numbers are compared.
* `Binary64.truncate`: the integer part, towards zero.
-/

namespace LinearProgram

/-! ### The grid of magnitudes -/

/-- The number of units in the number one. -/
def unitsPerOne : Nat := Nat.pow 2 1074

/-- The first power of two that is no finite magnitude any more. -/
def magnitudeLimit : Nat := Nat.pow 2 2098

/-- The gap between neighbouring magnitudes around `u`: numbers have 53 significant bits. -/
def spacing (u : Nat) : Nat := Nat.pow 2 (u.log2 - 52)

/-- The magnitudes of finite numbers: multiples of the local gap below the limit. -/
def OnGrid (u : Nat) : Prop := u < magnitudeLimit ∧ spacing u ∣ u

instance (u : Nat) : Decidable (OnGrid u) := inferInstanceAs (Decidable (_ ∧ _))

theorem spacing_pos (u : Nat) : 0 < spacing u := Nat.two_pow_pos _

theorem onGrid_zero : OnGrid 0 := by decide +kernel

/-- The whole number nearest to `num / den`, an exact tie going to the even one. -/
def nearestEven (num den : Nat) : Nat :=
  let below := num / den
  let rest := num % den
  if 2 * rest < den then below
  else if den < 2 * rest then below + 1
  else if below % 2 = 0 then below else below + 1

/-- A rounded quotient is one of the two neighbours of the exact one. -/
theorem nearestEven_bounds (num den : Nat) :
    num / den ≤ nearestEven num den ∧ nearestEven num den ≤ num / den + 1 := by
  unfold nearestEven
  simp only
  split
  · omega
  · split
    · omega
    · split <;> omega

/-- The magnitude nearest to the quotient `num / den`, an exact tie going to the even multiple of the gap. -/
def roundToGrid (num den : Nat) : Nat :=
  spacing (num / den) * nearestEven num (den * spacing (num / den))

/-- Rounding a quotient gives a multiple of the gap around the result, also where it rounds up into the next
binade. -/
theorem spacing_dvd_roundToGrid (num den : Nat) :
    spacing (roundToGrid num den) ∣ roundToGrid num den := by
  generalize hr : roundToGrid num den = r
  generalize hq : num / den = q at *
  have hsr : spacing q ∣ r := by
    rw [← hr, roundToGrid, hq]; exact Nat.dvd_mul_right _ _
  by_cases hr0 : r = 0
  · simp [hr0]
  by_cases hle : r.log2 - 52 ≤ q.log2 - 52
  · exact Nat.dvd_trans (Nat.pow_dvd_pow 2 hle) hsr
  · -- the result left the binade of the quotient, so it is the power of two that ends it
    have hbig : 52 ≤ q.log2 := by
      by_cases h52 : 52 ≤ q.log2
      · exact h52
      · exfalso
        have hs1 : spacing q = 1 := by
          have h0 : q.log2 - 52 = 0 := by omega
          simp [spacing, h0]
        have hb := (nearestEven_bounds num (den * spacing q)).2
        have hr' : r = nearestEven num (den * spacing q) := by
          rw [← hr, roundToGrid, hq, hs1]; simp
        rw [hs1, Nat.mul_one, hq] at hb
        rw [hs1, Nat.mul_one] at hr'
        have hq2 : q < 2 ^ 52 := by
          by_cases h0 : q = 0
          · rw [h0]; decide
          · exact (Nat.log2_lt h0).1 (by omega)
        have hrle : r ≤ 2 ^ 52 := by omega
        have : r.log2 < 53 := (Nat.log2_lt hr0).2 (by
          calc r ≤ 2 ^ 52 := hrle
            _ < 2 ^ 53 := by decide)
        omega
    have hqlt : q < 2 ^ (q.log2 + 1) := Nat.lt_log2_self
    have hsplit : 2 ^ (q.log2 + 1) = spacing q * 2 ^ 53 := by
      simp only [spacing, Nat.pow_eq]; rw [← Nat.pow_add]; congr 1; omega
    have hdiv : num / (den * spacing q) = q / spacing q := by
      rw [← Nat.div_div_eq_div_mul, hq]
    have hm : nearestEven num (den * spacing q) ≤ 2 ^ 53 := by
      have hb := (nearestEven_bounds num (den * spacing q)).2
      have : q / spacing q < 2 ^ 53 := by
        rw [Nat.div_lt_iff_lt_mul (spacing_pos q), Nat.mul_comm, ← hsplit]; exact hqlt
      omega
    have hreq : r = spacing q * nearestEven num (den * spacing q) := by rw [← hr, roundToGrid, hq]
    have hrle : r ≤ 2 ^ (q.log2 + 1) := by
      rw [hreq, hsplit]; exact Nat.mul_le_mul_left _ hm
    have hrge : 2 ^ (q.log2 + 1) ≤ r := by
      have h1 : q.log2 + 1 ≤ r.log2 := by omega
      exact Nat.le_trans (Nat.pow_le_pow_right (by decide) h1) (Nat.log2_self_le hr0)
    have heq : r = 2 ^ (q.log2 + 1) := Nat.le_antisymm hrle hrge
    rw [heq]
    simp only [spacing, Nat.pow_eq]
    rw [Nat.log2_two_pow]
    exact Nat.pow_dvd_pow 2 (by omega)

/-- A rounded quotient below the limit is a magnitude. -/
theorem onGrid_roundToGrid {num den : Nat} (h : roundToGrid num den < magnitudeLimit) :
    OnGrid (roundToGrid num den) := ⟨h, spacing_dvd_roundToGrid num den⟩

/-! ### The numbers -/

/-- A binary64 number. -/
inductive Binary64 where
  /-- The result that is not a number. -/
  | nan
  /-- An infinity and its sign. -/
  | infinite (negative : Bool)
  /-- A finite number: its sign and its magnitude in units of `2^-1074`. Zero has both signs. -/
  | finite (negative : Bool) (units : Nat) (grid : OnGrid units)
  deriving DecidableEq

namespace Binary64

/-- The number `0`. -/
def zero : Binary64 := .finite false 0 onGrid_zero

/-- Positive infinity. -/
def posInf : Binary64 := .infinite false

/-- Negative infinity. -/
def negInf : Binary64 := .infinite true

instance : Inhabited Binary64 := ⟨zero⟩

/-- The number nearest to `num / den` units with the given sign; beyond the finite numbers it is infinite. -/
def ofQuotient (negative : Bool) (num den : Nat) : Binary64 :=
  if h : roundToGrid num den < magnitudeLimit then
    .finite negative (roundToGrid num den) (onGrid_roundToGrid h)
  else .infinite negative

/-- The number nearest to a natural number. -/
def ofNat (n : Nat) : Binary64 := ofQuotient false (n * unitsPerOne) 1

/-- The number nearest to an integer. -/
def ofInt (n : Int) : Binary64 := ofQuotient (decide (n < 0)) (n.natAbs * unitsPerOne) 1

/-- The number `1`. -/
def one : Binary64 := ofNat 1

/-- The place of a number on the extended line in units of `2^-1074`, the infinities lying at the
limit of the finite magnitudes. Both zeros have one place, and `nan` has none. -/
def position? : Binary64 → Option Int
  | nan => none
  | infinite false => some magnitudeLimit
  | infinite true => some (-magnitudeLimit)
  | finite false u _ => some u
  | finite true u _ => some (-u)

/-- Numerical equality: `nan` equals nothing, and the two zeros are equal. -/
def equals (x y : Binary64) : Bool :=
  match x.position?, y.position? with
  | some p, some q => p = q
  | _, _ => false

/-- Numerical order; false as soon as one side is `nan`. -/
def less (x y : Binary64) : Bool :=
  match x.position?, y.position? with
  | some p, some q => p < q
  | _, _ => false

/-- Whether the number is neither infinite nor `nan`. -/
def isFinite : Binary64 → Bool
  | finite .. => true
  | _ => false

/-- Whether the number is `nan`. -/
def isNan : Binary64 → Bool
  | nan => true
  | _ => false

/-- The number without its sign. -/
def abs : Binary64 → Binary64
  | nan => nan
  | infinite _ => infinite false
  | finite _ u h => finite false u h

/-- The integer part, towards zero. An infinity gives the integer at its place, which lies beyond every
machine word, and `nan` gives `0`. -/
def truncate (x : Binary64) : Int := (x.position?.getD 0).tdiv unitsPerOne

/-- The integer part kept within `lo` and `hi`. -/
def truncateWithin (lo hi : Int) (x : Binary64) : Int := max lo (min hi x.truncate)

end Binary64

end LinearProgram
