import LinearProgram.Bounds
import LinearProgram.Proofs.Number.Order
import LinearProgram.Proofs.Number.RoundTrip

/-!
Whole numbers among the binary64 numbers.

Below `2 ^ 53` every natural number lies on the grid, so rounding leaves it alone. The digits that are written for
such a number are those of a natural number, and a natural number that reads back as it is the number itself.

* `onGrid_mul_unitsPerOne`: small natural numbers lie on the grid.
* `isInt_ofInt_of_onGrid`, `isInt_ofInt`: an integer on the grid, one of machine size in particular, is the number that
  stands for it.
* `toRat_shortest`: **a whole number is written as itself**.
-/

namespace LinearProgram

/-! ### The grid -/

/-- **Small natural numbers lie on the grid.** -/
lemma onGrid_mul_unitsPerOne {n : ℕ} (hn : n < 2 ^ 53) : OnGrid (n * unitsPerOne) := by
  have hlt : n * unitsPerOne < 2 ^ (53 + 1074) := by
    rw [pow_add, unitsPerOne_eq]
    exact Nat.mul_lt_mul_of_pos_right hn (Nat.two_pow_pos _)
  have hlimit : n * unitsPerOne < magnitudeLimit :=
    hlt.trans_le (Nat.pow_le_pow_right (by decide) (by decide))
  have hspacing : spacing (n * unitsPerOne) ∣ unitsPerOne := by
    by_cases hzero : n * unitsPerOne = 0
    · rw [hzero]
      exact one_dvd _
    · have hlog : (n * unitsPerOne).log2 < 53 + 1074 := (Nat.log2_lt hzero).mpr hlt
      have hexp : (n * unitsPerOne).log2 - 52 ≤ 1074 := by omega
      rw [spacing]
      exact Nat.pow_dvd_pow 2 hexp
  exact ⟨hlimit, hspacing.mul_left n⟩

namespace Binary64

/-- An integer on the grid is the number that stands for it. -/
lemma isInt_ofInt_of_onGrid {n : ℤ} (hgrid : OnGrid (n.natAbs * unitsPerOne)) : (ofInt n).IsInt n := by
  have hround : roundToGrid (n.natAbs * unitsPerOne) 1 = n.natAbs * unitsPerOne := by
    simpa using roundToGrid_of_onGrid hgrid one_pos
  have hfinite : ofInt n = .finite (decide (n < 0)) (n.natAbs * unitsPerOne) hgrid := by
    simp only [ofInt, ofQuotient, hround]
    rw [dif_pos hgrid.1]
  have hunits : (unitsPerOne : ℚ) ≠ 0 := by exact_mod_cast unitsPerOne_pos.ne'
  refine ⟨by rw [hfinite]; rfl, ?_⟩
  rw [hfinite]
  by_cases hneg : n < 0
  · have habs : (n.natAbs : ℚ) = -(n : ℚ) := by
      rw [Nat.cast_natAbs, abs_of_neg hneg]
      push_cast
      rfl
    rw [decide_eq_true hneg, toRat, Nat.cast_mul, mul_div_cancel_right₀ _ hunits, habs, neg_neg]
  · have habs : (n.natAbs : ℚ) = n := by
      rw [Nat.cast_natAbs, abs_of_nonneg (by omega)]
    rw [decide_eq_false hneg, toRat, Nat.cast_mul, mul_div_cancel_right₀ _ hunits, habs]

/-- An integer of machine size is the number that stands for it. -/
lemma isInt_ofInt {n : ℤ} (hn : n.natAbs < 2 ^ 53) : (ofInt n).IsInt n :=
  isInt_ofInt_of_onGrid (onGrid_mul_unitsPerOne hn)

lemma isInt_one : one.IsInt 1 := by
  have hone : one = ofInt 1 := by simp [one, ofNat, ofInt]
  rw [hone]
  exact isInt_ofInt (by decide)

lemma isInt_leastInteger : (ofInt leastInteger).IsInt leastInteger := isInt_ofInt (by decide)

lemma isInt_greatestInteger : (ofInt greatestInteger).IsInt greatestInteger := isInt_ofInt (by decide)

end Binary64

/-! ### The digits of a whole number -/

namespace Decimal

/-- A small natural number has the magnitude of itself. -/
lemma magnitude_of_toRat {d : Decimal} {m : ℕ} (hd : d.toRat = m) (hm : m < 2 ^ 53) :
    d.magnitude = m * unitsPerOne := by
  have hnum : d.numerator = m * unitsPerOne * d.denominator := by
    have hq : (d.numerator : ℚ) = m * unitsPerOne * d.denominator := by rw [numerator_eq, hd]
    exact_mod_cast hq
  rw [magnitude, hnum, roundToGrid_of_onGrid (onGrid_mul_unitsPerOne hm) d.denominator_pos]

lemma exact_mul_unitsPerOne (n : ℕ) : exact (n * unitsPerOne) = ⟨n, 0⟩ := by
  have hgcd : Nat.gcd (n * unitsPerOne) unitsPerOne = unitsPerOne := Nat.gcd_mul_left_left _ _
  have hlog : unitsPerOne.log2 = 1074 := by
    rw [unitsPerOne_eq]
    exact Nat.log2_two_pow
  have hquot : n * unitsPerOne / unitsPerOne = n := Nat.mul_div_cancel _ unitsPerOne_pos
  simp [exact, hgcd, hlog, hquot]

/-- What is taken from a grid of digits is one of the two neighbours there. -/
lemma mem_of_reading? {u : ℕ} {whole d : Decimal} {dropped : ℕ} (h : reading? u whole dropped = some d) :
    d.exponent = whole.exponent + dropped
      ∧ (d.digits = whole.digits / 10 ^ dropped ∨ d.digits = whole.digits / 10 ^ dropped + 1) := by
  have hmem := List.mem_of_find?_eq_some h
  split at hmem
  all_goals
    simp only [List.mem_cons, List.not_mem_nil, or_false] at hmem
    rcases hmem with rfl | rfl
  · exact ⟨rfl, Or.inl rfl⟩
  · exact ⟨rfl, Or.inr rfl⟩
  · exact ⟨rfl, Or.inr rfl⟩
  · exact ⟨rfl, Or.inl rfl⟩

/-- **A whole number is written as itself.** A neighbour on a grid of digits is a natural number of less than twice
the size, so it reads back as the number only if it is the number. -/
lemma toRat_shortest {n : ℕ} (hn : n < 2 ^ 52) : (shortest (n * unitsPerOne)).toRat = n := by
  rw [shortest, exact_mul_unitsPerOne]
  cases h : (List.range 17).findSome? fun i =>
      reading? (n * unitsPerOne) ⟨n, 0⟩ ((digitChars n).length - (i + 1)) with
  | none => simp [toRat]
  | some d =>
      obtain ⟨i, -, hi⟩ := List.exists_of_findSome?_eq_some h
      generalize hk : (digitChars n).length - (i + 1) = k at hi
      obtain ⟨hexp, hdigits⟩ : d.exponent = 0 + k
          ∧ (d.digits = n / 10 ^ k ∨ d.digits = n / 10 ^ k + 1) := mem_of_reading? hi
      have hstep : k = 0 ∨ 10 ^ k ≤ n := by
        rcases Nat.eq_zero_or_pos k with hzero | hpos
        · exact Or.inl hzero
        · refine Or.inr (not_lt.mp fun hlt => ?_)
          have hlen := (length_digitChars_le_iff hpos).mpr hlt
          omega
      have hvalue : d.toRat = (d.digits * 10 ^ k : ℕ) := by
        rw [toRat, hexp]
        push_cast
        rw [zero_add, zpow_natCast]
      have hsmall : d.digits * 10 ^ k < 2 ^ 53 := by
        have hbelow : n / 10 ^ k * 10 ^ k ≤ n := Nat.div_mul_le_self n _
        rcases hstep with rfl | hstep
        · rcases hdigits with hd | hd <;> rw [hd] <;> simp <;> omega
        · rcases hdigits with hd | hd <;> rw [hd]
          · omega
          · rw [add_mul, one_mul]
            omega
      have hmag := magnitude_of_reading? hi
      rw [magnitude_of_toRat hvalue hsmall] at hmag
      have heq : d.digits * 10 ^ k = n := Nat.eq_of_mul_eq_mul_right unitsPerOne_pos hmag
      show d.toRat = n
      rw [hvalue, heq]

end Decimal

end LinearProgram
