import LinearProgram.Proofs.Number.Whole

/-!
Integer parts, and integers that are written in the place of numbers.

An integer part comes from cutting a rational towards zero. A number that is kept within two integers is cut to its
integer part if it lies between them, and to the nearer of the two if it does not. Whether the integer that comes out
is the number itself is told by turning it back into a number. That turns an integer below `2 ^ 53` into itself; above
that every number is an integer, so that the number itself is found back too.

* `Binary64.Below`, `Binary64.Above`: how a number lies strictly to one side of a rational, the infinities included.
* `less_iff_below`, `less_iff_above`: comparisons with an integer.
* `integerPart`, `abs_sub_integerPart_lt_one`, `truncate_eq_integerPart`: **what is cut off is less than one.**
* `truncateWithin_of_between`, `truncateWithin_of_above`, `truncateWithin_of_below`: a number kept within two integers.
* `equals_ofInt_iff`, `equals_iff_isInt`: **which integers are found to be the number that they are written for.**
* `isInt_truncate`: from `2 ^ 53` on every number is its integer part.
-/

namespace LinearProgram

/-- The integer part of a rational, towards zero. -/
def integerPart (q : ℚ) : ℤ := if 0 ≤ q then ⌊q⌋ else ⌈q⌉

/-- What is cut off a rational is less than one. -/
lemma abs_sub_integerPart_lt_one (q : ℚ) : |q - integerPart q| < 1 := by
  rw [integerPart, abs_lt]
  split
  · have hle := Int.floor_le q
    have hlt := Int.lt_floor_add_one q
    constructor <;> linarith
  · have hle := Int.le_ceil q
    have hlt := Int.ceil_lt_add_one q
    constructor <;> linarith

namespace Binary64

/-! ### Numbers to one side of a rational -/

/-- Whether a number is less than a rational; `nan` is not. -/
def Below (x : Binary64) (v : ℚ) : Prop := x.AtMost v ∧ ¬x.AtLeast v

/-- Whether a number is greater than a rational; `nan` is not. -/
def Above (x : Binary64) (v : ℚ) : Prop := x.AtLeast v ∧ ¬x.AtMost v

instance (x : Binary64) (v : ℚ) : Decidable (x.AtMost v) :=
  match x with
  | nan => inferInstanceAs (Decidable False)
  | infinite negative => inferInstanceAs (Decidable (negative = true))
  | finite negative u hu => inferInstanceAs (Decidable ((finite negative u hu).toRat ≤ v))

instance (x : Binary64) (v : ℚ) : Decidable (x.AtLeast v) :=
  match x with
  | nan => inferInstanceAs (Decidable False)
  | infinite negative => inferInstanceAs (Decidable (negative = false))
  | finite negative u hu => inferInstanceAs (Decidable (v ≤ (finite negative u hu).toRat))

instance (x : Binary64) (v : ℚ) : Decidable (x.Below v) := inferInstanceAs (Decidable (_ ∧ _))

instance (x : Binary64) (v : ℚ) : Decidable (x.Above v) := inferInstanceAs (Decidable (_ ∧ _))

instance (x : Binary64) (n : ℤ) : Decidable (x.IsInt n) :=
  decidable_of_iff (x.isFinite = true ∧ x.toRat = n) ⟨fun ⟨h, h'⟩ => ⟨h, h'⟩, fun h => ⟨h.isFinite, h.toRat⟩⟩

lemma below_iff {x : Binary64} (hx : x.isFinite = true) (v : ℚ) : x.Below v ↔ x.toRat < v := by
  rw [Below, atMost_iff hx, atLeast_iff hx, not_le]
  exact ⟨And.right, fun h => ⟨h.le, h⟩⟩

lemma above_iff {x : Binary64} (hx : x.isFinite = true) (v : ℚ) : x.Above v ↔ v < x.toRat := by
  rw [Above, atMost_iff hx, atLeast_iff hx, not_le]
  exact ⟨And.right, fun h => ⟨h.le, h⟩⟩

/-- A number that is neither below one rational nor above another is finite. -/
lemma isFinite_of_between {x : Binary64} {v w : ℚ} (hx : x ≠ nan) (hlow : ¬x.Below v) (hhigh : ¬x.Above w) :
    x.isFinite = true := by
  match x with
  | nan => exact absurd rfl hx
  | infinite true => exact absurd ⟨rfl, Bool.noConfusion⟩ hlow
  | infinite false => exact absurd ⟨rfl, Bool.noConfusion⟩ hhigh
  | finite _ _ _ => rfl

/-- **A number is less than an integer if and only if it lies below it.** -/
lemma less_iff_below {x y : Binary64} {n : ℤ} (hy : y.IsInt n) : x.less y = true ↔ x.Below n := by
  have hbound := position?_bounds_of_finite hy.isFinite hy.position?
  match x with
  | nan => exact iff_of_false Bool.noConfusion fun h => h.1
  | infinite true =>
      refine iff_of_true ?_ ⟨rfl, Bool.noConfusion⟩
      rw [less_of_position? rfl hy.position?, decide_eq_true_eq]
      exact hbound.1
  | infinite false =>
      refine iff_of_false ?_ fun h => h.2 rfl
      rw [less_of_position? rfl hy.position?, decide_eq_true_eq]
      omega
  | finite negative u hu =>
      obtain ⟨p, hp, hrat⟩ := exists_position? (x := .finite negative u hu) rfl
      rw [less_of_position? hp hy.position?, decide_eq_true_eq, below_iff rfl, ← not_le, ← not_le,
        int_le_toRat_iff hrat]

/-- **An integer is less than a number if and only if the number lies above it.** -/
lemma less_iff_above {x y : Binary64} {n : ℤ} (hy : y.IsInt n) : y.less x = true ↔ x.Above n := by
  have hbound := position?_bounds_of_finite hy.isFinite hy.position?
  match x with
  | nan =>
      refine iff_of_false ?_ fun h => h.1
      rw [less, hy.position?]
      exact Bool.noConfusion
  | infinite false =>
      refine iff_of_true ?_ ⟨rfl, Bool.noConfusion⟩
      rw [less_of_position? hy.position? rfl, decide_eq_true_eq]
      exact hbound.2
  | infinite true =>
      refine iff_of_false ?_ fun h => h.2 rfl
      rw [less_of_position? hy.position? rfl, decide_eq_true_eq]
      omega
  | finite negative u hu =>
      obtain ⟨p, hp, hrat⟩ := exists_position? (x := .finite negative u hu) rfl
      rw [less_of_position? hy.position? hp, decide_eq_true_eq, above_iff rfl, ← not_le, ← not_le,
        toRat_le_int_iff hrat]

/-! ### Integer parts -/

/-- **Truncation gives the integer part.** -/
lemma truncate_eq_integerPart {x : Binary64} (hx : x.isFinite = true) : x.truncate = integerPart x.toRat := by
  obtain ⟨p, hp, hrat⟩ := exists_position? hx
  have hunits : (0 : ℤ) < unitsPerOne := by exact_mod_cast unitsPerOne_pos
  have hsplit := Int.mul_tdiv_add_tmod p unitsPerOne
  rw [mul_comm] at hsplit
  rw [truncate_of_position? hp, integerPart]
  split
  case isTrue hnonneg =>
      have hp0 : 0 ≤ p := by
        rw [← Int.cast_zero, int_le_toRat_iff hrat, zero_mul] at hnonneg
        exact hnonneg
      have hrest := Int.tmod_nonneg (unitsPerOne : ℤ) hp0
      refine le_antisymm (Int.le_floor.mpr ?_) (le_tdiv ?_)
      · exact (int_le_toRat_iff hrat _).mpr (by omega)
      · exact (int_le_toRat_iff hrat _).mp (Int.floor_le x.toRat)
  case isFalse hneg =>
      have hp0 : p ≤ 0 := by
        rw [← zero_mul (unitsPerOne : ℤ), ← toRat_le_int_iff hrat, Int.cast_zero]
        exact (not_le.mp hneg).le
      have hrest := Int.tmod_nonneg (unitsPerOne : ℤ) (Int.neg_nonneg.mpr hp0)
      rw [Int.neg_tmod] at hrest
      refine le_antisymm (tdiv_le ?_) (Int.ceil_le.mpr ?_)
      · exact (toRat_le_int_iff hrat _).mp (Int.le_ceil x.toRat)
      · exact (toRat_le_int_iff hrat _).mpr (by omega)

/-- Truncation does not pass an integer that lies below the number. -/
lemma le_truncate_of_above {x : Binary64} {n : ℤ} (hn : n * unitsPerOne ≤ magnitudeLimit) (h : x.Above n) :
    n ≤ x.truncate := by
  match x with
  | nan => exact h.1.elim
  | infinite true => cases h.1
  | infinite false =>
      rw [truncate_of_position? (x := infinite false) rfl]
      exact le_tdiv hn
  | finite negative u hu =>
      obtain ⟨p, hp, hrat⟩ := exists_position? (x := .finite negative u hu) rfl
      rw [truncate_of_position? hp]
      exact le_tdiv ((int_le_toRat_iff hrat n).mp h.1)

/-- Truncation does not pass an integer that lies above the number. -/
lemma truncate_le_of_below {x : Binary64} {n : ℤ} (hn : -(magnitudeLimit : ℤ) ≤ n * unitsPerOne) (h : x.Below n) :
    x.truncate ≤ n := by
  match x with
  | nan => exact h.1.elim
  | infinite false => cases h.1
  | infinite true =>
      rw [truncate_of_position? (x := infinite true) rfl]
      exact tdiv_le hn
  | finite negative u hu =>
      obtain ⟨p, hp, hrat⟩ := exists_position? (x := .finite negative u hu) rfl
      rw [truncate_of_position? hp]
      exact tdiv_le ((toRat_le_int_iff hrat n).mp h.1)

section Within

variable {x : Binary64} {lo hi : ℤ}

/-- **A number between two integers is cut to its integer part.** -/
lemma truncateWithin_of_between (hx : x ≠ nan) (hlow : ¬x.Below lo) (hhigh : ¬x.Above hi) :
    x.truncateWithin lo hi = integerPart x.toRat := by
  have hfinite := isFinite_of_between hx hlow hhigh
  obtain ⟨p, hp, hrat⟩ := exists_position? hfinite
  rw [below_iff hfinite, not_lt, int_le_toRat_iff hrat] at hlow
  rw [above_iff hfinite, not_lt, toRat_le_int_iff hrat] at hhigh
  have hle : lo ≤ x.truncate := by
    rw [truncate_of_position? hp]
    exact le_tdiv hlow
  have hge : x.truncate ≤ hi := by
    rw [truncate_of_position? hp]
    exact tdiv_le hhigh
  rw [truncateWithin, min_eq_right hge, max_eq_right hle, truncate_eq_integerPart hfinite]

/-- A number above two integers is cut to the greater one. -/
lemma truncateWithin_of_above (hhi : hi * unitsPerOne ≤ magnitudeLimit) (hle : lo ≤ hi) (h : x.Above hi) :
    x.truncateWithin lo hi = hi := by
  rw [truncateWithin, min_eq_left (le_truncate_of_above hhi h), max_eq_right hle]

/-- A number below two integers is cut to the lesser one. -/
lemma truncateWithin_of_below (hlo : -(magnitudeLimit : ℤ) ≤ lo * unitsPerOne) (h : x.Below lo) :
    x.truncateWithin lo hi = lo := by
  rw [truncateWithin, max_eq_left ((min_le_right _ _).trans (truncate_le_of_below hlo h))]

end Within

/-! ### Integers that are turned back into numbers -/

/-- A number that equals an integer is that integer. -/
lemma IsInt.of_equals {x y : Binary64} {n : ℤ} (hy : y.IsInt n) (h : y.equals x = true) : x.IsInt n := by
  have hunits : (unitsPerOne : ℚ) ≠ 0 := by exact_mod_cast unitsPerOne_pos.ne'
  have hbound := position?_bounds_of_finite hy.isFinite hy.position?
  obtain ⟨p, hp, hx⟩ := equals_iff.mp h
  obtain rfl := Option.some.inj (hy.position?.symm.trans hp)
  match x with
  | nan => cases hx
  | infinite false =>
      have hlimit : (magnitudeLimit : ℤ) = n * unitsPerOne := Option.some.inj hx
      omega
  | infinite true =>
      have hlimit : -(magnitudeLimit : ℤ) = n * unitsPerOne := Option.some.inj hx
      omega
  | finite negative u hu =>
      obtain ⟨q, hq, hrat⟩ := exists_position? (x := .finite negative u hu) rfl
      obtain rfl := Option.some.inj (hx.symm.trans hq)
      refine ⟨rfl, mul_right_cancel₀ hunits ?_⟩
      rw [← hrat]
      push_cast
      rfl

lemma equals_iff_isInt {x y : Binary64} {n : ℤ} (hy : y.IsInt n) : y.equals x = true ↔ x.IsInt n := by
  refine ⟨hy.of_equals, fun hx => ?_⟩
  rw [hy.equals hx, decide_eq_true rfl]

/-- An integer that is a number is on the grid. -/
lemma IsInt.onGrid {x : Binary64} {n : ℤ} (h : x.IsInt n) : OnGrid (n.natAbs * unitsPerOne) := by
  match x with
  | nan | infinite _ => cases h.isFinite
  | finite negative u hu => exact h.units ▸ hu

/-- **An integer below `2 ^ 53` is found to be a number if and only if it is the number.** -/
lemma equals_ofInt_iff {x : Binary64} {n : ℤ} (hn : n.natAbs < 2 ^ 53) : (ofInt n).equals x = true ↔ x.IsInt n :=
  equals_iff_isInt (isInt_ofInt hn)

/-- From `2 ^ 53` on, the gap between numbers is a whole number. -/
lemma unitsPerOne_dvd_of_onGrid {u : ℕ} (hu : OnGrid u) (hlarge : 2 ^ 53 * unitsPerOne ≤ u) : unitsPerOne ∣ u := by
  have hpos : u ≠ 0 := by
    have := unitsPerOne_pos
    omega
  have hlog : 53 + 1074 ≤ u.log2 := by
    rw [Nat.le_log2 hpos, pow_add]
    rwa [unitsPerOne_eq] at hlarge
  have hspacing : unitsPerOne ∣ spacing u := by
    rw [spacing]
    exact Nat.pow_dvd_pow 2 (by omega)
  exact hspacing.trans hu.2

/-- **From `2 ^ 53` on, a magnitude is its own integer part.** -/
lemma isInt_truncate {u : ℕ} (hu : OnGrid u) (hlarge : 2 ^ 53 ≤ (finite false u hu).truncate) :
    (finite false u hu).IsInt (finite false u hu).truncate := by
  have hunits : (unitsPerOne : ℚ) ≠ 0 := by exact_mod_cast unitsPerOne_pos.ne'
  have htruncate : (finite false u hu).truncate = (u / unitsPerOne : ℕ) := by
    rw [truncate_of_position? (x := finite false u hu) rfl, Int.natCast_div]
    exact Int.tdiv_eq_ediv_of_nonneg (Int.natCast_nonneg u)
  have hquot : 2 ^ 53 ≤ u / unitsPerOne := by
    rw [htruncate] at hlarge
    exact_mod_cast hlarge
  have hdvd := unitsPerOne_dvd_of_onGrid hu ((Nat.le_div_iff_mul_le unitsPerOne_pos).mp hquot)
  refine ⟨rfl, ?_⟩
  rw [htruncate, Int.cast_natCast, Nat.cast_div hdvd hunits, toRat]

end Binary64

end LinearProgram
