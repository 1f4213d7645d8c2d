import Mathlib.Tactic
import LinearProgram.Number.Binary64

/-!
The order of numbers, and the rational line on which it lies.

* `Binary64.toRat`: the rational that a finite number is.
* `Binary64.AtMost`, `Binary64.AtLeast`: how a number compares with a rational, the infinities included.
* `less_iff`, `equals_iff`: comparisons by places.
* `isFinite_of_less`: a number strictly between two others is finite.
* `truncate_le`, `le_truncate`: **truncation does not pass an integer** on the side of the number.
-/

namespace LinearProgram

lemma unitsPerOne_pos : 0 < unitsPerOne := Nat.two_pow_pos _

namespace Binary64

/-! ### Places -/

/-- The place of a number lies within the limit of the finite magnitudes. -/
lemma position?_bounds {x : Binary64} {p : ℤ} (h : x.position? = some p) :
    -(magnitudeLimit : ℤ) ≤ p ∧ p ≤ magnitudeLimit := by
  match x with
  | .nan => exact absurd h (by simp [position?])
  | .infinite false =>
      have hp : (magnitudeLimit : ℤ) = p := Option.some.inj h
      omega
  | .infinite true =>
      have hp : -(magnitudeLimit : ℤ) = p := Option.some.inj h
      omega
  | .finite false u hu =>
      have hp : (u : ℤ) = p := Option.some.inj h
      have hlt := hu.1
      omega
  | .finite true u hu =>
      have hp : -(u : ℤ) = p := Option.some.inj h
      have hlt := hu.1
      omega

/-- The place of a finite number lies strictly within the limit. -/
lemma position?_bounds_of_finite {x : Binary64} (hx : x.isFinite = true) {p : ℤ} (h : x.position? = some p) :
    -(magnitudeLimit : ℤ) < p ∧ p < magnitudeLimit := by
  match x with
  | .finite false u hu =>
      have hp : (u : ℤ) = p := Option.some.inj h
      have hlt := hu.1
      omega
  | .finite true u hu =>
      have hp : -(u : ℤ) = p := Option.some.inj h
      have hlt := hu.1
      omega

lemma less_iff {x y : Binary64} :
    x.less y = true ↔ ∃ p q, x.position? = some p ∧ y.position? = some q ∧ p < q := by
  rw [less]
  cases x.position? <;> cases y.position? <;> simp

lemma equals_iff {x y : Binary64} :
    x.equals y = true ↔ ∃ p, x.position? = some p ∧ y.position? = some p := by
  rw [equals]
  cases x.position? <;> cases y.position? <;> simp [eq_comm]

lemma less_of_position? {x y : Binary64} {p q : ℤ} (hx : x.position? = some p) (hy : y.position? = some q) :
    x.less y = decide (p < q) := by
  rw [less, hx, hy]

lemma equals_of_position? {x y : Binary64} {p q : ℤ} (hx : x.position? = some p) (hy : y.position? = some q) :
    x.equals y = decide (p = q) := by
  rw [equals, hx, hy]

/-- A number strictly between two others is finite. -/
lemma isFinite_of_less {x y z : Binary64} (hxy : x.less y = true) (hyz : y.less z = true) :
    y.isFinite = true := by
  obtain ⟨p, q, hp, hq, hpq⟩ := less_iff.mp hxy
  obtain ⟨q', r, hq', hr, hqr⟩ := less_iff.mp hyz
  have hlow := position?_bounds hp
  have hhigh := position?_bounds hr
  match y with
  | .nan => exact absurd hq (by simp [position?])
  | .infinite false =>
      have hlimit : (magnitudeLimit : ℤ) = q' := Option.some.inj hq'
      omega
  | .infinite true =>
      have hlimit : -(magnitudeLimit : ℤ) = q := Option.some.inj hq
      omega
  | .finite _ _ _ => rfl

/-! ### Rationals -/

/-- The rational that a finite number is. -/
def toRat : Binary64 → ℚ
  | finite false u _ => u / unitsPerOne
  | finite true u _ => -(u / unitsPerOne)
  | _ => 0

/-- Whether a number is at most a rational. -/
def AtMost (x : Binary64) (v : ℚ) : Prop :=
  match x with
  | nan => False
  | infinite negative => negative = true
  | x => x.toRat ≤ v

/-- Whether a number is at least a rational. -/
def AtLeast (x : Binary64) (v : ℚ) : Prop :=
  match x with
  | nan => False
  | infinite negative => negative = false
  | x => v ≤ x.toRat

/-- The place of a finite number is its rational, counted in units. -/
lemma exists_position? {x : Binary64} (hx : x.isFinite = true) :
    ∃ p : ℤ, x.position? = some p ∧ (p : ℚ) = x.toRat * unitsPerOne := by
  have hunits : (unitsPerOne : ℚ) ≠ 0 := by exact_mod_cast unitsPerOne_pos.ne'
  match x with
  | .finite false u hu =>
      refine ⟨u, rfl, ?_⟩
      rw [toRat]
      push_cast
      field_simp
  | .finite true u hu =>
      refine ⟨-u, rfl, ?_⟩
      rw [toRat]
      push_cast
      field_simp

lemma atMost_iff {x : Binary64} (hx : x.isFinite = true) (v : ℚ) : x.AtMost v ↔ x.toRat ≤ v := by
  cases x with
  | nan | infinite _ => exact absurd hx (by simp [isFinite])
  | finite negative u hu => rfl

lemma atLeast_iff {x : Binary64} (hx : x.isFinite = true) (v : ℚ) : x.AtLeast v ↔ v ≤ x.toRat := by
  cases x with
  | nan | infinite _ => exact absurd hx (by simp [isFinite])
  | finite negative u hu => rfl

/-- A finite number compares with an integer by its place. -/
lemma toRat_le_int_iff {x : Binary64} {p : ℤ} (hrat : (p : ℚ) = x.toRat * unitsPerOne) (v : ℤ) :
    x.toRat ≤ v ↔ p ≤ v * unitsPerOne := by
  have hunits : (0 : ℚ) < unitsPerOne := by exact_mod_cast unitsPerOne_pos
  rw [← mul_le_mul_iff_left₀ hunits, ← hrat]
  exact_mod_cast Iff.rfl

lemma int_le_toRat_iff {x : Binary64} {p : ℤ} (hrat : (p : ℚ) = x.toRat * unitsPerOne) (v : ℤ) :
    v ≤ x.toRat ↔ v * unitsPerOne ≤ p := by
  have hunits : (0 : ℚ) < unitsPerOne := by exact_mod_cast unitsPerOne_pos
  rw [← mul_le_mul_iff_left₀ hunits, ← hrat]
  exact_mod_cast Iff.rfl

/-- A number is a given integer. -/
structure IsInt (x : Binary64) (n : ℤ) : Prop where
  isFinite : x.isFinite = true
  toRat : x.toRat = n

lemma IsInt.position? {x : Binary64} {n : ℤ} (h : x.IsInt n) : x.position? = some (n * unitsPerOne) := by
  obtain ⟨p, hp, hrat⟩ := exists_position? h.isFinite
  rw [h.toRat] at hrat
  have hpn : p = n * unitsPerOne := by exact_mod_cast hrat
  rw [hp, hpn]

/-- The units of an integer are those of its absolute value. -/
lemma IsInt.units {negative : Bool} {u : ℕ} {hu : OnGrid u} {n : ℤ} (h : (finite negative u hu).IsInt n) :
    u = n.natAbs * unitsPerOne := by
  have hposition : (finite negative u hu).position? = some (n * unitsPerOne) := h.position?
  have hnatAbs : (n * unitsPerOne).natAbs = n.natAbs * unitsPerOne := by rw [Int.natAbs_mul, Int.natAbs_natCast]
  cases negative with
  | false =>
      have hn : (u : ℤ) = n * unitsPerOne := Option.some.inj hposition
      rw [← hnatAbs, ← hn, Int.natAbs_natCast]
  | true =>
      have hn : -(u : ℤ) = n * unitsPerOne := Option.some.inj hposition
      rw [← hnatAbs, ← hn, Int.natAbs_neg, Int.natAbs_natCast]

lemma IsInt.abs {x : Binary64} {n : ℤ} (h : x.IsInt n) : x.abs.IsInt |n| := by
  have hnonneg : ∀ u : ℕ, (0 : ℚ) ≤ u / unitsPerOne := fun u => by positivity
  match x with
  | .finite false u hu =>
      have hn : (u / unitsPerOne : ℚ) = n := h.toRat
      refine ⟨rfl, ?_⟩
      rw [Int.cast_abs, ← hn, abs_of_nonneg (hnonneg u)]
      rfl
  | .finite true u hu =>
      have hn : -(u / unitsPerOne : ℚ) = n := h.toRat
      refine ⟨rfl, ?_⟩
      rw [Int.cast_abs, ← hn, abs_neg, abs_of_nonneg (hnonneg u)]
      rfl
  | .nan | .infinite _ => exact absurd h.isFinite (by simp [Binary64.isFinite])

lemma isInt_zero : zero.IsInt 0 := by
  refine ⟨rfl, ?_⟩
  rw [zero, toRat, Nat.cast_zero, zero_div, Int.cast_zero]

/-- Integers compare as they do without being numbers. -/
lemma IsInt.equals {x y : Binary64} {m n : ℤ} (hx : x.IsInt m) (hy : y.IsInt n) :
    x.equals y = decide (m = n) := by
  have hunits : (unitsPerOne : ℤ) ≠ 0 := by exact_mod_cast unitsPerOne_pos.ne'
  rw [equals_of_position? hx.position? hy.position?]
  exact decide_eq_decide.mpr (mul_left_inj' hunits)

lemma IsInt.less {x y : Binary64} {m n : ℤ} (hx : x.IsInt m) (hy : y.IsInt n) :
    x.less y = decide (m < n) := by
  have hunits : (0 : ℤ) < unitsPerOne := by exact_mod_cast unitsPerOne_pos
  rw [less_of_position? hx.position? hy.position?]
  exact decide_eq_decide.mpr (mul_lt_mul_iff_left₀ hunits)

/-! ### Truncation -/

lemma truncate_of_position? {x : Binary64} {p : ℤ} (h : x.position? = some p) :
    x.truncate = p.tdiv unitsPerOne := by
  rw [truncate, h]
  rfl

/-- Equal numbers have one integer part. -/
lemma truncate_congr {x y : Binary64} (h : x.equals y = true) : x.truncate = y.truncate := by
  obtain ⟨p, hx, hy⟩ := equals_iff.mp h
  rw [truncate_of_position? hx, truncate_of_position? hy]

/-- **Truncation does not pass an integer above.** -/
lemma tdiv_le {p v : ℤ} (h : p ≤ v * unitsPerOne) : p.tdiv unitsPerOne ≤ v := by
  have hunits : (0 : ℤ) < unitsPerOne := by exact_mod_cast unitsPerOne_pos
  have hsplit := Int.mul_tdiv_add_tmod p unitsPerOne
  have hrest : -(unitsPerOne : ℤ) < p.tmod unitsPerOne := Int.lt_tmod_of_pos p hunits
  by_contra hlt
  have hstep : (unitsPerOne : ℤ) * (v + 1) ≤ unitsPerOne * p.tdiv unitsPerOne :=
    mul_le_mul_of_nonneg_left (by omega) hunits.le
  rw [mul_add, mul_one, mul_comm _ v] at hstep
  omega

/-- **Truncation does not pass an integer below.** -/
lemma le_tdiv {p v : ℤ} (h : v * unitsPerOne ≤ p) : v ≤ p.tdiv unitsPerOne := by
  have hunits : (0 : ℤ) < unitsPerOne := by exact_mod_cast unitsPerOne_pos
  have hsplit := Int.mul_tdiv_add_tmod p unitsPerOne
  have hrest : p.tmod unitsPerOne < unitsPerOne := Int.tmod_lt_of_pos p hunits
  by_contra hlt
  have hstep : (unitsPerOne : ℤ) * p.tdiv unitsPerOne ≤ unitsPerOne * (v - 1) :=
    mul_le_mul_of_nonneg_left (by omega) hunits.le
  rw [mul_sub, mul_one, mul_comm _ v] at hstep
  omega

lemma IsInt.truncate {x : Binary64} {n : ℤ} (h : x.IsInt n) : x.truncate = n := by
  rw [truncate_of_position? h.position?]
  exact le_antisymm (tdiv_le le_rfl) (le_tdiv le_rfl)

end Binary64

end LinearProgram
