import LinearProgram.Proofs.LpText.Figures
import LinearProgram.Proofs.Number.Truncation

/-!
How the ends of bounds are written.

The policy has one rule for all of them: below the written integers an end is no limit downwards, above them it is no
limit upwards, and among them it is its integer part. A lower end is only looked at from below, though, and an upper end
only from above. An end that lies beyond the integers on the other side is therefore kept within them, and that is the
one place where the policy is not followed.

* `policyChars`: an end as the policy has it.
* `Figure.IsEnd`, `Figure.IsBeyond`, `Figure.farInteger`: ends, those that lie beyond the integers on the side of the
  other end, and the integer there.
* `lowerChars_of_*`, `upperChars_of_*`: a lower end and an upper end, by where it lies.
* `Problem.lpText_ends`: **the policy is followed except beyond the integers on the other side**, so that an end and the
  integer that is written for it differ by less than one.
* `Problem.not_followsPolicy_farEnd`: it is not followed there.
-/

namespace LinearProgram

/-- An end as the policy has it. -/
def policyChars (x : Binary64) : List Char :=
  if x.Below leastInteger then "- inf".toList
  else if x.Above greatestInteger then "+ inf".toList
  else integerChars (integerPart x.toRat)

namespace Figure

/-- Whether a number is an end of bounds. -/
def IsEnd : Figure → Prop
  | factor _ _ => False
  | lower _ | upper _ => True

/-- Whether a number is an end beyond the written integers, on the side of the other end. -/
def IsBeyond : Figure → Prop
  | factor _ _ => False
  | lower x => x.Above greatestInteger
  | upper x => x.Below leastInteger

instance : DecidablePred IsEnd
  | factor _ _ => inferInstanceAs (Decidable False)
  | lower _ | upper _ => inferInstanceAs (Decidable True)

instance : DecidablePred IsBeyond
  | factor _ _ => inferInstanceAs (Decidable False)
  | lower x => inferInstanceAs (Decidable (x.Above greatestInteger))
  | upper x => inferInstanceAs (Decidable (x.Below leastInteger))

/-- The last written integer on the side of the other end. -/
def farInteger : Figure → ℤ
  | lower _ => greatestInteger
  | factor _ _ | upper _ => leastInteger

end Figure

/-! ### Lower ends and upper ends -/

section Ends

variable {x : Binary64}

/-- What is written for an end that is kept within the integers. -/
lemma chars_ofEnd (sign : Char) (x : Binary64) :
    (Limit.ofEnd x).chars sign = integerChars (x.truncateWithin leastInteger greatestInteger) := rfl

lemma not_below_of_above {v w : ℚ} (hvw : v ≤ w) (h : x.Above w) : ¬x.Below v := by
  match x with
  | .nan => exact fun h' => h'.1
  | .infinite _ => exact fun h' => h'.2 h.1
  | .finite negative u hu =>
      rw [Binary64.above_iff rfl] at h
      rw [Binary64.below_iff rfl, not_lt]
      exact hvw.trans h.le

lemma leastInteger_le_greatestInteger : (leastInteger : ℚ) ≤ greatestInteger := by
  rw [Int.cast_le]
  decide

lemma lowerChars_of_below (h : x.Below leastInteger) : (Limit.ofLower x).lowerChars = "- inf".toList := by
  rw [Limit.ofLower, if_pos ((Binary64.less_iff_below Binary64.isInt_leastInteger).mpr h)]
  rfl

lemma upperChars_of_above (h : x.Above greatestInteger) : (Limit.ofUpper x).upperChars = "+ inf".toList := by
  rw [Limit.ofUpper, if_pos ((Binary64.less_iff_above Binary64.isInt_greatestInteger).mpr h)]
  rfl

/-- A lower end that is not below the integers is kept within them. -/
lemma lowerChars_of_not_below (h : ¬x.Below leastInteger) :
    (Limit.ofLower x).lowerChars = integerChars (x.truncateWithin leastInteger greatestInteger) := by
  rw [Limit.ofLower, if_neg (mt (Binary64.less_iff_below Binary64.isInt_leastInteger).mp h)]
  exact chars_ofEnd '-' x

/-- An upper end that is not above the integers is kept within them. -/
lemma upperChars_of_not_above (h : ¬x.Above greatestInteger) :
    (Limit.ofUpper x).upperChars = integerChars (x.truncateWithin leastInteger greatestInteger) := by
  rw [Limit.ofUpper, if_neg (mt (Binary64.less_iff_above Binary64.isInt_greatestInteger).mp h)]
  exact chars_ofEnd '+' x

/-- An end among the integers is its integer part. -/
lemma truncateWithin_of_among (hx : x ≠ .nan) (hlow : ¬x.Below leastInteger) (hhigh : ¬x.Above greatestInteger) :
    x.truncateWithin leastInteger greatestInteger = integerPart x.toRat :=
  Binary64.truncateWithin_of_between hx hlow hhigh

end Ends

namespace Figure

/-- **An end beyond the integers on the other side is the last of them.** -/
lemma chars_of_isBeyond {f : Figure} (h : f.IsBeyond) : f.chars = integerChars f.farInteger := by
  cases f with
  | factor column x => exact h.elim
  | lower x =>
      have hnot := not_below_of_above leastInteger_le_greatestInteger h
      have hlimit : greatestInteger * unitsPerOne ≤ magnitudeLimit := by decide +kernel
      rw [chars, lowerChars_of_not_below hnot, Binary64.truncateWithin_of_above hlimit (by decide) h, farInteger]
  | upper x =>
      have hnot : ¬x.Above greatestInteger := fun h' => not_below_of_above leastInteger_le_greatestInteger h' h
      have hlimit : -(magnitudeLimit : ℤ) ≤ leastInteger * unitsPerOne := by decide +kernel
      rw [chars, upperChars_of_not_above hnot, Binary64.truncateWithin_of_below hlimit h, farInteger]

/-- **Every other end is written by the policy.** -/
lemma chars_of_not_isBeyond {f : Figure} (hf : f.IsEnd) (hnan : f.value ≠ .nan) (h : ¬f.IsBeyond) :
    f.chars = policyChars f.value := by
  cases f with
  | factor column x => exact hf.elim
  | lower x =>
      have hx : x ≠ .nan := hnan
      have hhigh : ¬x.Above greatestInteger := h
      rw [chars, policyChars, value, if_neg hhigh]
      by_cases hlow : x.Below leastInteger
      · rw [if_pos hlow, lowerChars_of_below hlow]
      · rw [if_neg hlow, lowerChars_of_not_below hlow, truncateWithin_of_among hx hlow hhigh]
  | upper x =>
      have hx : x ≠ .nan := hnan
      have hlow : ¬x.Below leastInteger := h
      rw [chars, policyChars, value, if_neg hlow]
      by_cases hhigh : x.Above greatestInteger
      · rw [if_pos hhigh, upperChars_of_above hhigh]
      · rw [if_neg hhigh, upperChars_of_not_above hhigh, truncateWithin_of_among hx hlow hhigh]

/-- Beyond the integers the policy has no integer. -/
lemma chars_ne_of_isBeyond {f : Figure} (h : f.IsBeyond) : f.chars ≠ policyChars f.value := by
  rw [chars_of_isBeyond h, policyChars]
  cases f with
  | factor column x => exact h.elim
  | lower x =>
      have hhigh : x.Above greatestInteger := h
      rw [value, if_neg (not_below_of_above leastInteger_le_greatestInteger hhigh), if_pos hhigh]
      exact (infinity_ne_integerChars '+' _).symm
  | upper x =>
      have hlow : x.Below leastInteger := h
      rw [value, if_pos hlow]
      exact (infinity_ne_integerChars '-' _).symm

/-- An integer that the policy writes differs from its end by less than one. -/
lemma near_of_policyChars {x : Binary64} (hx : x ≠ .nan) {n : ℤ} (h : policyChars x = integerChars n) :
    x.isFinite = true ∧ |x.toRat - n| < 1 := by
  rw [policyChars] at h
  split at h
  case isTrue => exact absurd h (infinity_ne_integerChars '-' n)
  case isFalse hlow =>
      split at h
      case isTrue => exact absurd h (infinity_ne_integerChars '+' n)
      case isFalse hhigh =>
          rw [← integerChars_injective h]
          exact ⟨Binary64.isFinite_of_between hx hlow hhigh, abs_sub_integerPart_lt_one x.toRat⟩

end Figure

/-! ### Texts -/

namespace Problem

/-- **The policy is followed for every end in a text, except beyond the integers on the side of the other end**: there,
a lower end is the greatest integer and an upper end is the least one. Everywhere else an end and the integer that is
written for it differ by less than one. -/
theorem lpText_ends {p : Problem} {width : ℕ} {text : String} (h : (p.lpText width).value = .ok text) :
    text = String.ofList (Stretch.charsOf (p.stretches width)) ∧ Stretch.figuresOf (p.stretches width) = p.figures
      ∧ ∀ f ∈ p.figures, f.IsEnd → f.value ≠ .nan →
        (f.chars = policyChars f.value ↔ ¬f.IsBeyond)
        ∧ (f.IsBeyond → f.chars = integerChars f.farInteger)
        ∧ ∀ n, f.chars = integerChars n → ¬f.IsBeyond → f.value.isFinite = true ∧ |f.value.toRat - n| < 1 := by
  refine ⟨text_of_lpText h, p.figuresOf_stretches width, fun f _ hend hnan => ⟨⟨?_, ?_⟩, ?_, ?_⟩⟩
  · exact fun hpolicy hbeyond => Figure.chars_ne_of_isBeyond hbeyond hpolicy
  · exact Figure.chars_of_not_isBeyond hend hnan
  · exact Figure.chars_of_isBeyond
  · intro n hn hbeyond
    exact Figure.near_of_policyChars hnan ((Figure.chars_of_not_isBeyond hend hnan hbeyond).symm.trans hn)

/-- Whether every end in the text of a problem is written by the policy. -/
def FollowsPolicy (p : Problem) : Prop := ∀ f ∈ p.figures, f.IsEnd → f.value ≠ .nan → f.chars = policyChars f.value

instance (p : Problem) : Decidable p.FollowsPolicy := inferInstanceAs (Decidable (∀ f ∈ p.figures, _))

/-- A problem with a row whose lower end lies beyond the integers, and a column between `0.5` and `9.9`. -/
def farRow : Problem :=
  ofBounds (.lower (.ofInt 3000000000))
    (.lowerUpper (Decimal.toBinary64 false ⟨5, -1⟩) (Decimal.toBinary64 false ⟨99, -1⟩))

/-- The text of that problem. -/
def farRowText : String :=
  "\\* Problem: p *\\\nMinimize\n obj: + x0\n\nSubject To\n r0: + x0 >= 2147483647\n\nBounds\n 0 <= x0 <= 9\n\n"
    ++ "Generals\n x0\n\nEnd\n"

theorem lpText_ends_farRow :
    (farRow.lpText 0).value = .ok farRowText
      ∧ (Figure.lower (.ofInt 3000000000)).chars = integerChars 2147483647
      ∧ (Figure.upper (Decimal.toBinary64 false ⟨99, -1⟩)).chars = policyChars (Decimal.toBinary64 false ⟨99, -1⟩)
      ∧ |(Decimal.toBinary64 false ⟨99, -1⟩).toRat - 9| < 1 := by
  have htext : (farRow.lpText 0).value = .ok farRowText := by decide +kernel
  obtain ⟨-, -, hends⟩ := lpText_ends htext
  obtain ⟨-, hfar, -⟩ := hends (.lower (.ofInt 3000000000)) (by decide +kernel) trivial (by decide +kernel)
  obtain ⟨hpolicy, -, hnear⟩ :=
    hends (.upper (Decimal.toBinary64 false ⟨99, -1⟩)) (by decide +kernel) trivial (by decide +kernel)
  rw [Figure.value] at hpolicy hnear
  have hbeyond : (Figure.lower (.ofInt 3000000000)).IsBeyond := by decide +kernel
  have hamong : ¬(Figure.upper (Decimal.toBinary64 false ⟨99, -1⟩)).IsBeyond := by decide +kernel
  have hnine : (Figure.upper (Decimal.toBinary64 false ⟨99, -1⟩)).chars = integerChars 9 := by decide +kernel
  exact ⟨htext, hfar hbeyond, hpolicy.mpr hamong, (hnear 9 hnine hamong).2⟩

/-- **The policy is not followed beyond the integers on the other side**: a sum of at least `3000000000` is written as
one of at least `2147483647`, and a column of at most `-3000000000` as one of at most `-2147483648`. -/
theorem not_followsPolicy_farEnd :
    ((ofBounds (.lower (.ofInt 3000000000)) (.upper (.ofInt (-3000000000)))).lpText 0).value
        = .ok ("\\* Problem: p *\\\nMinimize\n obj: + x0\n\nSubject To\n r0: + x0 >= 2147483647\n\n"
          ++ "Bounds\n - inf <= x0 <= -2147483648\n\nGenerals\n x0\n\nEnd\n")
      ∧ ¬(ofBounds (.lower (.ofInt 3000000000)) .free).FollowsPolicy
      ∧ ¬(ofBounds .free (.upper (.ofInt (-3000000000)))).FollowsPolicy := by
  refine ⟨by decide +kernel, by decide +kernel, by decide +kernel⟩

end Problem

end LinearProgram
