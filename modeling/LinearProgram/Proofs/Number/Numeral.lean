import LinearProgram.Proofs.Number.Whole

/-!
Numerals: words that write a rational.

* `numeral?`: the rational of a word.
* `numeral?_integerChars`: an integer is written as its numeral.
* `isNumeral_text`: the text of a finite number is a numeral, and **that of a whole number writes the number
  itself** (`numeral?_text`).
-/

namespace LinearProgram

/-- The rational that a numeral writes: a decimal, perhaps behind a minus sign. -/
def numeral? (word : String) : Option ℚ :=
  match word.toList with
  | '-' :: cs => (Decimal.read? cs).map fun d => -d.toRat
  | cs => (Decimal.read? cs).map Decimal.toRat

/-- Whether a word is a numeral. -/
def isNumeral (word : String) : Bool := (numeral? word).isSome

lemma numeral?_minus (cs : List Char) :
    numeral? (String.ofList ('-' :: cs)) = (Decimal.read? cs).map fun d => -d.toRat := by
  simp [numeral?]

lemma numeral?_of_ne_minus {c : Char} (hc : c ≠ '-') (cs : List Char) :
    numeral? (String.ofList (c :: cs)) = (Decimal.read? (c :: cs)).map Decimal.toRat := by
  simp only [numeral?, String.toList_ofList]
  split
  · simp_all
  · rfl

/-- A digit is not a minus sign. -/
lemma ne_minus_of_isDigit {c : Char} (hc : isDigit c = true) : c ≠ '-' := by
  rintro rfl
  exact absurd hc (by decide)

lemma numeral?_digitChars (n : ℕ) : numeral? (String.ofList (Decimal.digitChars n)) = some (n : ℚ) := by
  have hread := Decimal.read?_digits (Decimal.digitChars_ne_nil n)
    fun c hc => Decimal.isDigit_of_mem_digitChars hc
  obtain ⟨c, cs, hcs⟩ := List.exists_cons_of_ne_nil (Decimal.digitChars_ne_nil n)
  have hc : isDigit c = true := Decimal.isDigit_of_mem_digitChars (hcs ▸ List.mem_cons_self)
  rw [hcs, numeral?_of_ne_minus (ne_minus_of_isDigit hc), ← hcs, hread]
  simp [Decimal.toRat]

/-- **An integer is written as its numeral.** -/
lemma numeral?_integerChars (n : ℤ) : numeral? (String.ofList (integerChars n)) = some (n : ℚ) := by
  rw [integerChars]
  split
  case isTrue hneg =>
      have hread := Decimal.read?_digits (Decimal.digitChars_ne_nil n.natAbs)
        fun c hc => Decimal.isDigit_of_mem_digitChars hc
      have habs : (n.natAbs : ℚ) = -(n : ℚ) := by
        rw [Nat.cast_natAbs, abs_of_neg hneg]
        push_cast
        rfl
      rw [numeral?_minus, hread]
      simp [Decimal.toRat, habs]
  case isFalse hnonneg =>
      have habs : (n.natAbs : ℚ) = n := by
        rw [Nat.cast_natAbs, abs_of_nonneg (by omega)]
      rw [numeral?_digitChars, habs]

lemma isNumeral_integerChars (n : ℤ) : isNumeral (String.ofList (integerChars n)) = true := by
  rw [isNumeral, numeral?_integerChars]
  rfl

/-- A finite number is written as the numeral of its magnitude, behind its sign. -/
lemma numeral?_text_finite {negative : Bool} {u : ℕ} (hu : OnGrid u) {d : Decimal}
    (hread : Decimal.read? (magnitudeChars u) = some d) :
    numeral? (Binary64.finite negative u hu).text = some (if negative then -d.toRat else d.toRat) := by
  rw [Binary64.text]
  cases negative with
  | false =>
      obtain ⟨c, cs, hcs, hc⟩ := Binary64.magnitudeChars_cons u
      rw [Binary64.chars, hcs, numeral?_of_ne_minus (ne_minus_of_isDigit hc), ← hcs, hread]
      rfl
  | true =>
      rw [Binary64.chars, numeral?_minus, hread]
      rfl

/-- The text of a finite number is a numeral. -/
lemma isNumeral_text {x : Binary64} (hx : x.isFinite = true) : isNumeral x.text = true := by
  match x with
  | .finite negative u hu =>
      obtain ⟨d, hread, -⟩ := Binary64.read?_magnitudeChars hu
      rw [isNumeral, numeral?_text_finite hu hread]
      rfl

/-- The magnitude of a whole number is written as itself. -/
lemma read?_magnitudeChars_whole {m : ℕ} (hm : m < 2 ^ 52) :
    ∃ d, Decimal.read? (magnitudeChars (m * unitsPerOne)) = some d ∧ d.toRat = m := by
  rw [magnitudeChars]
  split
  case isTrue hzero =>
      have hm0 : m = 0 := (Nat.mul_eq_zero.mp hzero).resolve_right unitsPerOne_pos.ne'
      exact ⟨⟨0, 0⟩, rfl, by simp [Decimal.toRat, hm0]⟩
  case isFalse =>
      obtain ⟨d, hread, hd⟩ := Decimal.read?_positional (Decimal.shortest (m * unitsPerOne)).strip
      exact ⟨d, hread, by rw [hd, Decimal.toRat_strip, Decimal.toRat_shortest hm]⟩

/-- **The text of a whole number writes the number itself.** -/
lemma numeral?_text {x : Binary64} {n : ℤ} (hx : x.IsInt n) (hn : n.natAbs < 2 ^ 52) :
    numeral? x.text = some (n : ℚ) := by
  have hunits : (unitsPerOne : ℚ) ≠ 0 := by exact_mod_cast unitsPerOne_pos.ne'
  obtain ⟨d, hread, hd⟩ := read?_magnitudeChars_whole hn
  match x with
  | .nan | .infinite _ => cases hx.isFinite
  | .finite negative u hu =>
      rw [← hx.units] at hread
      -- the decimal that is read is the magnitude of the number, so with the sign it is the number
      have hmagnitude : d.toRat = u / unitsPerOne := by
        rw [hd, hx.units, Nat.cast_mul, mul_div_cancel_right₀ _ hunits]
      rw [numeral?_text_finite hu hread, hmagnitude, ← hx.toRat]
      cases negative <;> rfl

end LinearProgram
