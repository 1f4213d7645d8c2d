import Mathlib.Data.List.TakeWhile
import LinearProgram.Proofs.Number.Digits

/-!
The round trip of numbers through their text.

A decimal stands for a rational, `Decimal.toRat`, and both its magnitude and what its positional form reads as
depend on that rational only. The digits of a number are chosen so that their decimal has the magnitude of the
number, so reading them gives the number back.

* `roundToGrid_mul_right`, `magnitude_congr`: rounding depends on the quotient alone.
* `magnitude_exact`: the exact form of a magnitude has that magnitude.
* `magnitude_shortest`: so have the fewest digits that are written.
* `read?_positional`: the positional form is read as a decimal of the same rational.
* `Binary64.readChars_chars`: **a number other than `nan` is read back from its text**.
-/

namespace LinearProgram

/-! ### Rounding a quotient -/

lemma nearestEven_mul_right (num den : ℕ) {k : ℕ} (hk : 0 < k) :
    nearestEven (num * k) (den * k) = nearestEven num den := by
  have hquot : num * k / (den * k) = num / den := Nat.mul_div_mul_right _ _ hk
  have hrest : num * k % (den * k) = num % den * k := Nat.mul_mod_mul_right _ _ _
  have hbelow : 2 * (num % den * k) < den * k ↔ 2 * (num % den) < den := by
    rw [← mul_assoc]
    exact Nat.mul_lt_mul_right hk
  have habove : den * k < 2 * (num % den * k) ↔ den < 2 * (num % den) := by
    rw [← mul_assoc]
    exact Nat.mul_lt_mul_right hk
  simp only [nearestEven, hquot, hrest, hbelow, habove]

/-- Rounding a quotient depends on the quotient alone. -/
lemma roundToGrid_mul_right (num den : ℕ) {k : ℕ} (hk : 0 < k) :
    roundToGrid (num * k) (den * k) = roundToGrid num den := by
  have hquot : num * k / (den * k) = num / den := Nat.mul_div_mul_right _ _ hk
  rw [roundToGrid, roundToGrid, hquot, mul_right_comm, nearestEven_mul_right _ _ hk]

/-- A magnitude is the magnitude nearest to itself. -/
lemma roundToGrid_of_onGrid {u den : ℕ} (hu : OnGrid u) (hden : 0 < den) :
    roundToGrid (u * den) den = u := by
  have hone : roundToGrid (u * den) den = roundToGrid u 1 := by
    simpa using roundToGrid_mul_right u 1 hden
  obtain ⟨k, hk⟩ := hu.2
  have hdiv : u / spacing u = k := Nat.div_eq_of_eq_mul_right (spacing_pos u) hk
  have hmod : u % spacing u = 0 := Nat.mod_eq_zero_of_dvd hu.2
  have hnear : nearestEven u (spacing u) = k := by
    rw [nearestEven]
    simp only [hmod, hdiv]
    rw [if_pos (spacing_pos u)]
  rw [hone, roundToGrid, Nat.div_one, one_mul, hnear]
  exact hk.symm

lemma unitsPerOne_eq : unitsPerOne = 2 ^ 1074 := Nat.pow_eq

/-! ### Decimals as rationals -/

namespace Decimal

/-- The rational that a decimal writes. -/
def toRat (d : Decimal) : ℚ := d.digits * 10 ^ d.exponent

lemma denominator_pos (d : Decimal) : 0 < d.denominator := Nat.pow_pos (by decide)

/-- Numerator and denominator make up the rational, counted in units. -/
lemma numerator_eq (d : Decimal) : (d.numerator : ℚ) = d.toRat * unitsPerOne * d.denominator := by
  have hpow : (10 : ℚ) ^ d.exponent.toNat = 10 ^ d.exponent * 10 ^ (-d.exponent).toNat := by
    rw [← zpow_natCast, ← zpow_natCast, ← zpow_add₀ (by norm_num)]
    congr 1
    omega
  simp only [numerator, denominator, toRat, Nat.pow_eq, Nat.cast_mul, Nat.cast_pow, Nat.cast_ofNat]
  rw [hpow]
  ring

/-- **The magnitude of a decimal depends on its rational alone.** -/
lemma magnitude_congr {d e : Decimal} (h : d.toRat = e.toRat) : d.magnitude = e.magnitude := by
  have hcross : d.numerator * e.denominator = e.numerator * d.denominator := by
    have hq : (d.numerator : ℚ) * e.denominator = e.numerator * d.denominator := by
      rw [numerator_eq, numerator_eq, h]
      ring
    exact_mod_cast hq
  calc d.magnitude
      = roundToGrid (d.numerator * e.denominator) (d.denominator * e.denominator) :=
        (roundToGrid_mul_right _ _ e.denominator_pos).symm
    _ = roundToGrid (e.numerator * d.denominator) (e.denominator * d.denominator) := by
        rw [hcross, mul_comm d.denominator]
    _ = e.magnitude := roundToGrid_mul_right _ _ d.denominator_pos

/-- A decimal is read as the number of its magnitude. -/
lemma toBinary64_eq {d : Decimal} {u : ℕ} (h : d.magnitude = u) (hu : OnGrid u) (negative : Bool) :
    d.toBinary64 negative = .finite negative u hu := by
  have hround : roundToGrid d.numerator d.denominator = u := h
  simp only [toBinary64, Binary64.ofQuotient, hround]
  rw [dif_pos hu.1]

/-! ### The digits of a magnitude -/

/-- **The exact form of a magnitude is that many units.** -/
lemma toRat_exact (u : ℕ) : (exact u).toRat * unitsPerOne = u := by
  have hdvd : Nat.gcd u unitsPerOne ∣ 2 ^ 1074 := by
    rw [← unitsPerOne_eq]
    exact Nat.gcd_dvd_right _ _
  obtain ⟨k, hk, hcommon⟩ := (Nat.dvd_prime_pow Nat.prime_two).mp hdvd
  have hlog : (2 ^ k).log2 = k := Nat.log2_two_pow
  obtain ⟨m, hm⟩ : 2 ^ k ∣ u := hcommon ▸ Nat.gcd_dvd_left u unitsPerOne
  have hquot : u / 2 ^ k = m := Nat.div_eq_of_eq_mul_right (Nat.two_pow_pos k) hm
  have hunits : (unitsPerOne : ℚ) = 2 ^ k * 2 ^ (1074 - k) := by
    rw [unitsPerOne_eq, ← pow_add, Nat.add_sub_cancel' hk]
    push_cast
    rfl
  have hten : (10 : ℚ) ^ (1074 - k) = 5 ^ (1074 - k) * 2 ^ (1074 - k) := by
    rw [← mul_pow]
    norm_num
  simp only [exact, toRat, hcommon, hlog, hquot, Nat.pow_eq, Nat.cast_mul, Nat.cast_pow, Nat.cast_ofNat,
    zpow_neg, zpow_natCast]
  rw [hunits, hten]
  have hu : (u : ℚ) = 2 ^ k * m := by
    rw [hm]
    push_cast
    rfl
  rw [hu]
  field_simp

lemma magnitude_exact {u : ℕ} (hu : OnGrid u) : (exact u).magnitude = u := by
  have hnum : (exact u).numerator = u * (exact u).denominator := by
    have hq : ((exact u).numerator : ℚ) = u * (exact u).denominator := by
      rw [numerator_eq, toRat_exact]
    exact_mod_cast hq
  rw [magnitude, hnum, roundToGrid_of_onGrid hu (denominator_pos _)]

lemma magnitude_zero : (⟨0, 0⟩ : Decimal).magnitude = 0 := by
  have hnum : (⟨0, 0⟩ : Decimal).numerator = 0 * (⟨0, 0⟩ : Decimal).denominator := by
    simp only [numerator, Nat.zero_mul]
  rw [magnitude, hnum, roundToGrid_of_onGrid onGrid_zero (denominator_pos _)]

/-- What is taken from a grid of digits reads back. -/
lemma magnitude_of_reading? {u : ℕ} {whole d : Decimal} {dropped : ℕ}
    (h : reading? u whole dropped = some d) : d.magnitude = u := by
  have hfound := List.find?_some h
  simpa using hfound

/-- **The digits that are written have the magnitude of the number.** -/
lemma magnitude_shortest {u : ℕ} (hu : OnGrid u) : (shortest u).magnitude = u := by
  rw [shortest]
  cases h : (List.range 17).findSome? fun i =>
      reading? u (exact u) ((digitChars (exact u).digits).length - (i + 1)) with
  | none => exact magnitude_exact hu
  | some d =>
      obtain ⟨i, -, hi⟩ := List.exists_of_findSome?_eq_some h
      exact magnitude_of_reading? hi

/-- Zeros at the end of the digits may be moved into the exponent. -/
lemma toRat_strip (d : Decimal) : d.strip.toRat = d.toRat := by
  induction d using strip.induct with
  | case1 d h ih =>
      have hdigits : (d.digits : ℚ) = (d.digits / 10 : ℕ) * 10 := by
        exact_mod_cast (Nat.div_mul_cancel (Nat.dvd_of_mod_eq_zero h.2)).symm
      rw [strip, dif_pos h, ih, toRat, toRat, hdigits, zpow_add₀ (by norm_num), zpow_one]
      ring
  | case2 d h => rw [strip, dif_neg h]

/-! ### Reading the positional form -/

lemma takeWhile_isDigit {ds : List Char} (hds : ∀ c ∈ ds, isDigit c = true) {c : Char}
    (hc : isDigit c = false) (s : List Char) :
    (ds ++ c :: s).takeWhile isDigit = ds ∧ (ds ++ c :: s).dropWhile isDigit = c :: s := by
  rw [List.takeWhile_append_of_pos hds, List.dropWhile_append_of_pos hds,
    List.takeWhile_cons_of_neg (by simp [hc]), List.dropWhile_cons_of_neg (by simp [hc])]
  simp

/-- Digits without a point are read as a whole number. -/
lemma read?_digits {ds : List Char} (hne : ds ≠ []) (hds : ∀ c ∈ ds, isDigit c = true) :
    read? ds = some ⟨valueOfDigits ds, 0⟩ := by
  have htake : ds.takeWhile isDigit = ds := List.takeWhile_eq_self_iff.mpr hds
  have hdrop : ds.dropWhile isDigit = [] := List.dropWhile_eq_nil_iff.mpr hds
  simp [read?, htake, hdrop, hne, readExponent?]

/-- Digits with a point among them are read with the places behind the point. -/
lemma read?_point (ws ps : List Char) (hne : ws ≠ []) (hws : ∀ c ∈ ws, isDigit c = true)
    (hps : ∀ c ∈ ps, isDigit c = true) :
    read? (ws ++ '.' :: ps) = some ⟨valueOfDigits (ws ++ ps), -ps.length⟩ := by
  obtain ⟨htake, hdrop⟩ := takeWhile_isDigit hws (c := '.') rfl ps
  have htakes : ps.takeWhile isDigit = ps := List.takeWhile_eq_self_iff.mpr hps
  have hdrops : ps.dropWhile isDigit = [] := List.dropWhile_eq_nil_iff.mpr hps
  simp [read?, htake, hdrop, htakes, hdrops, hne, readExponent?]

lemma valueOfDigits_zeros_append (n : ℕ) (ds : List Char) :
    valueOfDigits (List.replicate n '0' ++ ds) = valueOfDigits ds := by
  induction n with
  | zero => rfl
  | succ n ih =>
      rw [List.replicate_succ, List.cons_append]
      exact ih

lemma valueOfDigits_append_zeros (ds : List Char) (n : ℕ) :
    valueOfDigits (ds ++ List.replicate n '0') = valueOfDigits ds * 10 ^ n := by
  induction n with
  | zero => simp
  | succ n ih =>
      rw [List.replicate_succ', ← List.append_assoc, valueOfDigits, List.foldl_append, ← valueOfDigits, ih]
      simp only [List.foldl_cons, List.foldl_nil]
      rw [show digitValue '0' = 0 from rfl, pow_succ]
      ring

lemma isDigit_of_mem_zeros {n : ℕ} {c : Char} (h : c ∈ List.replicate n '0') : isDigit c = true := by
  rw [List.eq_of_mem_replicate h]
  rfl

/-- **The positional form of a decimal is read as a decimal of the same rational.** -/
lemma read?_positional (d : Decimal) : ∃ e, read? d.positional = some e ∧ e.toRat = d.toRat := by
  have hdigits : ∀ c ∈ digitChars d.digits, isDigit c = true := fun c hc => isDigit_of_mem_digitChars hc
  have hne := digitChars_ne_nil d.digits
  rw [positional]
  simp only
  split
  case isTrue hexp =>
      -- zeros behind the digits, and no point
      refine ⟨_, read?_digits (by simp [hne]) fun c hc => ?_, ?_⟩
      · rcases List.mem_append.mp hc with hc | hc
        · exact hdigits c hc
        · exact isDigit_of_mem_zeros hc
      · have hpow : (10 : ℚ) ^ d.exponent = 10 ^ d.exponent.toNat := by
          rw [← zpow_natCast, Int.toNat_of_nonneg hexp]
        rw [valueOfDigits_append_zeros, valueOfDigits_digitChars, toRat, toRat, hpow]
        push_cast
        exact mul_one _
  case isFalse hexp =>
      have hplaces : ((-d.exponent).toNat : ℤ) = -d.exponent := Int.toNat_of_nonneg (by omega)
      split
      case isTrue hlt =>
          -- the point stands among the digits
          have hread := read?_point
            ((digitChars d.digits).take ((digitChars d.digits).length - (-d.exponent).toNat))
            ((digitChars d.digits).drop ((digitChars d.digits).length - (-d.exponent).toNat))
            (by simp [hne]; omega)
            (fun c hc => hdigits c (List.mem_of_mem_take hc))
            (fun c hc => hdigits c (List.mem_of_mem_drop hc))
          refine ⟨_, hread, ?_⟩
          rw [List.take_append_drop, valueOfDigits_digitChars, List.length_drop]
          congr 2
          show -((_ - (_ - _) : ℕ) : ℤ) = d.exponent
          omega
      case isFalse hlt =>
          -- zeros stand between the point and the digits
          have hread := read?_point ['0']
            (List.replicate ((-d.exponent).toNat - (digitChars d.digits).length) '0'
              ++ digitChars d.digits)
            (by simp) (by simp; rfl)
            (fun c hc => by
              rcases List.mem_append.mp hc with hc | hc
              · exact isDigit_of_mem_zeros hc
              · exact hdigits c hc)
          refine ⟨_, hread, ?_⟩
          have hvalue := valueOfDigits_zeros_append
            ((-d.exponent).toNat - (digitChars d.digits).length + 1) (digitChars d.digits)
          rw [List.replicate_succ, List.cons_append, valueOfDigits_digitChars] at hvalue
          rw [List.singleton_append, hvalue, List.length_append, List.length_replicate]
          congr 2
          show -((_ - _ + _ : ℕ) : ℤ) = d.exponent
          omega

/-- The positional form consists of digits and points. -/
lemma mem_positional {d : Decimal} {c : Char} (h : c ∈ d.positional) : isDigit c = true ∨ c = '.' := by
  have hdigits : ∀ c ∈ digitChars d.digits, isDigit c = true ∨ c = '.' :=
    fun c hc => Or.inl (isDigit_of_mem_digitChars hc)
  rw [positional] at h
  simp only at h
  split at h
  · rcases List.mem_append.mp h with h | h
    · exact hdigits c h
    · exact Or.inl (isDigit_of_mem_zeros h)
  · split at h
    · rcases List.mem_append.mp h with h | h
      · exact hdigits c (List.mem_of_mem_take h)
      · rcases List.mem_cons.mp h with rfl | h
        · exact Or.inr rfl
        · exact hdigits c (List.mem_of_mem_drop h)
    · rcases List.mem_append.mp h with h | h
      · rcases List.mem_cons.mp h with rfl | h
        · exact Or.inl rfl
        · rcases List.mem_cons.mp h with rfl | h
          · exact Or.inr rfl
          · exact Or.inl (isDigit_of_mem_zeros h)
      · exact hdigits c h

end Decimal

/-! ### Numbers -/

namespace Binary64

/-- The first character of a magnitude is a digit. -/
lemma magnitudeChars_cons (u : ℕ) :
    ∃ c cs, magnitudeChars u = c :: cs ∧ isDigit c = true := by
  rw [magnitudeChars]
  split
  · exact ⟨'0', [], rfl, rfl⟩
  · generalize (Decimal.shortest u).strip = d
    have hdigits : ∀ c ∈ Decimal.digitChars d.digits, isDigit c = true :=
      fun c hc => Decimal.isDigit_of_mem_digitChars hc
    obtain ⟨c, cs, hcs⟩ := List.exists_cons_of_ne_nil (Decimal.digitChars_ne_nil d.digits)
    have hc : isDigit c = true := hdigits c (hcs ▸ List.mem_cons_self)
    rw [Decimal.positional]
    simp only [hcs]
    split
    · exact ⟨c, _, rfl, hc⟩
    · split
      · rename_i hlt
        obtain ⟨k, hk⟩ : ∃ k, (c :: cs).length - (-d.exponent).toNat = k + 1 :=
          ⟨_, (Nat.succ_pred_eq_of_pos (Nat.sub_pos_of_lt hlt)).symm⟩
        rw [hk, List.take_succ_cons]
        exact ⟨c, _, rfl, hc⟩
      · exact ⟨'0', _, rfl, rfl⟩

/-- The text of a number is a word. -/
lemma isWord_chars (x : Binary64) : IsWord x.chars := by
  have hmagnitude : ∀ u, IsWord (magnitudeChars u) := by
    intro u
    obtain ⟨c, cs, hcs, -⟩ := magnitudeChars_cons u
    refine ⟨by simp [hcs], fun c hc => ?_⟩
    rw [magnitudeChars] at hc
    split at hc
    · rw [List.mem_singleton.mp hc]
      rfl
    · rcases Decimal.mem_positional hc with hc | rfl
      · exact isBlank_of_isDigit hc
      · rfl
  match x with
  | .nan => decide
  | .infinite false => decide
  | .infinite true => decide
  | .finite false u _ => exact hmagnitude u
  | .finite true u _ =>
      refine ⟨by simp [chars], fun c hc => ?_⟩
      rcases List.mem_cons.mp hc with rfl | hc
      · rfl
      · exact (hmagnitude u).solid c hc

/-- The text of a magnitude is read as a decimal of that magnitude. -/
lemma read?_magnitudeChars {u : ℕ} (hu : OnGrid u) :
    ∃ d, Decimal.read? (magnitudeChars u) = some d ∧ d.magnitude = u := by
  rw [magnitudeChars]
  split
  case isTrue hzero =>
      subst hzero
      exact ⟨⟨0, 0⟩, rfl, Decimal.magnitude_zero⟩
  case isFalse =>
      obtain ⟨d, hread, hd⟩ := Decimal.read?_positional (Decimal.shortest u).strip
      refine ⟨d, hread, ?_⟩
      rw [Decimal.magnitude_congr (hd.trans (Decimal.toRat_strip _)), Decimal.magnitude_shortest hu]

lemma readUnsigned_magnitudeChars {u : ℕ} (hu : OnGrid u) (negative : Bool) :
    readUnsigned negative (magnitudeChars u) = .ok (.finite negative u hu) := by
  obtain ⟨d, hread, hd⟩ := read?_magnitudeChars hu
  rw [readUnsigned, hread]
  simp only [Decimal.toBinary64_eq hd hu]

/-- **A number other than `nan` is read back from its text.** -/
lemma readChars_chars {x : Binary64} (hx : x.isNan = false) : readChars x.chars = .ok x := by
  match x with
  | .infinite false => decide
  | .infinite true => decide
  | .finite false u hu =>
      obtain ⟨c, cs, hcs, hc⟩ := magnitudeChars_cons u
      have hread := readUnsigned_magnitudeChars hu false
      rw [chars, hcs] at *
      have hminus : c ≠ '-' := by
        rintro rfl
        exact absurd hc (by decide)
      have hplus : c ≠ '+' := by
        rintro rfl
        exact absurd hc (by decide)
      unfold readChars
      split <;> simp_all
  | .finite true u hu =>
      rw [chars, readChars]
      exact readUnsigned_magnitudeChars hu true

end Binary64

end LinearProgram
