import LinearProgram.Bounds
import LinearProgram.Number.Natural
import LinearProgram.Proofs.Text.Fields

/-!
Digits: what the written forms of natural numbers and of integers look like, and that they read back.

* `isDigit_of_mem_digitChars`, `isWord_digitChars`: a natural number is written as digits, a word.
* `valueOfDigits_digitChars`, `digitChars_valueOfDigits`: **the digits of a number have its value**, and without a
  spare zero at the front there are no others that have.
* `readNaturalChars_digitChars`: a number up to the largest one is read back.
* `integerChars_injective`: an integer is known from its text.
-/

namespace LinearProgram

/-! ### Single digits -/

lemma isDigit_iff {c : Char} : isDigit c = true ↔ 48 ≤ c.toNat ∧ c.toNat ≤ 57 := by
  simp only [isDigit, Bool.and_eq_true, decide_eq_true_eq, Char.le_def, UInt32.le_iff_toNat_le]
  rfl

lemma isDigit_eq (c : Char) : isDigit c = c.isDigit := by
  rw [Bool.eq_iff_iff, isDigit_iff, Char.isDigit, Bool.and_eq_true, decide_eq_true_eq, decide_eq_true_eq]
  simp only [ge_iff_le, UInt32.le_iff_toNat_le]
  rfl

/-- A digit is not blank. -/
lemma isBlank_of_isDigit {c : Char} (h : isDigit c = true) : isBlank c = false := by
  obtain ⟨h1, h2⟩ := isDigit_iff.mp h
  simp only [isBlank, inRanges, blankRanges, List.any_cons, List.any_nil, Bool.or_false,
    Bool.or_eq_false_iff, Bool.and_eq_false_iff, decide_eq_false_iff_not]
  omega

/-! ### Natural numbers -/

namespace Decimal

lemma digitChars_ne_nil (n : ℕ) : digitChars n ≠ [] := Nat.toDigits_ne_nil

lemma isDigit_of_mem_digitChars {n : ℕ} {c : Char} (h : c ∈ digitChars n) : isDigit c = true := by
  rw [isDigit_eq]
  exact Nat.isDigit_of_mem_toDigits (by decide) (by decide) h

/-- A natural number is written as a word. -/
lemma isWord_digitChars (n : ℕ) : IsWord (digitChars n) :=
  ⟨digitChars_ne_nil n, fun _ hc => isBlank_of_isDigit (isDigit_of_mem_digitChars hc)⟩

lemma valueOfDigits_eq_ofDigitChars (ds : List Char) : valueOfDigits ds = Nat.ofDigitChars 10 ds 0 :=
  rfl

/-- **The digits of a number have its value.** -/
@[simp] lemma valueOfDigits_digitChars (n : ℕ) : valueOfDigits (digitChars n) = n := by
  rw [valueOfDigits_eq_ofDigitChars]
  exact Nat.ofDigitChars_ten_toDigits

lemma digitChars_injective : Function.Injective digitChars := fun m n h => by
  rw [← valueOfDigits_digitChars m, h, valueOfDigits_digitChars]

lemma digitValue_lt_ten {c : Char} (hc : isDigit c = true) : digitValue c < 10 := by
  have hhigh := (isDigit_iff.mp hc).2
  rw [digitValue]
  omega

/-- A digit is what its value is written with. -/
lemma digitChars_digitValue {c : Char} (hc : isDigit c = true) : digitChars (digitValue c) = [c] := by
  have hlow := (isDigit_iff.mp hc).1
  rw [digitChars, Nat.toDigits_of_lt_base (digitValue_lt_ten hc), List.singleton_inj, ← Char.toNat_inj,
    Nat.toNat_digitChar_of_lt_ten (digitValue_lt_ten hc), digitValue]
  omega

/-- Digits behind those of a positive number go on writing it. -/
lemma digitChars_append {ds : List Char} (hds : ∀ c ∈ ds, isDigit c = true) {n : ℕ} (hn : 0 < n) :
    digitChars n ++ ds = digitChars (ds.foldl (fun n c => 10 * n + digitValue c) n) := by
  induction ds generalizing n with
  | nil => rw [List.append_nil, List.foldl_nil]
  | cons c cs ih =>
      have hc := hds c List.mem_cons_self
      have hstep : digitChars n ++ digitChars (digitValue c) = digitChars (10 * n + digitValue c) :=
        Nat.toDigits_append_toDigits (by decide) hn (digitValue_lt_ten hc)
      calc digitChars n ++ c :: cs
          = digitChars n ++ digitChars (digitValue c) ++ cs := by
            rw [digitChars_digitValue hc, List.append_assoc, List.singleton_append]
        _ = digitChars (10 * n + digitValue c) ++ cs := by rw [hstep]
        _ = digitChars ((c :: cs).foldl (fun n c => 10 * n + digitValue c) n) :=
            ih (fun d hd => hds d (List.mem_cons_of_mem c hd)) (by omega)

/-- **Digits without a spare zero at the front are those of their value.** -/
lemma digitChars_valueOfDigits {ds : List Char} (hne : ds ≠ []) (hds : ∀ c ∈ ds, isDigit c = true)
    (hzero : ∀ cs, ds = '0' :: cs → cs = []) : digitChars (valueOfDigits ds) = ds := by
  obtain ⟨c, cs, rfl⟩ := List.exists_cons_of_ne_nil hne
  have hc := hds c List.mem_cons_self
  by_cases hfirst : c = '0'
  · subst hfirst
    rw [hzero cs rfl]
    rfl
  · have hpos : 0 < digitValue c := by
      have hlow := (isDigit_iff.mp hc).1
      have hne : c.toNat ≠ 48 := fun h => hfirst (Char.toNat_inj.mp h)
      rw [digitValue]
      omega
    have happend := digitChars_append (fun d hd => hds d (List.mem_cons_of_mem c hd)) hpos
    rw [digitChars_digitValue hc, List.singleton_append] at happend
    rw [valueOfDigits, List.foldl_cons, mul_zero, zero_add, ← happend]

/-- A number is written without a spare zero at the front. -/
lemma eq_nil_of_digitChars_eq_zero_cons {n : ℕ} {cs : List Char} (h : digitChars n = '0' :: cs) : cs = [] := by
  induction n using Nat.strong_induction_on generalizing cs with
  | _ n ih =>
      rw [digitChars, Nat.toDigits_eq_if (by decide)] at h
      split at h
      case isTrue => exact (List.cons.inj h).2.symm
      case isFalse hlarge =>
          -- the digits before the last one would be those of zero
          obtain ⟨d, ds, hds⟩ := List.exists_cons_of_ne_nil (digitChars_ne_nil (n / 10))
          rw [← digitChars, hds, List.cons_append] at h
          obtain ⟨rfl, -⟩ := List.cons.inj h
          have hvalue := valueOfDigits_digitChars (n / 10)
          rw [hds, ih (n / 10) (by omega) hds] at hvalue
          have hzero : n / 10 = 0 := hvalue.symm
          omega

/-- Fewer than `10 ^ k` is what can be written in `k` digits. -/
lemma length_digitChars_le_iff {n k : ℕ} (hk : 0 < k) : (digitChars n).length ≤ k ↔ n < 10 ^ k :=
  Nat.length_toDigits_le_iff (by decide) hk

end Decimal

/-- Digits are read up to the value that they write, if it is allowed. -/
lemma readDigits_eq {largest : ℕ} {ds : List Char} (hds : ∀ c ∈ ds, isDigit c = true) (n : ℕ)
    (hle : ds.foldl (fun n c => 10 * n + digitValue c) n ≤ largest) :
    readDigits largest n ds = .ok (ds.foldl (fun n c => 10 * n + digitValue c) n) := by
  induction ds generalizing n with
  | nil => rfl
  | cons c cs ih =>
      have hgrow : ∀ (l : List Char) (m : ℕ), m ≤ l.foldl (fun n c => 10 * n + digitValue c) m := by
        intro l
        induction l with
        | nil => exact fun m => le_rfl
        | cons d l ihl => exact fun m => le_trans (by omega) (ihl (10 * m + digitValue d))
      have hstep : 10 * n + digitValue c ≤ largest := le_trans (hgrow cs _) hle
      rw [readDigits, if_pos (hds c List.mem_cons_self), if_pos hstep]
      exact ih (fun d hd => hds d (List.mem_cons_of_mem c hd)) _ hle

/-- Digits that write more than the largest value are refused, however many they are. -/
lemma readDigits_eq_tooLarge {largest : ℕ} {ds : List Char} (hds : ∀ c ∈ ds, isDigit c = true) {n : ℕ}
    (hn : n ≤ largest) (hlarge : largest < ds.foldl (fun n c => 10 * n + digitValue c) n) :
    readDigits largest n ds = .error .tooLarge := by
  induction ds generalizing n with
  | nil => exact absurd hn (not_le.mpr hlarge)
  | cons c cs ih =>
      rw [readDigits, if_pos (hds c List.mem_cons_self)]
      split
      case isTrue hstep => exact ih (fun d hd => hds d (List.mem_cons_of_mem c hd)) hstep hlarge
      case isFalse => rfl

/-- A number up to the largest one is read back from its digits. -/
lemma readNaturalChars_digitChars {largest n : ℕ} (h : n ≤ largest) :
    readNaturalChars largest (Decimal.digitChars n) = .ok n := by
  have hread : readDigits largest 0 (Decimal.digitChars n) = .ok n := by
    have hvalue := Decimal.valueOfDigits_digitChars n
    rw [valueOfDigits] at hvalue
    rw [readDigits_eq (fun c hc => Decimal.isDigit_of_mem_digitChars hc) 0 (by rw [hvalue]; exact h),
      hvalue]
  -- the text neither is empty nor begins with a plus sign
  cases hds : Decimal.digitChars n with
  | nil => exact absurd hds (Decimal.digitChars_ne_nil n)
  | cons c cs =>
      have hc : c ≠ '+' := by
        rintro rfl
        exact absurd (Decimal.isDigit_of_mem_digitChars (hds ▸ List.mem_cons_self)) (by decide)
      rw [hds] at hread
      unfold readNaturalChars
      split
      · simp at *
      · simp_all
      · simp_all
      · exact hread

/-! ### Integers -/

/-- An integer is written as a word. -/
lemma isWord_integerChars (n : ℤ) : IsWord (integerChars n) := by
  have hdigits := Decimal.isWord_digitChars n.natAbs
  unfold integerChars
  split
  · refine ⟨by simp, fun c hc => ?_⟩
    rcases List.mem_cons.mp hc with rfl | hc
    · rfl
    · exact hdigits.solid c hc
  · exact hdigits

/-- An integer is known from its text. -/
lemma integerChars_injective : Function.Injective integerChars := by
  have hminus : ∀ (m : ℕ) (cs : List Char), '-' :: cs ≠ Decimal.digitChars m := by
    intro m cs h
    exact absurd (Decimal.isDigit_of_mem_digitChars (h ▸ List.mem_cons_self)) (by decide)
  intro m n h
  unfold integerChars at h
  split at h <;> split at h
  · have := Decimal.digitChars_injective (List.cons.inj h).2
    omega
  · exact absurd h (hminus _ _)
  · exact absurd h.symm (hminus _ _)
  · have := Decimal.digitChars_injective h
    omega

end LinearProgram
