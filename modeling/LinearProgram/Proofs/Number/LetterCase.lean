import Mathlib.Data.List.TakeWhile
import LinearProgram.Proofs.Number.Digits
import LinearProgram.Proofs.Text.Lower

/-!
Numbers in any letter case.

A number is written with a few ASCII characters. The letters among them are read alike in both cases, and no other
character has one of them for its whole lower-case form. So a text and its lower-case form are the same number, or
neither is one.

* `IsNumeralChar`: the characters that numbers are written with.
* `signOf`, `placesOf`: a text without its sign, and the digits behind a point.
* `Decimal.read?_map_lowerAscii`, `Binary64.readChars_map_lowerAscii`: letters are read alike in both cases.
* `Binary64.isNumeralChar_of_readChars`: **a number is written with such characters only.**
* `Binary64.toOption_read_lower`: **a number is read alike in lower case.**
-/

namespace LinearProgram

/-! ### Characters of numbers -/

/-- The code points of the characters that numbers are written with: signs, the point, digits, and the letters of
exponents and of words. -/
def numeralRanges : List (ℕ × ℕ) :=
  [(0x2B, 0x2B), (0x2D, 0x2E), (0x30, 0x39), (0x41, 0x41), (0x45, 0x46), (0x49, 0x49), (0x4E, 0x4E), (0x54, 0x54),
    (0x59, 0x59), (0x61, 0x61), (0x65, 0x66), (0x69, 0x69), (0x6E, 0x6E), (0x74, 0x74), (0x79, 0x79)]

/-- Whether numbers can be written with a character. -/
def IsNumeralChar (c : Char) : Prop := inRanges numeralRanges c.toNat = true

instance (c : Char) : Decidable (IsNumeralChar c) := inferInstanceAs (Decidable (_ = true))

lemma keptOut_numeral : KeptOut numeralRanges := by decide +kernel

/-- Such characters are ASCII, and so are their lower-case forms. -/
lemma lowerOne_numeral {c : Char} (hc : IsNumeralChar c) : c ≠ 'Σ' ∧ lowerOne c = [Binary64.lowerAscii c] := by
  have hascii : c.toNat < 0x80 := by
    obtain ⟨r, hr, -, hhigh⟩ := inRanges_iff.mp hc
    have hlast : ∀ r ∈ numeralRanges, r.2 < 0x80 := by decide
    exact lt_of_le_of_lt hhigh (hlast r hr)
  refine ⟨?_, lowerOne_ascii hascii⟩
  rintro rfl
  exact absurd hascii (by decide)

/-- A text of such characters is lower-cased letter by letter. -/
lemma lowerAfter_numeral {before s : List Char} (hs : ∀ c ∈ s, IsNumeralChar c) :
    lowerAfter before s = s.map Binary64.lowerAscii := by
  induction s generalizing before with
  | nil => rfl
  | cons c s ih =>
      obtain ⟨hsigma, hlower⟩ := lowerOne_numeral (hs c List.mem_cons_self)
      rw [lowerAfter_cons, if_neg hsigma, hlower, ih fun d hd => hs d (List.mem_cons_of_mem c hd)]
      rfl

/-- A digit is a character of numbers. -/
lemma isNumeralChar_of_isDigit {c : Char} (hc : isDigit c = true) : IsNumeralChar c := by
  obtain ⟨hlow, hhigh⟩ := isDigit_iff.mp hc
  exact inRanges_iff.mpr ⟨(0x30, 0x39), by decide, hlow, hhigh⟩

/-! ### Letters -/

namespace Binary64

/-- A capital letter is moved by 32, and every other character stays. -/
lemma lowerAscii_cases (c : Char) :
    lowerAscii c = c ∨ 65 ≤ c.toNat ∧ c.toNat ≤ 90 ∧ (lowerAscii c).toNat = c.toNat + 32 := by
  rw [lowerAscii]
  split_ifs with hc
  · have hlow : 65 ≤ c.toNat := hc.1
    have hhigh : c.toNat ≤ 90 := hc.2
    have hvalid : (c.toNat + 32).isValidChar := .inl (by omega)
    exact .inr ⟨hlow, hhigh, toNat_ofNat_of_isValidChar hvalid⟩
  · exact .inl rfl

lemma lowerAscii_comp_lowerAscii : lowerAscii ∘ lowerAscii = lowerAscii := by
  funext c
  rw [Function.comp_apply]
  rcases lowerAscii_cases c with h | ⟨hlow, -, hmoved⟩
  · rw [h, h]
  · rcases lowerAscii_cases (lowerAscii c) with h | ⟨-, hhigh, -⟩
    · exact h
    · omega

/-- What is no letter is the lower-case form of itself only. -/
lemma lowerAscii_eq_iff {c t : Char} (ht : t.toNat < 65) : lowerAscii c = t ↔ c = t := by
  rcases lowerAscii_cases c with h | ⟨hlow, -, hmoved⟩
  · rw [h]
  · constructor
    · rintro rfl
      omega
    · rintro rfl
      omega

lemma isDigit_lowerAscii (c : Char) : isDigit (lowerAscii c) = isDigit c := by
  rcases lowerAscii_cases c with h | ⟨hlow, hhigh, hmoved⟩
  · rw [h]
  · rw [Bool.eq_iff_iff, isDigit_iff, isDigit_iff]
    omega

lemma map_lowerAscii_digits {ds : List Char} (h : ∀ c ∈ ds, isDigit c = true) : ds.map lowerAscii = ds := by
  refine (List.map_congr_left fun c hc => ?_).trans (List.map_id ds)
  have hlow : c.toNat < 65 := by
    obtain ⟨-, hhigh⟩ := isDigit_iff.mp (h c hc)
    omega
  exact (lowerAscii_eq_iff hlow).mpr rfl

lemma takeWhile_map_lowerAscii (s : List Char) :
    (s.map lowerAscii).takeWhile isDigit = s.takeWhile isDigit := by
  have hdigit : isDigit ∘ lowerAscii = isDigit := funext isDigit_lowerAscii
  rw [List.takeWhile_map, hdigit]
  exact map_lowerAscii_digits fun c hc => List.mem_takeWhile_imp hc

lemma dropWhile_map_lowerAscii (s : List Char) :
    (s.map lowerAscii).dropWhile isDigit = (s.dropWhile isDigit).map lowerAscii := by
  have hdigit : isDigit ∘ lowerAscii = isDigit := funext isDigit_lowerAscii
  rw [List.dropWhile_map, hdigit]

/-! ### Signs -/

/-- Whether a text has a minus sign in front, and what stands behind its sign. -/
def signOf : List Char → Bool × List Char
  | '-' :: s => (true, s)
  | '+' :: s => (false, s)
  | s => (false, s)

lemma signOf_cons (c : Char) (s : List Char) :
    signOf (c :: s) = if c = '-' then (true, s) else if c = '+' then (false, s) else (false, c :: s) := by
  unfold signOf
  split <;> simp_all

lemma readChars_cons (c : Char) (s : List Char) :
    readChars (c :: s) = readUnsigned (signOf (c :: s)).1 (signOf (c :: s)).2 := by
  unfold readChars
  split <;> simp_all [signOf_cons]

/-- The sign of a text is the same in every letter case. -/
lemma signOf_map_lowerAscii (s : List Char) :
    signOf (s.map lowerAscii) = ((signOf s).1, (signOf s).2.map lowerAscii) := by
  cases s with
  | nil => rfl
  | cons c s =>
      have hminus : lowerAscii c = '-' ↔ c = '-' := lowerAscii_eq_iff (by decide)
      have hplus : lowerAscii c = '+' ↔ c = '+' := lowerAscii_eq_iff (by decide)
      rw [List.map_cons, signOf_cons, signOf_cons]
      simp only [hminus, hplus]
      split_ifs <;> rfl

lemma mem_signOf {s : List Char} {c : Char} (hc : c ∈ s) : IsNumeralChar c ∨ c ∈ (signOf s).2 := by
  cases s with
  | nil => cases hc
  | cons d s =>
      rw [signOf_cons]
      split_ifs with hminus hplus
      · subst hminus
        exact (List.mem_cons.mp hc).imp_left (by rintro rfl; decide)
      · subst hplus
        exact (List.mem_cons.mp hc).imp_left (by rintro rfl; decide)
      · exact .inr hc

end Binary64

/-! ### Decimals -/

namespace Decimal

open Binary64

/-- The digits behind a point, if a text begins with one, and what stands behind them. -/
def placesOf : List Char → List Char × List Char
  | '.' :: s => (s.takeWhile isDigit, s.dropWhile isDigit)
  | s => ([], s)

lemma placesOf_cons (c : Char) (s : List Char) :
    placesOf (c :: s) = if c = '.' then (s.takeWhile isDigit, s.dropWhile isDigit) else ([], c :: s) := by
  unfold placesOf
  split <;> simp_all

lemma placesOf_map_lowerAscii (s : List Char) :
    placesOf (s.map lowerAscii) = ((placesOf s).1, (placesOf s).2.map lowerAscii) := by
  cases s with
  | nil => rfl
  | cons c s =>
      have hpoint : lowerAscii c = '.' ↔ c = '.' := lowerAscii_eq_iff (by decide)
      rw [List.map_cons, placesOf_cons, placesOf_cons]
      simp only [hpoint, takeWhile_map_lowerAscii, dropWhile_map_lowerAscii]
      split_ifs <;> rfl

lemma mem_placesOf {s : List Char} {c : Char} (hc : c ∈ s) : IsNumeralChar c ∨ c ∈ (placesOf s).2 := by
  cases s with
  | nil => cases hc
  | cons d s =>
      rw [placesOf_cons]
      split_ifs with hpoint
      · subst hpoint
        rcases List.mem_cons.mp hc with rfl | hc
        · exact .inl (by decide)
        · rw [← List.takeWhile_append_dropWhile (p := isDigit) (l := s)] at hc
          exact (List.mem_append.mp hc).imp_left fun hplace =>
            isNumeralChar_of_isDigit (List.mem_takeWhile_imp hplace)
      · exact .inr hc

lemma readExponent?_cons (mark : Char) (rest : List Char) :
    readExponent? (mark :: rest)
      = if mark = 'e' ∨ mark = 'E' then
          if (signOf rest).2 ≠ [] ∧ (signOf rest).2.all isDigit then
            some (if (signOf rest).1 then -(exponentOfDigits (signOf rest).2 : ℤ) else exponentOfDigits (signOf rest).2)
          else none
        else none := rfl

lemma read?_eq (s : List Char) :
    read? s
      = if s.takeWhile isDigit = [] ∧ (placesOf (s.dropWhile isDigit)).1 = [] then none
        else (readExponent? (placesOf (s.dropWhile isDigit)).2).map fun e =>
          ⟨valueOfDigits (s.takeWhile isDigit ++ (placesOf (s.dropWhile isDigit)).1),
            e - (placesOf (s.dropWhile isDigit)).1.length⟩ := rfl

/-- The mark of an exponent may be a capital or a small letter. -/
lemma mark_lowerAscii (c : Char) : lowerAscii c = 'e' ∨ lowerAscii c = 'E' ↔ c = 'e' ∨ c = 'E' := by
  have hnat : ∀ t : Char, c = t ↔ c.toNat = t.toNat := fun t => ⟨congrArg _, fun h => Char.toNat_inj.mp h⟩
  have hnat' : ∀ t : Char, lowerAscii c = t ↔ (lowerAscii c).toNat = t.toNat :=
    fun t => ⟨congrArg _, fun h => Char.toNat_inj.mp h⟩
  have hsmall : 'e'.toNat = 101 := rfl
  have hlarge : 'E'.toNat = 69 := rfl
  rcases lowerAscii_cases c with h | ⟨hlow, hhigh, hmoved⟩
  · rw [h]
  · rw [hnat, hnat, hnat', hnat', hsmall, hlarge]
    omega

lemma readExponent?_map_lowerAscii (s : List Char) : readExponent? (s.map lowerAscii) = readExponent? s := by
  cases s with
  | nil => rfl
  | cons mark rest =>
      rw [List.map_cons, readExponent?_cons, readExponent?_cons, signOf_map_lowerAscii]
      simp only [mark_lowerAscii]
      by_cases hdigits : ∀ c ∈ (signOf rest).2, isDigit c = true
      · rw [map_lowerAscii_digits hdigits]
      · have hdigit : isDigit ∘ lowerAscii = isDigit := funext isDigit_lowerAscii
        simp [List.all_map, hdigit, hdigits]

/-- **A decimal is read alike in both letter cases.** -/
lemma read?_map_lowerAscii (s : List Char) : read? (s.map lowerAscii) = read? s := by
  rw [read?_eq, read?_eq, takeWhile_map_lowerAscii, dropWhile_map_lowerAscii, placesOf_map_lowerAscii,
    readExponent?_map_lowerAscii]

/-- The characters of an exponent. -/
lemma isNumeralChar_of_readExponent? {s : List Char} {e : ℤ} (h : readExponent? s = some e) :
    ∀ c ∈ s, IsNumeralChar c := by
  cases s with
  | nil => simp
  | cons mark rest =>
      rw [readExponent?_cons, Option.ite_none_right_eq_some, Option.ite_none_right_eq_some] at h
      obtain ⟨hmark, hdigits, -⟩ := h
      intro c hc
      rcases List.mem_cons.mp hc with rfl | hc
      · rcases hmark with rfl | rfl <;> decide
      · rcases mem_signOf hc with hsign | hdigit
        · exact hsign
        · exact isNumeralChar_of_isDigit (List.all_eq_true.mp hdigits.2 c hdigit)

/-- A decimal is written with characters of numbers only. -/
lemma isNumeralChar_of_read? {s : List Char} {d : Decimal} (h : read? s = some d) : ∀ c ∈ s, IsNumeralChar c := by
  rw [read?_eq] at h
  split_ifs at h
  obtain ⟨e, he, -⟩ := Option.map_eq_some_iff.mp h
  intro c hc
  rw [← List.takeWhile_append_dropWhile (p := isDigit) (l := s)] at hc
  rcases List.mem_append.mp hc with hwhole | hc
  · exact isNumeralChar_of_isDigit (List.mem_takeWhile_imp hwhole)
  · rcases mem_placesOf hc with hplaces | hc
    · exact hplaces
    · exact isNumeralChar_of_readExponent? he c hc

end Decimal

/-! ### Numbers -/

namespace Binary64

lemma readWord?_map_lowerAscii (negative : Bool) (s : List Char) :
    readWord? negative (s.map lowerAscii) = readWord? negative s := by
  rw [readWord?, List.map_map, lowerAscii_comp_lowerAscii]
  rfl

/-- **A number is read alike in both letter cases.** -/
lemma readChars_map_lowerAscii (s : List Char) : readChars (s.map lowerAscii) = readChars s := by
  cases s with
  | nil => rfl
  | cons c s =>
      rw [List.map_cons, readChars_cons, readChars_cons, ← List.map_cons, signOf_map_lowerAscii, readUnsigned,
        Decimal.read?_map_lowerAscii, readWord?_map_lowerAscii, readUnsigned]

/-- A character whose lower-case form is one of numbers is one of numbers. -/
lemma isNumeralChar_of_lowerAscii {c : Char} (h : IsNumeralChar (lowerAscii c)) : IsNumeralChar c := by
  have hall : ∀ n < 91, 65 ≤ n → inRanges numeralRanges (n + 32) = true → inRanges numeralRanges n = true := by
    decide +kernel
  rcases lowerAscii_cases c with hsame | ⟨hlow, hhigh, hmoved⟩
  · rwa [hsame] at h
  · rw [IsNumeralChar, hmoved] at h
    exact hall c.toNat (by omega) hlow h

/-- The words for values that have no digits. -/
def valueWords : List (List Char) := [['i', 'n', 'f'], ['i', 'n', 'f', 'i', 'n', 'i', 't', 'y'], ['n', 'a', 'n']]

/-- A word for a value is written with characters of numbers only. -/
lemma isNumeralChar_of_readWord? {negative : Bool} {s : List Char} {x : Binary64} (h : readWord? negative s = some x) :
    ∀ c ∈ s, IsNumeralChar c := by
  have hword : s.map lowerAscii ∈ valueWords := by
    rw [readWord?] at h
    simp only [← String.toList_inj, String.toList_ofList] at h
    split_ifs at h with hinfinite hnan
    · rcases hinfinite with hword | hword <;> simp [valueWords, hword]
    · simp [valueWords, hnan]
  have hletters : (valueWords.all fun word => word.all fun d => inRanges numeralRanges d.toNat) = true := by rfl
  intro c hc
  exact isNumeralChar_of_lowerAscii
    (List.all_eq_true.mp (List.all_eq_true.mp hletters _ hword) _ (List.mem_map_of_mem hc))

/-- **A number is written with characters of numbers only.** -/
lemma isNumeralChar_of_readChars {s : List Char} {x : Binary64} (h : readChars s = .ok x) : ∀ c ∈ s, IsNumeralChar c := by
  cases s with
  | nil => simp
  | cons c s =>
      intro d hd
      rcases mem_signOf hd with hsign | hd
      · exact hsign
      · rw [readChars_cons, readUnsigned] at h
        cases hdecimal : Decimal.read? (signOf (c :: s)).2 with
        | some decimal => exact Decimal.isNumeralChar_of_read? hdecimal d hd
        | none =>
            rw [hdecimal] at h
            cases hword : readWord? (signOf (c :: s)).1 (signOf (c :: s)).2 with
            | some y => exact isNumeralChar_of_readWord? hword d hd
            | none =>
                rw [hword] at h
                cases h

lemma toOption_readChars_eq_none {s : List Char} {c : Char} (hc : c ∈ s)
    (hout : inRanges numeralRanges c.toNat = false) : (readChars s).toOption = none := by
  cases h : readChars s with
  | error fault => rfl
  | ok x =>
      have hnumeral : inRanges numeralRanges c.toNat = true := isNumeralChar_of_readChars h c hc
      rw [hout] at hnumeral
      cases hnumeral

/-- **A number is read alike in lower case.** If all characters of a text are those of numbers, then only the case of
its letters changes. Otherwise neither the text nor its lower-case form is a number. -/
lemma toOption_read_lower (text : String) : (read (lower text)).toOption = (read text).toOption := by
  rw [read, read, lower, String.toList_ofList]
  by_cases hall : ∀ c ∈ text.toList, IsNumeralChar c
  · rw [lowerAfter_numeral hall, readChars_map_lowerAscii]
  · obtain ⟨c, hc, hout⟩ : ∃ c ∈ text.toList, inRanges numeralRanges c.toNat = false := by
      simpa [IsNumeralChar] using hall
    obtain ⟨d, hd, hout'⟩ : ∃ d ∈ lowerAfter [] text.toList, inRanges numeralRanges d.toNat = false :=
      keptOut_numeral.exists_lowerAfter hc hout
    rw [toOption_readChars_eq_none hc hout, toOption_readChars_eq_none hd hout']

end Binary64

end LinearProgram
