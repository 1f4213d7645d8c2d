import LinearProgram.Proofs.LpText.Written
import LinearProgram.Proofs.Number.Truncation

/-!
How a sum is broken into lines.

A break stands before every twelfth term that is shown, and coefficients of zero are not shown, so the place of a break
depends on how many terms stand before it and not on how many coefficients. The lines are therefore filled up: the
first one holds eleven terms, since the twelfth begins the second line, and every later one holds twelve, but for the
last. Apart from its breaks, each with the indent behind it, the text of a sum is that of its terms.

* `shown`, `Coefficient.chars`: the coefficients of a sum that are not zero, and what is written for each.
* `termOf?_eq_none_iff`, `chars_of_termOf?_eq_some`: **the term of a coefficient, in rationals.**
* `termsCharsFrom_termsOf`: a sum is what is written for the coefficients shown, with a break before every twelfth.
* `FillsLines`: terms on lines that are full, all but the last.
* `exists_fillsLines`: **the lines of a sum are filled**, whatever room the first of them has.
* `unbroken`: a text without its breaks.
* `termsChars_wrapped`: **the breaks in a sum are layout only.**
-/

namespace LinearProgram

/-! ### What is shown of a coefficient -/

/-- The integer that is written for a magnitude: its integer part, and beyond the greatest integer that one. -/
def writtenMagnitude : Binary64 → ℕ
  | .nan => 0
  | .infinite _ => 18446744073709551615
  | .finite negative u hu => min 18446744073709551615 ⌊|(Binary64.finite negative u hu).toRat|⌋₊

/-- What is written for a coefficient: its sign, the integer for its magnitude unless that is one, and its column. -/
def Coefficient.chars (c : Coefficient) : List Char :=
  (if c.value.Above 0 then " +".toList else " -".toList)
    ++ (if c.value.abs.IsInt 1 then [] else ' ' :: Decimal.digitChars (writtenMagnitude c.value))
    ++ ' ' :: c.column.toList

/-- What is written for a coefficient that is the term of the given number: a break and the indent stand before every
twelfth. -/
def Coefficient.numberedChars (indent : List Char) (c : Coefficient) (number : ℕ) : List Char :=
  (if number % 12 = 0 then '\n' :: indent else []) ++ c.chars

/-- The coefficients that are shown in a sum, all but those of zero. -/
def shown (cs : List Coefficient) : List Coefficient := cs.filter fun c => ¬c.value.IsInt 0

namespace Binary64

lemma equals_comm (x y : Binary64) : x.equals y = y.equals x := by
  rw [Bool.eq_iff_iff, equals_iff, equals_iff]
  exact exists_congr fun p => and_comm

lemma equals_zero_iff {x : Binary64} : x.equals zero = true ↔ x.IsInt 0 := by
  rw [equals_comm, equals_iff_isInt isInt_zero]

/-- What is neither zero nor positive is negative, or not a number. -/
lemma less_zero_or_isNan_iff {x : Binary64} (hx : ¬x.IsInt 0) :
    (x.less zero || x.isNan) = true ↔ ¬x.Above 0 := by
  rw [Bool.or_eq_true, less_iff_below isInt_zero, Int.cast_zero]
  match x with
  | nan => exact iff_of_true (.inr rfl) fun h => h.1
  | infinite false => exact iff_of_false (by simp [Below, AtMost, isNan]) (not_not.mpr ⟨rfl, Bool.noConfusion⟩)
  | infinite true => exact iff_of_true (.inl ⟨rfl, Bool.noConfusion⟩) fun h => Bool.noConfusion h.1
  | finite negative u hu =>
      have hne : (finite negative u hu).toRat ≠ 0 := fun h => hx ⟨rfl, by rw [h, Int.cast_zero]⟩
      rw [below_iff rfl, above_iff rfl, not_lt]
      exact ⟨fun h => (h.resolve_right Bool.noConfusion).le, fun h => .inl (lt_of_le_of_ne h hne)⟩

/-- The integer that is written for a magnitude is its integer part, kept within the integers. -/
lemma truncateWithin_abs (x : Binary64) : x.abs.truncateWithin 0 greatestMagnitude = writtenMagnitude x := by
  match x with
  | nan => decide +kernel
  | infinite false | infinite true => decide +kernel
  | finite negative u hu =>
      have habs : (finite false u hu).toRat = |(finite negative u hu).toRat| := by
        have hnonneg : (0 : ℚ) ≤ u / unitsPerOne := by positivity
        cases negative with
        | false => rw [toRat, abs_of_nonneg hnonneg]
        | true => rw [toRat, toRat, abs_neg, abs_of_nonneg hnonneg]
      have hnonneg := abs_nonneg (finite negative u hu).toRat
      have hfloor : (0 : ℤ) ≤ ⌊|(finite negative u hu).toRat|⌋ := Int.floor_nonneg.mpr hnonneg
      have hcast : (⌊|(finite negative u hu).toRat|⌋₊ : ℤ) = ⌊|(finite negative u hu).toRat|⌋ :=
        Int.natCast_floor_eq_floor hnonneg
      rw [abs, truncateWithin, truncate_eq_integerPart rfl, habs, integerPart, if_pos hnonneg, writtenMagnitude,
        Nat.cast_min, hcast, greatestMagnitude]
      exact max_eq_right (le_min (by decide) hfloor)

end Binary64

/-- A coefficient has no term if and only if it is zero. -/
lemma termOf?_eq_none_iff {c : Coefficient} : termOf? c.column c.value = none ↔ c.value.IsInt 0 := by
  rw [termOf?, ← Binary64.equals_zero_iff]
  split
  case isTrue hzero => exact iff_of_true rfl hzero
  case isFalse hzero => exact iff_of_false (by simp) hzero

/-- **The term of a coefficient is written as its sign, the integer for its magnitude, and its column.** -/
lemma chars_of_termOf?_eq_some {c : Coefficient} {t : Term} (h : termOf? c.column c.value = some t) :
    t.chars = c.chars := by
  have hzero : ¬c.value.IsInt 0 := fun hzero => by
    rw [termOf?_eq_none_iff.mpr hzero] at h
    cases h
  have hsign := Binary64.less_zero_or_isNan_iff hzero
  have hone : c.value.abs.equals .one = true ↔ c.value.abs.IsInt 1 := by
    rw [Binary64.equals_comm, Binary64.equals_iff_isInt Binary64.isInt_one]
  have hdigits : integerChars (writtenMagnitude c.value) = Decimal.digitChars (writtenMagnitude c.value) := by
    rw [integerChars, if_neg (by omega), Int.natAbs_natCast]
  rw [termOf?, if_neg (mt Binary64.equals_zero_iff.mp hzero)] at h
  obtain rfl := Option.some.inj h
  rw [Term.chars, Coefficient.chars]
  congr 2
  · by_cases habove : c.value.Above 0
    · rw [if_pos habove, if_neg (mt hsign.mp (not_not.mpr habove))]
    · rw [if_neg habove, if_pos (hsign.mpr habove)]
  · by_cases hint : c.value.abs.IsInt 1
    · rw [if_pos hint, if_pos (hone.mpr hint)]
    · rw [if_neg hint, if_neg (mt hone.mp hint)]
      simp only [Binary64.truncateWithin_abs, hdigits]

/-! ### Breaks -/

/-- A sum is what is written for the coefficients shown, in order, the first of which has the number `number + 1`. -/
lemma termsCharsFrom_termsOf (indent : List Char) (number : ℕ) (cs : List Coefficient) :
    termsCharsFrom indent number (termsOf cs)
      = ((shown cs).zipIdx (number + 1)).flatMap fun e => e.1.numberedChars indent e.2 := by
  induction cs generalizing number with
  | nil => rfl
  | cons c cs ih =>
      rw [termsOf_cons]
      cases hterm : termOf? c.column c.value with
      | none =>
          have hzero := termOf?_eq_none_iff.mp hterm
          rw [Option.toList_none, List.nil_append, ih, shown, shown, List.filter_cons_of_neg (by simpa using hzero)]
      | some t =>
          have hzero : ¬c.value.IsInt 0 := fun hzero => by
            rw [termOf?_eq_none_iff.mpr hzero] at hterm
            cases hterm
          rw [Option.toList_some, List.singleton_append, termsCharsFrom, ih, chars_of_termOf?_eq_some hterm, shown, shown,
            List.filter_cons_of_pos (by simpa using hzero), List.zipIdx_cons, List.flatMap_cons]
          rfl

/-! ### Lines -/

/-- Members on lines that are full, all but the last: the first line has the given room, and every later one has room
for twelve. No later line is empty. -/
structure FillsLines {α : Type} (room : ℕ) (as first : List α) (later : List (List α)) : Prop where
  whole : as = first ++ later.flatten
  first_le : first.length ≤ room
  first_full : later ≠ [] → first.length = room
  later_ne : ∀ l ∈ later, l ≠ []
  later_le : ∀ l ∈ later, l.length ≤ 12
  later_full : ∀ l ∈ later.dropLast, l.length = 12

namespace FillsLines

variable {α : Type} {room : ℕ} {as first : List α} {later : List (List α)}

lemma nil (room : ℕ) : FillsLines room ([] : List α) [] [] where
  whole := rfl
  first_le := Nat.zero_le room
  first_full h := absurd rfl h
  later_ne := by simp
  later_le := by simp
  later_full := by simp

/-- One more member goes to the front of the first line. -/
lemma cons (h : FillsLines room as first later) (a : α) : FillsLines (room + 1) (a :: as) (a :: first) later where
  whole := by rw [h.whole, List.cons_append]
  first_le := Nat.succ_le_succ h.first_le
  first_full hne := congrArg Nat.succ (h.first_full hne)
  later_ne := h.later_ne
  later_le := h.later_le
  later_full := h.later_full

/-- On a line without room the next member begins a line of its own. -/
lemma newLine (h : FillsLines 11 as first later) (a : α) : FillsLines 0 (a :: as) [] ((a :: first) :: later) where
  whole := by rw [h.whole, List.nil_append, List.flatten_cons, List.cons_append]
  first_le := le_rfl
  first_full _ := rfl
  later_ne := by simpa using h.later_ne
  later_le l hl := by
    rcases List.mem_cons.mp hl with rfl | hl
    · exact Nat.succ_le_succ h.first_le
    · exact h.later_le l hl
  later_full l hl := by
    cases later with
    | nil => exact absurd hl List.not_mem_nil
    | cons m later =>
        rw [List.dropLast_cons_of_ne_nil (List.cons_ne_nil m later)] at hl
        rcases List.mem_cons.mp hl with rfl | hl
        · exact congrArg Nat.succ (h.first_full (List.cons_ne_nil m later))
        · exact h.later_full l hl

end FillsLines

/-- The lines of a text. -/
def linesOf (s : List Char) : List (List Char) := pieces (fun c => c = '\n') s

lemma not_newline_of_notMem {s : List Char} (h : '\n' ∉ s) : ∀ c ∈ s, decide (c = '\n') = false := fun _ hc =>
  decide_eq_false fun heq => h (heq ▸ hc)

/-- A text without a break is one line. -/
lemma linesOf_eq_singleton {s : List Char} (h : '\n' ∉ s) : linesOf s = [s] :=
  pieces_eq_singleton (not_newline_of_notMem h)

lemma newline_notMem_replicate (width : ℕ) : '\n' ∉ List.replicate width ' ' := fun h =>
  absurd (List.eq_of_mem_replicate h) (by decide)

lemma newline_notMem_of_solid {s : List Char} (h : ∀ c ∈ s, isBlank c = false) : '\n' ∉ s := fun hmem =>
  Bool.noConfusion (h '\n' hmem)

/-- What is written for a coefficient is on one line. -/
lemma Coefficient.newline_notMem_chars {c : Coefficient} (h : '\n' ∉ c.column.toList) : '\n' ∉ c.chars := by
  have hsign : '\n' ∉ if c.value.Above 0 then " +".toList else " -".toList := by split <;> decide
  have hdigits : '\n' ∉ if c.value.abs.IsInt 1 then [] else ' ' :: Decimal.digitChars (writtenMagnitude c.value) := by
    split
    · exact List.not_mem_nil
    · exact List.not_mem_cons_of_ne_of_not_mem (by decide)
        (newline_notMem_of_solid (Decimal.isWord_digitChars _).solid)
  rw [Coefficient.chars, List.mem_append, List.mem_append]
  rintro ((hmem | hmem) | hmem)
  · exact hsign hmem
  · exact hdigits hmem
  · exact List.not_mem_cons_of_ne_of_not_mem (by decide) h hmem

/-- **The lines of a sum are filled.** Before a term with the number `k + 1` the line has room for `11 - k % 12` terms;
without any, the term begins a line. -/
lemma exists_fillsLines {indent : List Char} (hindent : '\n' ∉ indent) {cs : List Coefficient}
    (hcs : ∀ c ∈ cs, '\n' ∉ c.column.toList) (number : ℕ) :
    ∃ first later, FillsLines (11 - number % 12) cs first later
      ∧ linesOf ((cs.zipIdx (number + 1)).flatMap fun e => e.1.numberedChars indent e.2)
        = first.flatMap Coefficient.chars :: later.map fun l => indent ++ l.flatMap Coefficient.chars := by
  induction cs generalizing number with
  | nil => exact ⟨[], [], .nil _, rfl⟩
  | cons c cs ih =>
      obtain ⟨first, later, hfills, hlines⟩ := ih (fun d hd => hcs d (List.mem_cons_of_mem c hd)) (number + 1)
      have hterm := not_newline_of_notMem (Coefficient.newline_notMem_chars (hcs c List.mem_cons_self))
      rw [List.zipIdx_cons, List.flatMap_cons, Coefficient.numberedChars]
      by_cases hbreak : (number + 1) % 12 = 0
      · have hroom : 11 - number % 12 = 0 := by omega
        rw [hbreak, Nat.sub_zero] at hfills
        refine ⟨[], (c :: first) :: later, hroom ▸ hfills.newLine c, ?_⟩
        rw [if_pos hbreak, List.append_assoc, List.cons_append, linesOf, pieces_cons_of_cut (by simp),
          pieces_append_of_not_cut (not_newline_of_notMem hindent) (pieces_append_of_not_cut hterm hlines)]
        rfl
      · have hroom : 11 - number % 12 = 11 - (number + 1) % 12 + 1 := by omega
        refine ⟨c :: first, later, hroom ▸ hfills.cons c, ?_⟩
        rw [if_neg hbreak, List.nil_append, linesOf, pieces_append_of_not_cut hterm hlines]
        rfl

/-- A text without its breaks, each of which has `width` characters of indent behind it. -/
def unbroken (width : ℕ) (s : List Char) : List Char :=
  match linesOf s with
  | [] => []
  | l :: ls => l ++ ls.flatMap (List.drop width)

lemma unbroken_of_linesOf {s l : List Char} {ls : List (List Char)} (h : linesOf s = l :: ls) (width : ℕ) :
    unbroken width s = l ++ ls.flatMap (List.drop width) := by
  rw [unbroken, h]

/-- **The breaks in a sum are layout only.** A sum is what is written for the coefficients that are not zero, in order,
with a break and the indent before every twelfth; without the breaks it is the same on one line. Its first line holds at
most eleven terms and every later line at most twelve, and only the last line may hold fewer. -/
theorem termsChars_wrapped {cs : List Coefficient} (hcs : ∀ c ∈ cs, '\n' ∉ c.column.toList) (width : ℕ) :
    termsChars (List.replicate width ' ') (termsOf cs)
        = ((shown cs).zipIdx 1).flatMap (fun e => e.1.numberedChars (List.replicate width ' ') e.2)
      ∧ unbroken width (termsChars (List.replicate width ' ') (termsOf cs)) = (shown cs).flatMap Coefficient.chars
      ∧ ∃ first later, FillsLines 11 (shown cs) first later
        ∧ linesOf (termsChars (List.replicate width ' ') (termsOf cs))
          = first.flatMap Coefficient.chars
            :: later.map fun l => List.replicate width ' ' ++ l.flatMap Coefficient.chars := by
  have hsum := termsCharsFrom_termsOf (List.replicate width ' ') 0 cs
  have hshown : ∀ c ∈ shown cs, '\n' ∉ c.column.toList := fun c hc => hcs c (List.mem_of_mem_filter hc)
  obtain ⟨first, later, hfills, hlines⟩ := exists_fillsLines (newline_notMem_replicate width) hshown 0
  rw [← hsum] at hlines
  refine ⟨hsum, ?_, first, later, hfills, hlines⟩
  have hdrop : ∀ l : List Coefficient, (List.replicate width ' ' ++ l.flatMap Coefficient.chars).drop width
      = l.flatMap Coefficient.chars := fun l => List.drop_left' List.length_replicate
  rw [termsChars, unbroken_of_linesOf hlines, hfills.whole, List.flatMap_append, List.flatMap_map, ← List.flatMap_id,
    List.flatMap_assoc]
  simp only [hdrop, id]

/-- Eleven terms, a coefficient of zero, and two more terms. -/
def zeroBetween : List Coefficient :=
  List.replicate 11 (.unit "x0")
    ++ [⟨"x1", .zero⟩, ⟨"x2", .ofInt (-1)⟩, ⟨"x3", Decimal.toBinary64 false ⟨25, -1⟩⟩]

theorem termsChars_wrapped_zeroBetween :
    (∀ c ∈ zeroBetween, '\n' ∉ c.column.toList)
      ∧ unbroken 2 (termsChars (List.replicate 2 ' ') (termsOf zeroBetween))
        = " + x0 + x0 + x0 + x0 + x0 + x0 + x0 + x0 + x0 + x0 + x0 - x2 + 2 x3".toList := by
  have hcs : ∀ c ∈ zeroBetween, '\n' ∉ c.column.toList := by decide +kernel
  obtain ⟨-, hunbroken, -⟩ := termsChars_wrapped hcs 2
  refine ⟨hcs, ?_⟩
  rw [hunbroken]
  decide +kernel

example : termsChars (List.replicate 2 ' ') (termsOf zeroBetween)
    = " + x0 + x0 + x0 + x0 + x0 + x0 + x0 + x0 + x0 + x0 + x0\n   - x2 + 2 x3".toList := by
  decide +kernel

end LinearProgram
