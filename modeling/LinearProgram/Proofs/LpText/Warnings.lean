import LinearProgram.Proofs.LpText.Figures
import LinearProgram.Proofs.Number.Truncation

/-!
The warnings about numbers that an LP text alters.

A number is noticed to be altered by turning its integer back into a number. For ends of bounds that is exact, and for
magnitudes too as long as they can be written: a magnitude of `2 ^ 53` or more is an integer itself. Beyond the greatest
integer `2 ^ 64 - 1` the check compares with `2 ^ 64`, because that is the number nearest to the greatest integer. So
there is just one magnitude that is altered without a word, `2 ^ 64` itself.

* `equals_ofInt_truncateWithin_iff`: **which magnitudes are found to be the integer that is written for them.**
* `Figure.Differs`, `Figure.IsOverlooked`, `Figure.warning`: numbers that are altered, the one that is overlooked, and
  the message about a number.
* `Figure.logged_eq`: what is logged about one number.
* `Problem.warnings_sections`: what is logged about a text is what is logged about its numbers.
* `Figure.alike_of_message`: a message tells what it is about.
* `Problem.lpText_warns`: **every altered number is reported once and in order, and no other one, if it is not the one
  magnitude that is overlooked.**
* `Problem.ReportsChanges`, `Problem.not_reportsChanges_wide`: that magnitude is not reported.
-/

namespace LinearProgram

namespace Binary64

/-- The number nearest to the greatest integer of a magnitude is the first one beyond it. -/
lemma isInt_ofInt_greatestMagnitude : (ofInt greatestMagnitude).IsInt (2 ^ 64) := by decide +kernel

/-- A number with a positive integer part is not negative. -/
lemma of_truncate_pos {x : Binary64} (h : 0 < x.truncate) :
    x = infinite false ∨ ∃ u, ∃ hu : OnGrid u, x = finite false u hu := by
  have hnonpos : ∀ p, x.position? = some p → ¬p ≤ 0 := by
    intro p hp hle
    rw [truncate_of_position? hp] at h
    exact absurd (tdiv_le (by rwa [zero_mul])) h.not_ge
  cases x with
  | nan =>
      rw [truncate, position?, Option.getD_none, Int.zero_tdiv] at h
      omega
  | infinite negative =>
      cases negative with
      | false => exact .inl rfl
      | true => exact absurd (by omega) (hnonpos _ rfl)
  | finite negative u hu =>
      cases negative with
      | false => exact .inr ⟨u, hu, rfl⟩
      | true => exact absurd (by omega) (hnonpos _ rfl)

/-- **The integer that is written for a magnitude is found to be the magnitude if it is, and for `2 ^ 64`.** Below
`2 ^ 53` an integer stands for itself. From there on every magnitude is an integer, up to the greatest one; and beyond
that what is compared with is `2 ^ 64`. -/
lemma equals_ofInt_truncateWithin_iff (x : Binary64) :
    (ofInt (x.truncateWithin 0 greatestMagnitude)).equals x = true
      ↔ x.IsInt (x.truncateWithin 0 greatestMagnitude) ∨ x.IsInt (2 ^ 64) := by
  have hgreatest : greatestMagnitude = 2 ^ 64 - 1 := rfl
  generalize hw : x.truncateWithin 0 greatestMagnitude = w
  have hclamp : w = max 0 (min greatestMagnitude x.truncate) := hw.symm
  have hlimit : x.IsInt (2 ^ 64) → w = greatestMagnitude := by
    intro hx
    rw [hclamp, hx.truncate, hgreatest]
    rfl
  by_cases hsmall : w.natAbs < 2 ^ 53
  · rw [equals_ofInt_iff hsmall, or_iff_left]
    intro hx
    rw [hlimit hx] at hsmall
    exact absurd hsmall (by decide)
  · by_cases hle : x.truncate ≤ greatestMagnitude
    · have hwx : w = x.truncate := by omega
      have hint : x.IsInt w := by
        rcases of_truncate_pos (x := x) (by omega) with rfl | ⟨u, hu, rfl⟩
        · exact absurd hle (by decide +kernel)
        · rw [hwx]
          exact isInt_truncate hu (by omega)
      exact iff_of_true ((equals_iff_isInt (isInt_ofInt_of_onGrid hint.onGrid)).mpr hint) (.inl hint)
    · have hwg : w = greatestMagnitude := by omega
      rw [hwg, equals_iff_isInt isInt_ofInt_greatestMagnitude, or_iff_right]
      exact fun hx => hle hx.truncate.le

end Binary64

/-! ### Numbers that are altered -/

/-- The integer in a limit. -/
def Limit.integer? : Limit → Option ℤ
  | none => .none
  | whole r => some r.written

namespace Figure

/-- The integer that is written for a number, if it is not written as no limit. -/
def integer? : Figure → Option ℤ
  | factor _ x => some (x.truncateWithin 0 greatestMagnitude)
  | lower x => (Limit.ofLower x).integer?
  | upper x => (Limit.ofUpper x).integer?

/-- Whether an integer is written for a number that it is not. -/
def Differs (f : Figure) : Prop := ∃ n, f.chars = integerChars n ∧ ¬f.value.IsInt n

/-- Whether a number is the one magnitude that the check takes for the greatest integer. -/
def IsOverlooked : Figure → Prop
  | factor _ x => x.IsInt (2 ^ 64)
  | lower _ | upper _ => False

/-- What a number is called in a message. -/
def subject : Figure → String
  | factor column x => "coefficient " ++ x.text ++ " of '" ++ column ++ "'"
  | lower x | upper x => "bound " ++ x.text

/-- The message about a number that is altered. It names the number and shows what is written for it. -/
def message (f : Figure) : String := "lp_format: " ++ f.subject ++ " rendered as " ++ String.ofList f.chars

/-- The warning about a number that is altered. -/
def warning (f : Figure) : Entry := .warn f.message

/-- What is logged about a number. -/
def logged : Figure → List Entry
  | factor column x => Term.warnings ⟨false, some ⟨x, x.truncateWithin 0 greatestMagnitude⟩, column⟩
  | lower x => (Limit.ofLower x).warnings
  | upper x => (Limit.ofUpper x).warnings

end Figure

/-! ### What is written -/

lemma Limit.chars_eq_integerChars_iff (l : Limit) (sign : Char) (n : ℤ) :
    l.chars sign = integerChars n ↔ l.integer? = some n := by
  cases l with
  | none => exact iff_of_false (infinity_ne_integerChars sign n) (by simp [integer?])
  | whole r =>
      rw [chars, integer?, Option.some_inj]
      exact integerChars_injective.eq_iff

namespace Figure

lemma chars_eq_integerChars_iff (f : Figure) (n : ℤ) : f.chars = integerChars n ↔ f.integer? = some n := by
  cases f with
  | factor column x =>
      rw [chars, integer?, Option.some_inj]
      exact integerChars_injective.eq_iff
  | lower x => exact (Limit.ofLower x).chars_eq_integerChars_iff '-' n
  | upper x => exact (Limit.ofUpper x).chars_eq_integerChars_iff '+' n

instance : DecidablePred Differs := fun f =>
  decidable_of_iff (∃ n ∈ f.integer?, ¬f.value.IsInt n) (by simp [Differs, chars_eq_integerChars_iff])

instance : DecidablePred IsOverlooked
  | factor _ x => inferInstanceAs (Decidable (x.IsInt (2 ^ 64)))
  | lower _ | upper _ => inferInstanceAs (Decidable False)

end Figure

/-- The text of an integer is what is written for it. -/
lemma toString_int (n : ℤ) : toString n = String.ofList (integerChars n) := by
  rw [integerChars]
  cases n with
  | ofNat m => rfl
  | negSucc m =>
      have hrepr : toString (Int.negSucc m) = "-" ++ String.ofList (Decimal.digitChars (m + 1)) := rfl
      rw [if_pos (Int.negSucc_lt_zero m), hrepr]
      exact String.toList_inj.mp (by simp)

lemma toString_string (s : String) : toString s = s := rfl

lemma Limit.eq_none_of_integer? {l : Limit} (h : l.integer? = .none) : l = .none := by
  cases l with
  | none => rfl
  | whole r => cases h

/-- The integer of an end is the end, kept within the integers, whatever decides whether it is written as no limit. -/
lemma ite_ofEnd_of_integer? {c : Prop} [Decidable c] {x : Binary64} {n : ℤ}
    (h : (if c then Limit.none else Limit.ofEnd x).integer? = some n) :
    (if c then Limit.none else Limit.ofEnd x) = .whole ⟨x, n⟩
      ∧ n = x.truncateWithin leastInteger greatestInteger := by
  split at h
  case isTrue => cases h
  case isFalse hc =>
      obtain rfl := Option.some.inj h
      rw [if_neg hc]
      exact ⟨rfl, rfl⟩

lemma ofLower_of_integer? {x : Binary64} {n : ℤ} (h : (Limit.ofLower x).integer? = some n) :
    Limit.ofLower x = .whole ⟨x, n⟩ ∧ n = x.truncateWithin leastInteger greatestInteger :=
  ite_ofEnd_of_integer? h

lemma ofUpper_of_integer? {x : Binary64} {n : ℤ} (h : (Limit.ofUpper x).integer? = some n) :
    Limit.ofUpper x = .whole ⟨x, n⟩ ∧ n = x.truncateWithin leastInteger greatestInteger :=
  ite_ofEnd_of_integer? h

/-! ### What is logged -/

/-- An integer that is written for an end is found to be the end if and only if it is. -/
lemma isFaithful_end_iff (x : Binary64) :
    (⟨x, x.truncateWithin leastInteger greatestInteger⟩ : Rounded).isFaithful = true
      ↔ x.IsInt (x.truncateWithin leastInteger greatestInteger) := by
  have hsmall : (x.truncateWithin leastInteger greatestInteger).natAbs < 2 ^ 53 := by
    rw [Binary64.truncateWithin, leastInteger, greatestInteger]
    omega
  exact Binary64.equals_ofInt_iff hsmall

namespace Figure

lemma differs_iff (f : Figure) : f.Differs ↔ ∃ n, f.integer? = some n ∧ ¬f.value.IsInt n := by
  simp only [Differs, chars_eq_integerChars_iff]

/-- **An integer is found to be the number that it is written for if it is, and for the magnitude that is
overlooked.** -/
lemma isFaithful_iff {f : Figure} {n : ℤ} (h : f.integer? = some n) :
    (⟨f.value, n⟩ : Rounded).isFaithful = true ↔ f.value.IsInt n ∨ f.IsOverlooked := by
  cases f with
  | factor column x =>
      obtain rfl := Option.some.inj h
      exact x.equals_ofInt_truncateWithin_iff
  | lower x =>
      rw [integer?] at h
      obtain ⟨-, rfl⟩ := ofLower_of_integer? h
      exact (isFaithful_end_iff x).trans (or_iff_left id).symm
  | upper x =>
      rw [integer?] at h
      obtain ⟨-, rfl⟩ := ofUpper_of_integer? h
      exact (isFaithful_end_iff x).trans (or_iff_left id).symm

/-- What is written as no limit is not reported. -/
lemma logged_of_none {f : Figure} (h : f.integer? = none) : f.logged = [] := by
  cases f with
  | factor column x => cases h
  | lower x =>
      rw [integer?] at h
      rw [logged, Limit.eq_none_of_integer? h, Limit.warnings]
  | upper x =>
      rw [integer?] at h
      rw [logged, Limit.eq_none_of_integer? h, Limit.warnings]

/-- The message about an end. -/
lemma message_end (x : Binary64) (n : ℤ) :
    s!"lp_format: bound {x.text} rendered as {n}"
      = "lp_format: " ++ ("bound " ++ x.text) ++ " rendered as " ++ String.ofList (integerChars n) := by
  rw [toString_int, ← String.toList_inj]
  simp [toString_string]

/-- The message about a magnitude. -/
lemma message_factor (column : String) (x : Binary64) (n : ℤ) :
    s!"lp_format: coefficient {x.text} of '{column}' rendered as {n}"
      = "lp_format: " ++ ("coefficient " ++ x.text ++ " of '" ++ column ++ "'") ++ " rendered as "
        ++ String.ofList (integerChars n) := by
  rw [toString_int, ← String.toList_inj]
  simp [toString_string]

/-- An integer is reported if it is not found to be the number that it is written for. -/
lemma logged_of_some {f : Figure} {n : ℤ} (h : f.integer? = some n) :
    f.logged = if (⟨f.value, n⟩ : Rounded).isFaithful then [] else [f.warning] := by
  rw [warning, message, (f.chars_eq_integerChars_iff n).mpr h]
  cases f with
  | factor column x =>
      obtain rfl := Option.some.inj h
      rw [logged, Term.warnings]
      dsimp only
      rw [message_factor, subject, value]
  | lower x =>
      rw [integer?] at h
      rw [logged, (ofLower_of_integer? h).1, Limit.warnings, message_end, subject, value]
  | upper x =>
      rw [integer?] at h
      rw [logged, (ofUpper_of_integer? h).1, Limit.warnings, message_end, subject, value]

/-- **A number is reported if and only if it is altered and not overlooked.** -/
lemma logged_eq (f : Figure) : f.logged = if f.Differs ∧ ¬f.IsOverlooked then [f.warning] else [] := by
  cases hn : f.integer? with
  | none =>
      rw [logged_of_none hn, if_neg]
      rintro ⟨hdiffers, -⟩
      obtain ⟨n, hn', -⟩ := f.differs_iff.mp hdiffers
      cases hn.symm.trans hn'
  | some n =>
      have hdiffers : f.Differs ↔ ¬f.value.IsInt n := by simp [differs_iff, hn]
      rw [logged_of_some hn]
      by_cases hfaithful : (⟨f.value, n⟩ : Rounded).isFaithful = true
      · rw [if_pos hfaithful, if_neg]
        rw [hdiffers, ← not_or, not_not]
        exact (isFaithful_iff hn).mp hfaithful
      · rw [if_neg hfaithful, if_pos]
        rw [hdiffers, ← not_or]
        exact mt (isFaithful_iff hn).mpr hfaithful

end Figure

/-! ### What is logged about a text -/

lemma warnings_termsOf (cs : List Coefficient) :
    (termsOf cs).flatMap Term.warnings = (cs.flatMap Coefficient.figures).flatMap Figure.logged := by
  induction cs with
  | nil => rfl
  | cons c cs ih =>
      have hfirst : (termOf? c.column c.value).toList.flatMap Term.warnings = c.figures.flatMap Figure.logged := by
        rw [termOf?, Coefficient.figures]
        by_cases hzero : c.value.equals .zero = true
        · simp [hzero]
        · by_cases hone : c.value.abs.equals .one = true
          · simp [hzero, hone, Term.warnings]
          · simp [hzero, hone, Figure.logged, Term.warnings]
      rw [termsOf_cons, List.flatMap_append, hfirst, ih, List.flatMap_cons, List.flatMap_append]

lemma warnings_relation (row : Row) (number : ℕ) :
    (row.relation number).warnings = row.figures.flatMap Figure.logged := by
  rw [Row.relation, Row.figures]
  cases row.bounds.kind <;> simp [Relation.warnings, Figure.logged]

lemma warnings_constraintsFrom (next : ℕ) (rows : List Row) :
    (constraintsFrom next rows).flatMap (fun c => c.terms.flatMap Term.warnings ++ c.relation.warnings)
      = (rows.flatMap fun row => row.entries.flatMap Coefficient.figures ++ row.figures).flatMap Figure.logged := by
  induction rows generalizing next with
  | nil => rfl
  | cons row rows ih =>
      rw [constraintsFrom, List.flatMap_cons, List.flatMap_cons, ih, warnings_termsOf, warnings_relation,
        List.flatMap_append, List.flatMap_append]

lemma warnings_range (b : Bounds) (name : String) : (b.range name).warnings = b.figures.flatMap Figure.logged := by
  rw [Bounds.figures, List.flatMap_cons, List.flatMap_singleton, Figure.logged, Figure.logged, Bounds.range,
    Range.warnings]

/-- The numbers of the slack variables do not show in what is logged about their ranges. -/
lemma warnings_slackRanges (rows : List Row) :
    (slackRanges rows).flatMap Range.warnings
      = ((rows.filter Row.hasSlack).flatMap fun row => row.bounds.figures).flatMap Figure.logged := by
  conv_rhs => rw [← List.zipIdx_map_fst 0 (rows.filter Row.hasSlack), List.flatMap_map, List.flatMap_assoc]
  rw [slackRanges, List.flatMap_map]
  simp only [warnings_range]

/-- **What is logged about a text is what is logged about its numbers.** -/
lemma Problem.warnings_sections (p : Problem) : p.sections.warnings = p.figures.flatMap Figure.logged := by
  have hcolumns : (p.columns.map fun column => column.bounds.range column.name).flatMap Range.warnings
      = (p.columns.flatMap fun column => column.bounds.figures).flatMap Figure.logged := by
    rw [List.flatMap_map, List.flatMap_assoc]
    simp only [warnings_range]
  have hconstraints : p.sections.constraints = constraintsFrom 1 p.rows := rfl
  have hranges : p.sections.ranges
      = slackRanges p.rows ++ p.columns.map fun column => column.bounds.range column.name := rfl
  rw [Document.warnings, sections_objective, hconstraints, hranges, warnings_termsOf, warnings_constraintsFrom,
    List.flatMap_append, warnings_slackRanges, hcolumns, figures]
  simp only [List.flatMap_append, List.append_assoc]

/-! ### Messages -/

/-- A word in front of a blank is told from what is behind it. -/
lemma IsWord.append_blank_inj {v w : List Char} (hv : IsWord v) (hw : IsWord w) {r s : List Char}
    (h : v ++ ' ' :: r = w ++ ' ' :: s) : v = w ∧ r = s := by
  have hcut : ∀ {u : List Char}, IsWord u → ∀ t, (u ++ ' ' :: t).takeWhile (fun c => !isBlank c) = u := by
    intro u hu t
    rw [List.takeWhile_append_of_pos (by simpa using hu.solid)]
    simp [show isBlank ' ' = true by decide]
  have hfirst : v = w := by rw [← hcut hv r, h, hcut hw s]
  subst hfirst
  exact ⟨rfl, by simpa using h⟩

lemma Binary64.isWord_text (x : Binary64) : IsWord x.text.toList := by
  rw [text, String.toList_ofList]
  exact x.isWord_chars

/-- The text of a number tells which number it is. -/
lemma Binary64.text_injective : Function.Injective text := by
  have hread : ∀ x : Binary64, read x.text = .ok x := by
    intro x
    rw [read, text, String.toList_ofList]
    cases hx : x.isNan with
    | false => exact readChars_chars hx
    | true =>
        cases x with
        | nan => decide
        | infinite _ | finite _ _ _ => cases hx
  intro x y h
  exact Except.ok.inj ((hread x).symm.trans (h ▸ hread y))

namespace Figure

/-- What kind of number it is, in a message. -/
def kindWord : Figure → String
  | factor _ _ => "coefficient"
  | lower _ | upper _ => "bound"

/-- Where the number is from, in a message. -/
def placePhrase : Figure → String
  | factor column _ => "of '" ++ column ++ "' "
  | lower _ | upper _ => ""

lemma message_toList (f : Figure) :
    f.message.toList
      = "lp_format: ".toList ++ (f.kindWord.toList ++ ' '
        :: (f.value.text.toList ++ ' ' :: (f.placePhrase.toList ++ ("rendered as ".toList ++ f.chars)))) := by
  rw [message]
  generalize f.chars = cs
  cases f with
  | factor column x | lower x | upper x =>
      rw [subject, kindWord, placePhrase, value]
      generalize x.text = s
      simp

lemma isWord_kindWord (f : Figure) : IsWord f.kindWord.toList := by
  cases f with
  | factor column x => exact (by decide : IsWord "coefficient".toList)
  | lower x | upper x => exact (by decide : IsWord "bound".toList)

/-- **A message tells what it is about**: its number, what is written for it, and whether it is overlooked. -/
lemma alike_of_message {f g : Figure} (h : f.message = g.message) :
    f.value = g.value ∧ f.chars = g.chars ∧ (f.IsOverlooked ↔ g.IsOverlooked) := by
  have hchars := congrArg String.toList h
  rw [message_toList, message_toList, List.append_cancel_left_eq] at hchars
  obtain ⟨hword, hchars⟩ := f.isWord_kindWord.append_blank_inj g.isWord_kindWord hchars
  obtain ⟨hvalue, hrest⟩ := f.value.isWord_text.append_blank_inj g.value.isWord_text hchars
  have hvalue := Binary64.text_injective (String.toList_inj.mp hvalue)
  have hword := String.toList_inj.mp hword
  -- A magnitude fixes what is written for it; for ends that is what remains of the messages.
  cases f with
  | factor column x =>
      cases g with
      | factor _ y =>
          obtain rfl : x = y := hvalue
          exact ⟨rfl, by rw [chars, chars], Iff.rfl⟩
      | lower _ | upper _ => exact absurd (show "coefficient" = "bound" from hword) (by decide)
  | lower x | upper x =>
      cases g with
      | factor _ _ => exact absurd (show "bound" = "coefficient" from hword) (by decide)
      | lower _ | upper _ =>
          exact ⟨hvalue, by simpa only [placePhrase, List.append_cancel_left_eq] using hrest, Iff.rfl⟩

/-- Numbers with one message are altered alike. -/
lemma differs_iff_of_message {f g : Figure} (h : f.message = g.message) :
    f.Differs ∧ ¬f.IsOverlooked ↔ g.Differs ∧ ¬g.IsOverlooked := by
  obtain ⟨hvalue, hchars, hoverlooked⟩ := alike_of_message h
  rw [Differs, Differs, hvalue, hchars, hoverlooked]

end Figure

namespace Problem

/-- The warnings about a text are those about its numbers that are altered and not overlooked. -/
lemma warnings_eq (p : Problem) :
    p.sections.warnings = (p.figures.filter fun f => f.Differs ∧ ¬f.IsOverlooked).map Figure.warning := by
  rw [warnings_sections]
  induction p.figures with
  | nil => rfl
  | cons f fs ih =>
      rw [List.flatMap_cons, ih, Figure.logged_eq, List.filter_cons]
      by_cases h : f.Differs ∧ ¬f.IsOverlooked <;> simp [h]

/-- **Every altered number in a text is reported, once and in order, and no other one is**, if it is not the one
magnitude that is overlooked. The warnings are as many as the numbers that are altered and not overlooked, and the
message about a number is logged if and only if it is one of them. -/
theorem lpText_warns {p : Problem} {width : ℕ} {text : String} (h : (p.lpText width).value = .ok text) :
    text = String.ofList (Stretch.charsOf (p.stretches width)) ∧ Stretch.figuresOf (p.stretches width) = p.figures
      ∧ (p.lpText width).entries = (p.figures.filter fun f => f.Differs ∧ ¬f.IsOverlooked).map Figure.warning
      ∧ ∀ f ∈ p.figures, f.warning ∈ (p.lpText width).entries ↔ f.Differs ∧ ¬f.IsOverlooked := by
  have hentries : (p.lpText width).entries
      = (p.figures.filter fun f => f.Differs ∧ ¬f.IsOverlooked).map Figure.warning := by
    rw [← warnings_eq, lpText, document, (lpText_eq_ok h).1]
  refine ⟨text_of_lpText h, p.figuresOf_stretches width, hentries, fun f hf => ?_⟩
  rw [hentries, List.mem_map]
  constructor
  · rintro ⟨g, hg, hwarning⟩
    have hmessage : g.message = f.message := congrArg Entry.message hwarning
    exact (Figure.differs_iff_of_message hmessage).mp (of_decide_eq_true (List.mem_filter.mp hg).2)
  · intro hreported
    exact ⟨f, List.mem_filter.mpr ⟨hf, decide_eq_true hreported⟩, rfl⟩

/-- Whether a message about a number in the text of a problem is logged if and only if the number is altered, and there
are as many warnings as numbers that are altered. -/
def ReportsChanges (p : Problem) (width : ℕ) : Prop :=
  (∀ f ∈ p.figures, f.warning ∈ (p.lpText width).entries ↔ f.Differs)
    ∧ (p.lpText width).entries.length = (p.figures.filter fun f => f.Differs).length

instance (p : Problem) (width : ℕ) : Decidable (p.ReportsChanges width) := inferInstanceAs (Decidable (_ ∧ _))

/-- A problem with one column. -/
def ofColumn (coefficient : Binary64) (bounds : Bounds) : Problem where
  name := "p"
  direction := .minimize
  columns := [⟨columnName 0, coefficient, bounds, .integer⟩]
  rows := []

/-- A problem in which the coefficient `2.5` and the lower end `0.5` are altered, but not the upper end. -/
def halfColumn : Problem :=
  ofColumn (Decimal.toBinary64 false ⟨25, -1⟩) (.lowerUpper (Decimal.toBinary64 false ⟨5, -1⟩) (.ofInt 9))

/-- The text of that problem. -/
def halfColumnText : String :=
  "\\* Problem: p *\\\nMinimize\n obj: + 2 x0\n\nSubject To\n\nBounds\n 0 <= x0 <= 9\n\nGenerals\n x0\n\nEnd\n"

theorem lpText_warns_halfColumn :
    (halfColumn.lpText 0).value = .ok halfColumnText
      ∧ (halfColumn.lpText 0).entries
        = [.warn "lp_format: coefficient 2.5 of 'x0' rendered as 2", .warn "lp_format: bound 0.5 rendered as 0"]
      ∧ (Figure.upper (.ofInt 9)).warning ∉ (halfColumn.lpText 0).entries := by
  have htext : (halfColumn.lpText 0).value = .ok halfColumnText := by decide +kernel
  obtain ⟨-, -, hentries, hwarning⟩ := lpText_warns htext
  refine ⟨htext, hentries.trans (by decide +kernel), ?_⟩
  rw [hwarning (.upper (.ofInt 9)) (by decide +kernel)]
  decide +kernel

/-- **One magnitude is altered without a word**: `2 ^ 64` is written as `2 ^ 64 - 1`, and nothing is logged. -/
theorem not_reportsChanges_wide :
    ((ofColumn (.ofInt 18446744073709551616) (.lower .zero)).lpText 0).value
        = .ok ("\\* Problem: p *\\\nMinimize\n obj: + 18446744073709551615 x0\n\nSubject To\n\n"
          ++ "Bounds\n 0 <= x0 <= + inf\n\nGenerals\n x0\n\nEnd\n")
      ∧ ((ofColumn (.ofInt 18446744073709551616) (.lower .zero)).lpText 0).entries = []
      ∧ ¬(ofColumn (.ofInt 18446744073709551616) (.lower .zero)).ReportsChanges 0 := by
  refine ⟨by decide +kernel, by decide +kernel, by decide +kernel⟩

end Problem

end LinearProgram
