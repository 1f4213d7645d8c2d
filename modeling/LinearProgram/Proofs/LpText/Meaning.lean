import LinearProgram.Proofs.LpText.Written

/-!
What the LP text means.

A problem asks for integers that keep its rows and its columns within their bounds. Its text asks for rationals that
keep its rows and its ranges, integers where it says so. Cutting a limit to its integer part loses no integer, and
where the limits are whole numbers of machine size it adds none.

* `Problem.Admits`: the integer assignments that a problem allows.
* `Reading.Admits`: the assignments that a text allows.
* `atMost_ofLower`, `atLeast_ofUpper`: **a written limit keeps every integer that the end allows**.
* `sumAt_termsOf`: whole coefficients are written as they are.
* `Problem.lpText_means`: **the text means what the problem means**.
-/

namespace LinearProgram

/-! ### The meaning of a problem -/

/-- The value of a sum of coefficients at an assignment. -/
def valueOf (cs : List Coefficient) (y : String → ℚ) : ℚ := (cs.map fun c => c.value.toRat * y c.column).sum

/-- Whether bounds allow a value. -/
def Bounds.Admits (b : Bounds) (v : ℚ) : Prop :=
  match b.kind with
  | .free => True
  | .lower => b.min.AtMost v
  | .upper => b.max.AtLeast v
  | .lowerUpper => b.min.AtMost v ∧ b.max.AtLeast v
  | .exact => b.min.AtMost v ∧ b.min.AtLeast v

/-- The integer assignments that a problem allows. -/
structure Problem.Admits (p : Problem) (x : String → ℤ) : Prop where
  rows : ∀ row ∈ p.rows, row.bounds.Admits (valueOf row.entries fun name => x name)
  columns : ∀ column ∈ p.columns, column.bounds.Admits (x column.name)
  binaries : ∀ column ∈ p.columns, column.kind = .binary → x column.name = 0 ∨ x column.name = 1

/-! ### The meaning of a reading -/

namespace Reading

/-- The value of a term at an assignment. -/
def Term.valueAt (t : Term) (y : String → ℚ) : ℚ :=
  (if t.negative then -1 else 1) * (t.factor.bind numeral?).getD 1 * y t.name

/-- The value of a sum at an assignment. -/
def sumAt (ts : List Term) (y : String → ℚ) : ℚ := (ts.map fun t => t.valueAt y).sum

/-- Whether a limit is at most a value: it is the lower infinity, or a numeral that is. -/
def Limit.AtMost (l : Limit) (v : ℚ) : Prop :=
  l = .unlimited true ∨ ∃ word q, l = .literal word ∧ numeral? word = some q ∧ q ≤ v

/-- Whether a limit is at least a value: it is the upper infinity, or a numeral that is. -/
def Limit.AtLeast (l : Limit) (v : ℚ) : Prop :=
  l = .unlimited false ∨ ∃ word q, l = .literal word ∧ numeral? word = some q ∧ v ≤ q

/-- Whether a row holds at an assignment. -/
def Row.Holds (r : Row) (y : String → ℚ) : Prop :=
  match r.comparison with
  | .atLeast => r.limit.AtMost (sumAt r.terms y)
  | .atMost => r.limit.AtLeast (sumAt r.terms y)
  | .equals => r.limit.AtMost (sumAt r.terms y) ∧ r.limit.AtLeast (sumAt r.terms y)

/-- Whether a variable lies in its range. -/
def Range.Holds (r : Range) (y : String → ℚ) : Prop := r.lower.AtMost (y r.name) ∧ r.upper.AtLeast (y r.name)

/-- The assignments that a text allows. -/
structure Admits (r : Reading) (y : String → ℚ) : Prop where
  rows : ∀ row ∈ r.rows, row.Holds y
  ranges : ∀ range ∈ r.ranges, range.Holds y
  generals : ∀ name ∈ r.generals, ∃ n : ℤ, y name = n
  binaries : ∀ name ∈ r.binaries, y name = 0 ∨ y name = 1

end Reading

/-! ### Limits -/

/-- A limit written as an integer. -/
lemma reading_ofEnd (x : Binary64) (negative : Bool) :
    (Limit.ofEnd x).reading negative
      = .literal (String.ofList (integerChars (x.truncateWithin leastInteger greatestInteger))) := rfl

lemma atMost_integer (n : ℤ) (v : ℚ) :
    (Reading.Limit.literal (String.ofList (integerChars n))).AtMost v ↔ (n : ℚ) ≤ v := by
  simp [Reading.Limit.AtMost, numeral?_integerChars]

lemma atLeast_integer (n : ℤ) (v : ℚ) :
    (Reading.Limit.literal (String.ofList (integerChars n))).AtLeast v ↔ v ≤ (n : ℚ) := by
  simp [Reading.Limit.AtLeast, numeral?_integerChars]

lemma ofLower_of_not_less {x : Binary64} (h : ¬x.less (.ofInt leastInteger) = true) :
    Limit.ofLower x = .ofEnd x := by
  rw [Limit.ofLower, if_neg h]

lemma ofUpper_of_not_less {x : Binary64} (h : ¬(Binary64.ofInt greatestInteger).less x = true) :
    Limit.ofUpper x = .ofEnd x := by
  rw [Limit.ofUpper, if_neg h]

/-- **A written lower limit keeps every integer that the end allows.** -/
lemma atMost_ofLower {x : Binary64} {v : ℤ} (h : x.AtMost v) : ((Limit.ofLower x).reading true).AtMost v := by
  have hleast := Binary64.isInt_leastInteger
  by_cases hless : x.less (.ofInt leastInteger) = true
  · have hnone : Limit.ofLower x = .none := by rw [Limit.ofLower, if_pos hless]
    exact Or.inl (congrArg (Limit.reading true) hnone)
  · rw [ofLower_of_not_less hless, reading_ofEnd, atMost_integer]
    cases x with
    | nan => exact h.elim
    | infinite negative =>
        -- the lower infinity is less than every finite number
        obtain rfl : negative = true := h
        have hbound := Binary64.position?_bounds_of_finite hleast.isFinite hleast.position?
        rw [Binary64.less_of_position? rfl hleast.position?, decide_eq_true_eq] at hless
        omega
    | finite negative u hu =>
        obtain ⟨p, hp, hrat⟩ := Binary64.exists_position? (x := .finite negative u hu) rfl
        have hpv := (Binary64.toRat_le_int_iff hrat v).mp h
        have hlow : leastInteger ≤ v := by
          rw [Binary64.less_of_position? hp hleast.position?, decide_eq_true_eq, not_lt] at hless
          have hunits : (0 : ℤ) < unitsPerOne := by exact_mod_cast unitsPerOne_pos
          exact le_of_mul_le_mul_right (hless.trans hpv) hunits
        have htruncate := Binary64.tdiv_le hpv
        rw [← Binary64.truncate_of_position? hp] at htruncate
        have hwritten : (Binary64.finite negative u hu).truncateWithin leastInteger greatestInteger ≤ v :=
          max_le hlow ((min_le_right _ _).trans htruncate)
        exact_mod_cast hwritten

/-- **A written upper limit keeps every integer that the end allows.** -/
lemma atLeast_ofUpper {x : Binary64} {v : ℤ} (h : x.AtLeast v) :
    ((Limit.ofUpper x).reading false).AtLeast v := by
  have hgreatest := Binary64.isInt_greatestInteger
  by_cases hless : (Binary64.ofInt greatestInteger).less x = true
  · have hnone : Limit.ofUpper x = .none := by rw [Limit.ofUpper, if_pos hless]
    exact Or.inl (congrArg (Limit.reading false) hnone)
  · rw [ofUpper_of_not_less hless, reading_ofEnd, atLeast_integer]
    cases x with
    | nan => exact h.elim
    | infinite negative =>
        -- the upper infinity is greater than every finite number
        obtain rfl : negative = false := h
        have hbound := Binary64.position?_bounds_of_finite hgreatest.isFinite hgreatest.position?
        rw [Binary64.less_of_position? hgreatest.position? rfl, decide_eq_true_eq] at hless
        omega
    | finite negative u hu =>
        obtain ⟨p, hp, hrat⟩ := Binary64.exists_position? (x := .finite negative u hu) rfl
        have hpv := (Binary64.int_le_toRat_iff hrat v).mp h
        have hhigh : v ≤ greatestInteger := by
          rw [Binary64.less_of_position? hgreatest.position? hp, decide_eq_true_eq, not_lt] at hless
          have hunits : (0 : ℤ) < unitsPerOne := by exact_mod_cast unitsPerOne_pos
          exact le_of_mul_le_mul_right (hpv.trans hless) hunits
        have htruncate := Binary64.le_tdiv hpv
        rw [← Binary64.truncate_of_position? hp] at htruncate
        have hwritten : v ≤ (Binary64.finite negative u hu).truncateWithin leastInteger greatestInteger :=
          (le_min hhigh htruncate).trans (le_max_right _ _)
        exact_mod_cast hwritten

/-- An integer of machine size. -/
structure IsMachineInteger (n : ℤ) : Prop where
  least : leastInteger ≤ n
  greatest : n ≤ greatestInteger

/-- A lower end that is written as it is: no limit, or an integer of machine size. -/
def IsWholeLower (x : Binary64) : Prop := x = .negInf ∨ ∃ n, IsMachineInteger n ∧ x.IsInt n

/-- An upper end that is written as it is: no limit, or an integer of machine size. -/
def IsWholeUpper (x : Binary64) : Prop := x = .posInf ∨ ∃ n, IsMachineInteger n ∧ x.IsInt n

lemma truncateWithin_of_isInt {x : Binary64} {n : ℤ} (hn : IsMachineInteger n) (hx : x.IsInt n) :
    x.truncateWithin leastInteger greatestInteger = n := by
  rw [Binary64.truncateWithin, hx.truncate, min_eq_right hn.greatest, max_eq_right hn.least]

/-- A whole lower limit is written as it is. -/
lemma atMost_of_ofLower {x : Binary64} (hx : IsWholeLower x) {v : ℚ}
    (h : ((Limit.ofLower x).reading true).AtMost v) : x.AtMost v := by
  rcases hx with rfl | ⟨n, hn, hx⟩
  · exact rfl
  · have hless : x.less (.ofInt leastInteger) = false := by
      rw [hx.less Binary64.isInt_leastInteger]
      exact decide_eq_false (not_lt.mpr hn.least)
    rw [ofLower_of_not_less (by simp [hless]), reading_ofEnd, atMost_integer, truncateWithin_of_isInt hn hx] at h
    rw [Binary64.atMost_iff hx.isFinite, hx.toRat]
    exact h

/-- A whole upper limit is written as it is. -/
lemma atLeast_of_ofUpper {x : Binary64} (hx : IsWholeUpper x) {v : ℚ}
    (h : ((Limit.ofUpper x).reading false).AtLeast v) : x.AtLeast v := by
  rcases hx with rfl | ⟨n, hn, hx⟩
  · exact rfl
  · have hless : (Binary64.ofInt greatestInteger).less x = false := by
      rw [Binary64.isInt_greatestInteger.less hx]
      exact decide_eq_false (not_lt.mpr hn.greatest)
    rw [ofUpper_of_not_less (by simp [hless]), reading_ofEnd, atLeast_integer, truncateWithin_of_isInt hn hx] at h
    rw [Binary64.atLeast_iff hx.isFinite, hx.toRat]
    exact h

/-! ### Sums -/

/-- A coefficient that is written as it is: an integer below `2 ^ 64`. -/
def IsWholeCoefficient (value : Binary64) : Prop := ∃ n : ℤ, n.natAbs < 2 ^ 64 ∧ value.IsInt n

/-- **A whole coefficient is written as it is**, with its sign, and left out if it is zero. -/
lemma valueAt_termOf? (column : String) {value : Binary64} {n : ℤ} (hn : n.natAbs < 2 ^ 64)
    (hvalue : value.IsInt n) (y : String → ℚ) :
    ((termOf? column value).map fun t => t.reading.valueAt y).getD 0 = n * y column := by
  have habs := hvalue.abs
  have hzero := hvalue.equals Binary64.isInt_zero
  have hneg := hvalue.less Binary64.isInt_zero
  have hone := habs.equals Binary64.isInt_one
  have hnan : value.isNan = false := by
    cases value with
    | nan => exact absurd hvalue.isFinite (by simp [Binary64.isFinite])
    | infinite _ | finite _ _ _ => rfl
  have htruncate : value.abs.truncateWithin 0 greatestMagnitude = |n| := by
    have hle : |n| ≤ greatestMagnitude := by
      rw [greatestMagnitude, Int.abs_eq_natAbs]
      omega
    rw [Binary64.truncateWithin, habs.truncate, min_eq_right hle, max_eq_right (abs_nonneg n)]
  have hsign : (if n < 0 then (-1 : ℚ) else 1) * (|n| : ℤ) = n := by
    split
    case isTrue hlt =>
        rw [abs_of_neg hlt]
        push_cast
        ring
    case isFalse hnlt =>
        rw [abs_of_nonneg (by omega), one_mul]
  rw [termOf?, hzero]
  by_cases hn0 : n = 0
  · simp [hn0]
  · rw [decide_eq_false hn0, if_neg (by simp), Option.map_some, Option.getD_some, ← hsign]
    rw [hneg, hnan, Bool.or_false, hone, htruncate]
    by_cases hn1 : |n| = 1
    · simp [Term.reading, Reading.Term.valueAt, hn1]
    · simp [Term.reading, Reading.Term.valueAt, hn1, numeral?_integerChars]

lemma sumAt_append (ts us : List Reading.Term) (y : String → ℚ) :
    Reading.sumAt (ts ++ us) y = Reading.sumAt ts y + Reading.sumAt us y := by
  simp [Reading.sumAt]

/-- **A sum of whole coefficients is written as it is.** -/
lemma sumAt_termsOf {cs : List Coefficient} (h : ∀ c ∈ cs, IsWholeCoefficient c.value) (y : String → ℚ) :
    Reading.sumAt ((termsOf cs).map Term.reading) y = valueOf cs y := by
  induction cs with
  | nil => rfl
  | cons c cs ih =>
      have hrest := ih fun d hd => h d (List.mem_cons_of_mem c hd)
      obtain ⟨n, hn, hvalue⟩ := h c List.mem_cons_self
      have hterm := valueAt_termOf? c.column hn hvalue y
      rw [← hvalue.toRat] at hterm
      rw [termsOf_cons, List.map_append, sumAt_append, hrest, valueOf, valueOf, List.map_cons, List.sum_cons, ← hterm]
      congr 1
      cases termOf? c.column c.value <;> simp [Reading.sumAt]

/-- The value of a sum depends on the variables in it. -/
lemma valueOf_congr {cs : List Coefficient} {y z : String → ℚ} (h : ∀ c ∈ cs, y c.column = z c.column) :
    valueOf cs y = valueOf cs z := by
  rw [valueOf, valueOf]
  congr 1
  exact List.map_congr_left fun c hc => by rw [h c hc]

/-- Whole coefficients give an integer at integers. -/
lemma exists_int_valueOf {cs : List Coefficient} (h : ∀ c ∈ cs, IsWholeCoefficient c.value) (x : String → ℤ) :
    ∃ m : ℤ, valueOf cs (fun name => x name) = m := by
  induction cs with
  | nil => exact ⟨0, by simp [valueOf]⟩
  | cons c cs ih =>
      obtain ⟨m, hm⟩ := ih fun d hd => h d (List.mem_cons_of_mem c hd)
      obtain ⟨n, -, hn⟩ := h c List.mem_cons_self
      refine ⟨n * x c.column + m, ?_⟩
      rw [valueOf] at hm ⊢
      rw [List.map_cons, List.sum_cons, hm, hn.toRat]
      push_cast
      rfl

/-! ### Bounds -/

/-- Bounds as they are made: an end that does not apply is the infinity on its side, and exact ends agree. -/
inductive Bounds.IsMade : Bounds → Prop
  | free : IsMade .free
  | lower (min : Binary64) : IsMade (.lower min)
  | upper (max : Binary64) : IsMade (.upper max)
  | lowerUpper (min max : Binary64) : IsMade (.lowerUpper min max)
  | exact (value : Binary64) : IsMade (.exact value)

/-- Bounds with ends that are written as they are. -/
structure Bounds.HasWholeEnds (b : Bounds) : Prop where
  lower : IsWholeLower b.min
  upper : IsWholeUpper b.max

/-- Bounds allow what lies between their ends. -/
lemma Bounds.admits_iff {b : Bounds} (hb : b.IsMade) (v : ℚ) : b.Admits v ↔ b.min.AtMost v ∧ b.max.AtLeast v := by
  have hlow : Binary64.negInf.AtMost v := rfl
  have hhigh : Binary64.posInf.AtLeast v := rfl
  cases hb with
  | free => exact ⟨fun _ => ⟨hlow, hhigh⟩, fun _ => trivial⟩
  | lower min => exact ⟨fun h => ⟨h, hhigh⟩, And.left⟩
  | upper max => exact ⟨fun h => ⟨hlow, h⟩, And.right⟩
  | lowerUpper min max => exact Iff.rfl
  | exact value => exact Iff.rfl

/-- **The written range keeps every integer that the bounds allow.** -/
lemma holds_range {b : Bounds} (hb : b.IsMade) {v : ℤ} (h : b.Admits v) {name : String} {y : String → ℚ}
    (hy : y name = v) : (b.range name).reading.Holds y := by
  obtain ⟨hlow, hhigh⟩ := (b.admits_iff hb v).mp h
  simp only [b.reading_range, Reading.Range.Holds, hy]
  exact ⟨atMost_ofLower hlow, atLeast_ofUpper hhigh⟩

/-- Whole ends are written as they are. -/
lemma admits_of_holds_range {b : Bounds} (hb : b.IsMade) (hwhole : b.HasWholeEnds) {name : String}
    {y : String → ℚ} (h : (b.range name).reading.Holds y) : b.Admits (y name) := by
  simp only [b.reading_range, Reading.Range.Holds] at h
  obtain ⟨hlow, hhigh⟩ := h
  rw [b.admits_iff hb]
  exact ⟨atMost_of_ofLower hwhole.lower hlow, atLeast_of_ofUpper hwhole.upper hhigh⟩

/-- An exact value that is an integer is written as it is. -/
lemma exact_text {v : Binary64} {n : ℤ} (hv : v.IsInt n) (hwritable : isWritableExactly v = true) (s : ℚ) :
    ((Reading.Limit.literal v.text).AtMost s ↔ v.AtMost s)
      ∧ ((Reading.Limit.literal v.text).AtLeast s ↔ v.AtLeast s) := by
  rw [isWritableExactly, Bool.and_eq_true, Binary64.isInt_leastInteger.less hv,
    hv.less Binary64.isInt_greatestInteger, decide_eq_true_eq, decide_eq_true_eq, leastInteger,
    greatestInteger] at hwritable
  have hnumeral := numeral?_text hv (by omega)
  rw [Binary64.atMost_iff hv.isFinite, Binary64.atLeast_iff hv.isFinite, hv.toRat]
  simp [Reading.Limit.AtMost, Reading.Limit.AtLeast, hnumeral]

/-! ### Rows -/

/-- What a constraint asks, by the kind of bounds of its row. -/
lemma reading_of_slack {row : Row} (h : row.hasSlack = true) (number : ℕ) :
    (⟨row.name, termsOf row.entries, row.relation number⟩ : Constraint).reading
      = ⟨row.name, (termsOf row.entries).map Term.reading ++ [⟨true, none, slackName number⟩], .equals,
        .literal "0"⟩ := by
  rw [Row.hasSlack, Bool.or_eq_true, decide_eq_true_eq, decide_eq_true_eq] at h
  rcases h with h | h <;> simp [Constraint.reading, Row.relation, h]

/-- A sum with a slack variable holds where the slack variable has the value of the sum. -/
lemma holds_of_slack {row : Row} (h : row.hasSlack = true)
    (hcoefs : ∀ e ∈ row.entries, IsWholeCoefficient e.value) (number : ℕ) (y : String → ℚ) :
    (⟨row.name, termsOf row.entries, row.relation number⟩ : Constraint).reading.Holds y
      ↔ y (slackName number) = valueOf row.entries y := by
  have hzero : numeral? "0" = some 0 := by exact_mod_cast numeral?_integerChars 0
  have hsum : Reading.sumAt ((termsOf row.entries).map Term.reading ++ [⟨true, none, slackName number⟩]) y
      = valueOf row.entries y - y (slackName number) := by
    rw [sumAt_append, sumAt_termsOf hcoefs]
    simp [Reading.sumAt, Reading.Term.valueAt, sub_eq_add_neg]
  rw [reading_of_slack h]
  simp only [Reading.Row.Holds, hsum, Reading.Limit.AtMost, Reading.Limit.AtLeast]
  simp only [reduceCtorEq, Reading.Limit.literal.injEq, false_or]
  constructor
  · rintro ⟨⟨-, q, rfl, hq, hlow⟩, -, r, rfl, hr, hhigh⟩
    rw [hzero] at hq hr
    obtain rfl := Option.some.inj hq
    obtain rfl := Option.some.inj hr
    linarith
  · intro hy
    exact ⟨⟨"0", 0, rfl, hzero, by linarith⟩, "0", 0, rfl, hzero, by linarith⟩

/-- **A row that allows its value is written as a constraint that holds.** -/
lemma holds_of_admits {row : Row} (hwritable : row.bounds.exactFault? = none)
    (hcoefs : ∀ e ∈ row.entries, IsWholeCoefficient e.value) {number : ℕ} {y : String → ℚ} {m : ℤ}
    (hvalue : valueOf row.entries y = m) (hslack : row.hasSlack = true → y (slackName number) = m)
    (h : row.bounds.Admits m) :
    (⟨row.name, termsOf row.entries, row.relation number⟩ : Constraint).reading.Holds y := by
  by_cases hrow : row.hasSlack = true
  · rw [holds_of_slack hrow hcoefs, hslack hrow, hvalue]
  · have hsum := sumAt_termsOf hcoefs y
    rw [hvalue] at hsum
    rw [Bounds.Admits] at h
    cases hkind : row.bounds.kind with
    | free | lowerUpper => exact absurd (by simp [Row.hasSlack, hkind]) hrow
    | lower =>
        rw [hkind] at h
        simp only [Constraint.reading, Row.relation, hkind, Reading.Row.Holds, hsum]
        exact atMost_ofLower h
    | upper =>
        rw [hkind] at h
        simp only [Constraint.reading, Row.relation, hkind, Reading.Row.Holds, hsum]
        exact atLeast_ofUpper h
    | exact =>
        rw [hkind] at h
        simp only [Constraint.reading, Row.relation, hkind, Reading.Row.Holds, hsum]
        -- an exact value that equals an integer is one
        have hexact := Bounds.isWritableExactly_min hwritable hkind
        have hfinite := isFinite_of_isWritableExactly hexact
        have hint : row.bounds.min.IsInt m := by
          rw [Binary64.atMost_iff hfinite, Binary64.atLeast_iff hfinite] at h
          exact ⟨hfinite, le_antisymm h.1 h.2⟩
        obtain ⟨hlow, hhigh⟩ := exact_text hint hexact m
        exact ⟨hlow.mpr h.1, hhigh.mpr h.2⟩

/-- **With whole ends, a row whose constraint holds allows its value.** -/
lemma admits_of_holds {row : Row} (hmade : row.bounds.IsMade) (hwritable : row.bounds.exactFault? = none)
    (hwhole : row.bounds.HasWholeEnds) (hcoefs : ∀ e ∈ row.entries, IsWholeCoefficient e.value) {number : ℕ}
    {y : String → ℚ} (hrange : row.hasSlack = true → (row.bounds.range (slackName number)).reading.Holds y)
    (h : (⟨row.name, termsOf row.entries, row.relation number⟩ : Constraint).reading.Holds y) :
    row.bounds.Admits (valueOf row.entries y) := by
  by_cases hrow : row.hasSlack = true
  · rw [holds_of_slack hrow hcoefs] at h
    rw [← h]
    exact admits_of_holds_range hmade hwhole (hrange hrow)
  · have hsum := sumAt_termsOf hcoefs y
    rw [Bounds.Admits]
    cases hkind : row.bounds.kind with
    | free | lowerUpper => exact absurd (by simp [Row.hasSlack, hkind]) hrow
    | lower =>
        simp only [Constraint.reading, Row.relation, hkind, Reading.Row.Holds, hsum] at h
        exact atMost_of_ofLower hwhole.lower h
    | upper =>
        simp only [Constraint.reading, Row.relation, hkind, Reading.Row.Holds, hsum] at h
        exact atLeast_of_ofUpper hwhole.upper h
    | exact =>
        simp only [Constraint.reading, Row.relation, hkind, Reading.Row.Holds, hsum] at h
        have hexact := Bounds.isWritableExactly_min hwritable hkind
        obtain ⟨n, hint⟩ : ∃ n, row.bounds.min.IsInt n := by
          rcases hwhole.lower with hinf | ⟨n, -, hint⟩
          · have hfinite := isFinite_of_isWritableExactly hexact
            rw [hinf] at hfinite
            exact absurd hfinite (by simp [Binary64.negInf, Binary64.isFinite])
          · exact ⟨n, hint⟩
        obtain ⟨hlow, hhigh⟩ := exact_text hint hexact (valueOf row.entries y)
        exact ⟨hlow.mp h.1, hhigh.mp h.2⟩

/-! ### Slack variables -/

lemma slackName_injective : Function.Injective slackName := by
  intro m n h
  have hchars := congrArg String.toList h
  rw [slackName_toList, slackName_toList] at hchars
  exact Decimal.digitChars_injective (by simpa using hchars)

/-- No column has the name of a slack variable. -/
lemma IsColumnName.ne_slackName {name : String} (h : IsColumnName name) (number : ℕ) : name ≠ slackName number := by
  rintro rfl
  obtain ⟨ds, -, -, hname⟩ := h
  rw [slackName_toList] at hname
  exact absurd (List.cons.inj hname).1 (by decide)

/-- An integer assignment extended to the slack variables: each has the value of its row. -/
def Problem.extend (p : Problem) (x : String → ℤ) (name : String) : ℚ :=
  match (slackRows p.rows).zipIdx.find? fun (_, i) => slackName (i + 1) = name with
  | some (row, _) => valueOf row.entries fun name => x name
  | none => x name

/-- Only slack variables are new. -/
lemma Problem.extend_of_ne {p : Problem} {x : String → ℤ} {name : String}
    (h : ∀ number, name ≠ slackName number) : p.extend x name = x name := by
  have hfind : ((slackRows p.rows).zipIdx.find? fun (_, i) => slackName (i + 1) = name) = none := by
    rw [List.find?_eq_none]
    rintro ⟨row, i⟩ -
    simpa using fun heq => h (i + 1) heq.symm
  rw [extend, hfind]

/-- A slack variable has the value of its row. -/
lemma Problem.extend_slackName {p : Problem} {x : String → ℤ} {i : ℕ} {row : Row}
    (h : (slackRows p.rows)[i]? = some row) :
    p.extend x (slackName (i + 1)) = valueOf row.entries fun name => x name := by
  rw [extend]
  cases hfind : (slackRows p.rows).zipIdx.find? fun (_, j) => slackName (j + 1) = slackName (i + 1) with
  | none =>
      have hmem : (row, i) ∈ (slackRows p.rows).zipIdx := List.mem_zipIdx_iff_getElem?.mpr h
      exact absurd (List.find?_eq_none.mp hfind (row, i) hmem) (by simp)
  | some found =>
      obtain ⟨other, j⟩ := found
      have hname : slackName (j + 1) = slackName (i + 1) := by simpa using List.find?_some hfind
      have hji : j = i := by
        have := slackName_injective hname
        omega
      have hget := List.mem_zipIdx_iff_getElem?.mp (List.mem_of_find?_eq_some hfind)
      rw [hji] at hget
      have hother : other = row := Option.some.inj (hget.symm.trans h)
      rw [hother]

/-! ### Problems -/

/-- A problem that its text can mean: it is plainly named, its rows speak of its columns, its coefficients are
integers below `2 ^ 64`, and its bounds are as they are made. -/
structure Problem.IsProper (p : Problem) : Prop where
  named : p.IsPlainlyNamed
  known : ∀ row ∈ p.rows, ∀ e ∈ row.entries, ∃ column ∈ p.columns, column.name = e.column
  objective : ∀ c ∈ p.objective, IsWholeCoefficient c.value
  entries : ∀ row ∈ p.rows, ∀ e ∈ row.entries, IsWholeCoefficient e.value
  rowBounds : ∀ row ∈ p.rows, row.bounds.IsMade
  columnBounds : ∀ column ∈ p.columns, column.bounds.IsMade

/-- A problem whose bounds have ends that are written as they are. -/
structure Problem.HasWholeEnds (p : Problem) : Prop where
  rows : ∀ row ∈ p.rows, row.bounds.HasWholeEnds
  columns : ∀ column ∈ p.columns, column.bounds.HasWholeEnds

variable {p : Problem}

/-- A slack variable of a row has a range in the text. -/
lemma range_mem_sections {row : Row} {number : ℕ} (hnumber : IsNumbered p.rows 1 row number)
    (hrow : row.hasSlack = true) : row.bounds.range (slackName number) ∈ p.sections.ranges := by
  obtain ⟨hle, hget⟩ := hnumber hrow
  refine List.mem_append.mpr (Or.inl (List.mem_map.mpr ⟨(row, number - 1), ?_, ?_⟩))
  · exact List.mem_zipIdx_iff_getElem?.mpr hget
  · show row.bounds.range (slackName (number - 1 + 1)) = _
    rw [Nat.sub_add_cancel hle]

/-- **What a problem allows extends to what its text allows.** -/
lemma admits_extend (hp : p.IsProper) (hwritable : p.writabilityFault? = none) {x : String → ℤ}
    (hx : p.Admits x) : p.sections.reading.Admits (p.extend x) := by
  have hcolumn : ∀ column ∈ p.columns, p.extend x column.name = x column.name := fun column hcolumn =>
    Problem.extend_of_ne (hp.named.columns column hcolumn).ne_slackName
  have hvalue : ∀ row ∈ p.rows, valueOf row.entries (p.extend x) = valueOf row.entries fun name => x name :=
    fun row hrow => valueOf_congr fun e he => Problem.extend_of_ne (hp.named.entries row hrow e he).ne_slackName
  constructor
  case rows =>
      intro r hr
      obtain ⟨c, hc, rfl⟩ := List.mem_map.mp hr
      obtain ⟨row, hrow, number, rfl, hnumber⟩ := mem_constraintsFrom hc
      obtain ⟨m, hm⟩ := exists_int_valueOf (hp.entries row hrow) x
      have hadmits := hx.rows row hrow
      rw [hm] at hadmits
      refine holds_of_admits (Problem.exactFault?_of_mem_rows hwritable hrow) (hp.entries row hrow)
        ((hvalue row hrow).trans hm) (fun hslack => ?_) hadmits
      obtain ⟨hle, hget⟩ := hnumber hslack
      have hextend := Problem.extend_slackName (x := x) hget
      rw [Nat.sub_add_cancel hle] at hextend
      rw [hextend, hm]
  case ranges =>
      intro r hr
      obtain ⟨range, hrange, rfl⟩ := List.mem_map.mp hr
      rcases List.mem_append.mp hrange with hrange | hrange
      · obtain ⟨⟨row, i⟩, hmem, rfl⟩ := List.mem_map.mp hrange
        have hget := List.mem_zipIdx_iff_getElem?.mp hmem
        have hrow : row ∈ p.rows := List.mem_of_mem_filter (List.mem_of_getElem? hget)
        obtain ⟨m, hm⟩ := exists_int_valueOf (hp.entries row hrow) x
        have hadmits := hx.rows row hrow
        rw [hm] at hadmits
        exact holds_range (hp.rowBounds row hrow) hadmits ((Problem.extend_slackName hget).trans hm)
      · obtain ⟨column, hmem, rfl⟩ := List.mem_map.mp hrange
        exact holds_range (hp.columnBounds column hmem) (hx.columns column hmem) (hcolumn column hmem)
  case generals =>
      intro name hname
      obtain ⟨column, hmem, rfl⟩ := List.mem_map.mp hname
      exact ⟨x column.name, hcolumn column hmem⟩
  case binaries =>
      intro name hname
      obtain ⟨column, hmem, rfl⟩ := List.mem_map.mp hname
      obtain ⟨hmem, hkind⟩ := List.mem_filter.mp hmem
      rw [hcolumn column hmem]
      exact_mod_cast hx.binaries column hmem (by simpa using hkind)

/-- **With whole ends, what the text allows is what the problem allows.** -/
lemma admits_floor (hp : p.IsProper) (hwritable : p.writabilityFault? = none) (hwhole : p.HasWholeEnds)
    {y : String → ℚ} (hy : p.sections.reading.Admits y) :
    (∀ column ∈ p.columns, y column.name = (⌊y column.name⌋ : ℤ)) ∧ p.Admits fun name => ⌊y name⌋ := by
  have hint : ∀ column ∈ p.columns, y column.name = (⌊y column.name⌋ : ℤ) := by
    intro column hcolumn
    obtain ⟨n, hn⟩ := hy.generals column.name (List.mem_map_of_mem hcolumn)
    rw [hn, Int.floor_intCast]
  refine ⟨hint, ?_⟩
  constructor
  case rows =>
      intro row hrow
      obtain ⟨number, hc, hnumber⟩ := exists_mem_constraintsFrom hrow 1
      have hvalue : valueOf row.entries (fun name => (⌊y name⌋ : ℤ)) = valueOf row.entries y := by
        refine valueOf_congr fun e he => ?_
        obtain ⟨column, hcolumn, hname⟩ := hp.known row hrow e he
        rw [← hname, ← hint column hcolumn]
      rw [hvalue]
      refine admits_of_holds (hp.rowBounds row hrow) (Problem.exactFault?_of_mem_rows hwritable hrow)
        (hwhole.rows row hrow) (hp.entries row hrow) (fun hslack => ?_) (hy.rows _ (List.mem_map_of_mem hc))
      exact hy.ranges _ (List.mem_map_of_mem (range_mem_sections hnumber hslack))
  case columns =>
      intro column hcolumn
      have hmem : column.bounds.range column.name ∈ p.sections.ranges :=
        List.mem_append.mpr (Or.inr (List.mem_map_of_mem (f := fun c => c.bounds.range c.name) hcolumn))
      have hadmits := admits_of_holds_range (hp.columnBounds column hcolumn) (hwhole.columns column hcolumn)
        (hy.ranges _ (List.mem_map_of_mem hmem))
      rwa [hint column hcolumn] at hadmits
  case binaries =>
      intro column hcolumn hkind
      have hmem : column.name ∈ p.sections.reading.binaries :=
        List.mem_map_of_mem (List.mem_filter.mpr ⟨hcolumn, by simpa using hkind⟩)
      have hbinary := hy.binaries column.name hmem
      rw [hint column hcolumn] at hbinary
      exact_mod_cast hbinary

/-- **The LP text means what the problem means.** Its direction and its objective are those of the problem, every
integer assignment that the problem allows extends by values of the slack variables to one that the text allows,
and where all ends of bounds are whole numbers of machine size the text allows no others. -/
theorem Problem.lpText_means (hp : p.IsProper) {width : ℕ} {text : String}
    (h : (p.lpText width).value = .ok text) :
    ∃ r, Reading.ofText? text = some r ∧ r.direction = p.direction
      ∧ (∀ y, Reading.sumAt r.objective y = valueOf p.objective y)
      ∧ (∀ x : String → ℤ, p.Admits x → ∃ y : String → ℚ,
          (∀ name, (∀ number, name ≠ slackName number) → y name = x name) ∧ r.Admits y)
      ∧ (p.HasWholeEnds → ∀ y, r.Admits y → ∃ x : String → ℤ,
          (∀ column ∈ p.columns, y column.name = x column.name) ∧ p.Admits x) := by
  have hwritable := (lpText_eq_ok h).1
  refine ⟨p.sections.reading, ofText?_lpText hp.named h, rfl, fun y => ?_, fun x hx => ?_, fun hwhole y hy => ?_⟩
  · rw [show p.sections.reading.objective = (termsOf p.objective).map Term.reading by
      rw [← p.sections_objective]; rfl]
    exact sumAt_termsOf hp.objective y
  · exact ⟨p.extend x, fun name hname => extend_of_ne hname, admits_extend hp hwritable hx⟩
  · exact ⟨fun name => ⌊y name⌋, admits_floor hp hwritable hwhole hy⟩

lemma isWholeCoefficient_ofInt {n : ℤ} (hn : n.natAbs < 2 ^ 53) : IsWholeCoefficient (.ofInt n) :=
  ⟨n, hn.trans (by decide), Binary64.isInt_ofInt hn⟩

lemma isWholeCoefficient_one : IsWholeCoefficient .one := ⟨1, by decide, Binary64.isInt_one⟩

lemma isProper_bakery : (bakery (.ofInt 3)).IsProper where
  named := isPlainlyNamed_bakery _
  known := by simp [bakery]
  objective := by
    simp [Problem.objective, bakery, isWholeCoefficient_one, isWholeCoefficient_ofInt]
  entries := by
    simp [bakery, isWholeCoefficient_one, isWholeCoefficient_ofInt]
  rowBounds := by
    simp [bakery, Bounds.IsMade.upper, Bounds.IsMade.lower, Bounds.IsMade.lowerUpper, Bounds.IsMade.exact]
  columnBounds := by simp [bakery, Bounds.IsMade.free, Bounds.IsMade.lowerUpper]

/-- The text of the bakery means what the bakery means. -/
theorem Problem.lpText_means_bakery :
    ∃ r, Reading.ofText? ((bakery (.ofInt 3)).sections.text 1) = some r ∧ r.direction = .maximize
      ∧ (∀ y, Reading.sumAt r.objective y = valueOf (bakery (.ofInt 3)).objective y)
      ∧ (∀ x : String → ℤ, (bakery (.ofInt 3)).Admits x → ∃ y : String → ℚ,
          (∀ name, (∀ number, name ≠ slackName number) → y name = x name) ∧ r.Admits y)
      ∧ ((bakery (.ofInt 3)).HasWholeEnds → ∀ y, r.Admits y → ∃ x : String → ℤ,
          (∀ column ∈ (bakery (.ofInt 3)).columns, y column.name = x column.name)
            ∧ (bakery (.ofInt 3)).Admits x) := by
  have htext : ((bakery (.ofInt 3)).lpText 1).value = .ok ((bakery (.ofInt 3)).sections.text 1) := by decide +kernel
  exact lpText_means isProper_bakery htext

end LinearProgram
