import LinearProgram.Proofs.LpText.Written

/-!
What the LP text identifies.

A text is read in one way only, and its reading tells all that the text shows of the problem: the slack variables
are found at the ends of their sums, and their ranges stand in the order of their rows in front of the ranges of
the columns.

* `PrintedProblem`, `Problem.printed`: what the text shows of a problem.
* `Reading.printed`: the same from a reading.
* `printedRows_constraintsFrom`: the rows get the ranges of their slack variables back.
* `Problem.printed_eq_of_lpText_eq`: **problems with one text show the same**.
-/

namespace LinearProgram

/-! ### What is shown of a problem -/

/-- What is shown of a coefficient that is not zero: its column, its sign and the integer part of its
magnitude. -/
structure Weight where
  column : String
  negative : Bool
  magnitude : ℤ
  deriving DecidableEq

/-- What is shown of the bounds of a row: the sense and the limits in their text. -/
inductive Demand where
  | atLeast (limit : String)
  | atMost (limit : String)
  | equals (value : String)
  /-- A slack variable carries the limits. -/
  | within (lower upper : String)
  deriving DecidableEq

/-- What is shown of a row. -/
structure PrintedRow where
  name : String
  weights : List Weight
  demand : Demand
  deriving DecidableEq

/-- What is shown of a column: its name and its limits in their text. -/
structure PrintedColumn where
  name : String
  lower : String
  upper : String
  deriving DecidableEq

/-- What is shown of a problem. -/
structure PrintedProblem where
  name : String
  direction : Direction
  columns : List PrintedColumn
  binaries : List String
  objective : List Weight
  rows : List PrintedRow
  deriving DecidableEq

/-- The weights of some coefficients in order; a coefficient of zero has none. -/
def weightsOf (cs : List Coefficient) : List Weight :=
  (cs.filter fun c => !c.value.equals .zero).map fun c =>
    ⟨c.column, c.value.less .zero, c.value.abs.truncateWithin 0 greatestMagnitude⟩

/-- The lower end of bounds in its text. -/
def Bounds.lowerText (b : Bounds) : String := String.ofList (Limit.ofLower b.min).lowerChars

/-- The upper end of bounds in its text. -/
def Bounds.upperText (b : Bounds) : String := String.ofList (Limit.ofUpper b.max).upperChars

/-- What is shown of the bounds of a row. -/
def Row.demand (row : Row) : Demand :=
  match row.bounds.kind with
  | .free | .lowerUpper => .within row.bounds.lowerText row.bounds.upperText
  | .lower => .atLeast row.bounds.lowerText
  | .upper => .atMost row.bounds.upperText
  | .exact => .equals row.bounds.min.text

/-- What is shown of a row. -/
def Row.printed (row : Row) : PrintedRow := ⟨row.name, weightsOf row.entries, row.demand⟩

/-- What is shown of a column. -/
def Column.printed (column : Column) : PrintedColumn :=
  ⟨column.name, column.bounds.lowerText, column.bounds.upperText⟩

/-- What is shown of a problem. -/
def Problem.printed (p : Problem) : PrintedProblem where
  name := p.name
  direction := p.direction
  columns := p.columns.map Column.printed
  binaries := (p.columns.filter fun column => column.kind = .binary).map Column.name
  objective := weightsOf p.objective
  rows := p.rows.map Row.printed

namespace Reading

/-! ### What a reading shows -/

/-- The weight of a term. -/
def Term.weight (t : Term) : Weight :=
  ⟨t.name, t.negative, ((t.factor.bind numeral?).getD 1).num⟩

/-- A limit in its text. -/
def Limit.text (l : Limit) : String := String.ofList (spaced l.words).tail

/-- Whether the sum of a row ends in a slack variable. -/
def Row.hasSlack (r : Row) : Bool := r.terms.getLast?.any fun t => t.name.toList.head? = some '~'

/-- What is shown of the bounds of a row that has no slack variable. -/
def Row.demand (r : Row) : Demand :=
  match r.comparison with
  | .atLeast => .atLeast r.limit.text
  | .atMost => .atMost r.limit.text
  | .equals => .equals r.limit.text

/-- The rows with what is shown of their bounds; each slack variable takes the next range. -/
def printedRows : List Row → List Range → List PrintedRow
  | [], _ => []
  | r :: rs, ranges =>
    if r.hasSlack then
      match ranges with
      | [] => []
      | range :: ranges =>
        ⟨r.name, r.terms.dropLast.map Term.weight, .within range.lower.text range.upper.text⟩
          :: printedRows rs ranges
    else ⟨r.name, r.terms.map Term.weight, r.demand⟩ :: printedRows rs ranges

lemma printedRows_cons_of_slack {r : Row} (h : r.hasSlack = true) (rs : List Row) (range : Range)
    (ranges : List Range) :
    printedRows (r :: rs) (range :: ranges)
      = ⟨r.name, r.terms.dropLast.map Term.weight, .within range.lower.text range.upper.text⟩
        :: printedRows rs ranges := by
  simp [printedRows, h]

lemma printedRows_cons {r : Row} (h : r.hasSlack = false) (rs : List Row) (ranges : List Range) :
    printedRows (r :: rs) ranges
      = ⟨r.name, r.terms.map Term.weight, r.demand⟩ :: printedRows rs ranges := by
  cases ranges <;> simp [printedRows, h]

/-- What is shown of a range of a column. -/
def Range.printed (r : Range) : PrintedColumn := ⟨r.name, r.lower.text, r.upper.text⟩

/-- What a reading shows. The ranges of the columns are the last ones. -/
def printed (r : Reading) : PrintedProblem where
  name := r.title
  direction := r.direction
  columns := (r.ranges.drop (r.ranges.length - r.generals.length)).map Range.printed
  binaries := r.binaries
  objective := r.objective.map Term.weight
  rows := printedRows r.rows r.ranges

end Reading

/-! ### Terms -/

/-- A coefficient shows its weight by its term, which is missing only for zero. -/
lemma weight_termOf? (column : String) {value : Binary64} (hvalue : value.isNan = false) :
    (termOf? column value).map (fun t => t.reading.weight)
      = if value.equals .zero then none
        else some ⟨column, value.less .zero, value.abs.truncateWithin 0 greatestMagnitude⟩ := by
  rw [termOf?]
  split
  case isTrue => rfl
  case isFalse =>
      rw [Option.map_some]
      congr 1
      by_cases hone : value.abs.equals .one = true
      · -- a magnitude of one is not written, and it is its own integer part
        have htruncate : value.abs.truncateWithin 0 greatestMagnitude = 1 := by
          rw [Binary64.truncateWithin, Binary64.truncate_congr hone, Binary64.isInt_one.truncate]
          decide
        simp [Term.reading, Reading.Term.weight, hone, htruncate, hvalue]
      · simp [Term.reading, Reading.Term.weight, hone, hvalue, numeral?_integerChars]

/-- The terms of some coefficients show their weights. -/
lemma map_weight_termsOf {cs : List Coefficient} (h : ∀ c ∈ cs, c.value.isNan = false) :
    ((termsOf cs).map Term.reading).map Reading.Term.weight = weightsOf cs := by
  induction cs with
  | nil => rfl
  | cons c cs ih =>
      have hterm := weight_termOf? c.column (h c List.mem_cons_self)
      have hrest := ih fun d hd => h d (List.mem_cons_of_mem c hd)
      have hfirst : ((termOf? c.column c.value).toList.map Term.reading).map Reading.Term.weight
          = ((termOf? c.column c.value).map fun t => t.reading.weight).toList := by
        cases termOf? c.column c.value <;> rfl
      rw [termsOf_cons, List.map_append, List.map_append, hrest, hfirst, hterm, weightsOf, weightsOf,
        List.filter_cons]
      cases c.value.equals .zero <;> rfl

/-! ### Limits -/

lemma text_ofLower (b : Bounds) : ((Limit.ofLower b.min).reading true).text = b.lowerText := by
  rw [Reading.Limit.text, ← Limit.lowerChars_eq, List.tail_cons, Bounds.lowerText]

lemma text_ofUpper (b : Bounds) : ((Limit.ofUpper b.max).reading false).text = b.upperText := by
  rw [Reading.Limit.text, ← Limit.upperChars_eq, List.tail_cons, Bounds.upperText]

lemma text_literal (word : String) : (Reading.Limit.literal word).text = word := by
  simp [Reading.Limit.text, Reading.Limit.words, spaced]

/-! ### Rows -/

/-- A sum over columns does not end in a slack variable. -/
lemma hasSlack_of_columns {r : Reading.Row} (h : ∀ t ∈ r.terms, IsColumnName t.name) :
    r.hasSlack = false := by
  rw [Reading.Row.hasSlack]
  cases hlast : r.terms.getLast? with
  | none => rfl
  | some t =>
      obtain ⟨ds, -, -, hname⟩ := h t (List.mem_of_getLast? hlast)
      simp [hname]

/-- The sum of a row with a slack variable ends in it. -/
lemma hasSlack_append (name : String) (ts : List Reading.Term) (number : ℕ) (c : Reading.Comparison)
    (l : Reading.Limit) :
    (⟨name, ts ++ [⟨true, none, slackName number⟩], c, l⟩ : Reading.Row).hasSlack = true := by
  simp [Reading.Row.hasSlack, slackName_toList]

/-- **The rows get the ranges of their slack variables back**, whatever ranges follow. -/
lemma printedRows_constraintsFrom {rows : List Row}
    (hcolumns : ∀ row ∈ rows, ∀ e ∈ row.entries, IsColumnName e.column)
    (hvalues : ∀ row ∈ rows, ∀ e ∈ row.entries, e.value.isNan = false) (next start : ℕ)
    (rest : List Reading.Range) :
    Reading.printedRows ((constraintsFrom next rows).map Constraint.reading)
        ((((rows.filter Row.hasSlack).zipIdx start).map fun (row, i) =>
          (row.bounds.range (slackName (i + 1))).reading) ++ rest)
      = rows.map Row.printed := by
  induction rows generalizing next start with
  | nil => rfl
  | cons row rows ih =>
      have hrest := ih (fun other hother => hcolumns other (List.mem_cons_of_mem row hother))
        (fun other hother => hvalues other (List.mem_cons_of_mem row hother))
      have hweights := map_weight_termsOf (hvalues row List.mem_cons_self)
      have hnames : ∀ t ∈ (termsOf row.entries).map Term.reading, IsColumnName t.name := by
        intro t ht
        obtain ⟨u, hu, rfl⟩ := List.mem_map.mp ht
        obtain ⟨e, he, hterm⟩ := List.mem_filterMap.mp hu
        rw [show u.reading.name = u.column from rfl, column_of_termOf? hterm]
        exact hcolumns row List.mem_cons_self e he
      have hplain : ∀ c l, (⟨row.name, (termsOf row.entries).map Term.reading, c, l⟩ : Reading.Row).hasSlack
          = false := fun c l => hasSlack_of_columns hnames
      rw [constraintsFrom, List.map_cons, List.map_cons, Row.printed, Row.demand]
      cases hkind : row.bounds.kind with
      | free | lowerUpper =>
          have hslack : row.hasSlack = true := by simp [Row.hasSlack, hkind]
          have hreading : (⟨row.name, termsOf row.entries, row.relation next⟩ : Constraint).reading
              = ⟨row.name, (termsOf row.entries).map Term.reading ++ [⟨true, none, slackName next⟩], .equals,
                .literal "0"⟩ := by
            simp [Constraint.reading, Row.relation, hkind]
          rw [hreading, List.filter_cons_of_pos hslack, List.zipIdx_cons, List.map_cons, List.cons_append,
            if_pos hslack, Reading.printedRows_cons_of_slack (hasSlack_append _ _ _ _ _), hrest]
          simp only [List.dropLast_concat, hweights]
          rw [Bounds.reading_range, text_ofLower, text_ofUpper]
      | lower | upper | exact =>
          have hslack : ¬row.hasSlack = true := by simp [Row.hasSlack, hkind]
          rw [List.filter_cons_of_neg hslack, if_neg hslack]
          simp only [Constraint.reading, Row.relation, hkind]
          rw [Reading.printedRows_cons (hplain _ _), hrest, hweights]
          simp only [Reading.Row.demand, text_ofLower, text_ofUpper, text_literal]

/-! ### Problems -/

/-- A problem whose coefficients are all numbers. -/
structure Problem.IsNanFree (p : Problem) : Prop where
  objective : ∀ column ∈ p.columns, column.coefficient.isNan = false
  entries : ∀ row ∈ p.rows, ∀ e ∈ row.entries, e.value.isNan = false

/-- **The reading of a problem shows what is shown of the problem.** -/
lemma Problem.printed_reading {p : Problem} (hp : p.IsPlainlyNamed) (hnan : p.IsNanFree) :
    p.sections.reading.printed = p.printed := by
  have hobjective : (p.sections.objective.map Term.reading).map Reading.Term.weight
      = weightsOf p.objective := by
    rw [p.sections_objective, map_weight_termsOf (by simpa [objective] using hnan.objective)]
  have hrows : Reading.printedRows (p.sections.constraints.map Constraint.reading)
      (p.sections.ranges.map Range.reading) = p.rows.map Row.printed := by
    have hread := printedRows_constraintsFrom hp.entries hnan.entries 1 0
      ((p.columns.map fun column => column.bounds.range column.name).map Range.reading)
    rw [← hread]
    simp [sections, slackRanges, Function.comp_def]
  have hcolumns : ((p.sections.ranges.map Range.reading).drop
        ((p.sections.ranges.map Range.reading).length - p.sections.generals.length)).map Reading.Range.printed
      = p.columns.map Column.printed := by
    have hlength : (p.sections.ranges.map Range.reading).length - p.sections.generals.length
        = (slackRanges p.rows).length := by
      simp [sections]
    rw [hlength, sections]
    simp only [List.map_append]
    rw [List.drop_left' (by simp), List.map_map, List.map_map]
    refine List.map_congr_left fun column _ => ?_
    simp only [Function.comp_apply, Bounds.range, Range.reading, Reading.Range.printed, text_ofLower,
      text_ofUpper]
    rfl
  rw [Reading.printed, Problem.printed]
  simp only [Document.reading, hobjective, hrows, hcolumns]
  rfl

/-- **The LP text identifies the problem it was written from**: problems with one text, behind whatever indents,
show the same. -/
theorem Problem.printed_eq_of_lpText_eq {p q : Problem} (hp : p.IsPlainlyNamed) (hq : q.IsPlainlyNamed)
    (hpn : p.IsNanFree) (hqn : q.IsNanFree) {width width' : ℕ} {text : String}
    (hptext : (p.lpText width).value = .ok text) (hqtext : (q.lpText width').value = .ok text) :
    p.printed = q.printed := by
  have hreading : p.sections.reading = q.sections.reading :=
    Option.some.inj ((ofText?_lpText hp hptext).symm.trans (ofText?_lpText hq hqtext))
  rw [← printed_reading hp hpn, hreading, printed_reading hq hqn]

lemma isNanFree_bakery {price : Binary64} (h : price.isNan = false) : (bakery price).IsNanFree where
  objective := by
    intro column hcolumn
    simp only [bakery, List.mem_cons, List.not_mem_nil, or_false] at hcolumn
    rcases hcolumn with rfl | rfl | rfl
    · exact h
    · decide +kernel
    · decide +kernel
  entries := by
    show ∀ row ∈ (bakery .zero).rows, ∀ e ∈ row.entries, e.value.isNan = false
    decide +kernel

/-- A price of `3.9` is cut to `3`, so the text does not tell the two prices apart, and neither does what is shown. -/
theorem Problem.printed_bakery_of_cut_price :
    bakery (.ofInt 3) ≠ bakery (Decimal.toBinary64 false ⟨39, -1⟩)
      ∧ (bakery (.ofInt 3)).printed = (bakery (Decimal.toBinary64 false ⟨39, -1⟩)).printed := by
  have htext : ((bakery (.ofInt 3)).lpText 2).value = .ok ((bakery (.ofInt 3)).sections.text 2) := by decide +kernel
  have hcut : ((bakery (Decimal.toBinary64 false ⟨39, -1⟩)).lpText 2).value
      = .ok ((bakery (.ofInt 3)).sections.text 2) := by decide +kernel
  refine ⟨by decide +kernel, ?_⟩
  exact printed_eq_of_lpText_eq (isPlainlyNamed_bakery _) (isPlainlyNamed_bakery _)
    (isNanFree_bakery (by decide +kernel)) (isNanFree_bakery (by decide +kernel)) htext hcut

end LinearProgram
