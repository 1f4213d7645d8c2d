import LinearProgram.Proofs.Report.Glpk

/-!
Which columns of a report of glpsol are kept.

A star behind the name marks a column whose value counts. Tables of columns and of rows have headings, but the reader
takes any line for a heading whose second field is `Row` or `Column`, and it takes a column only if something stands
behind its value, where a free column has no bound.

* `inColumnTable`, `starredColumns`: the columns with a star, by the headings of the tables.
* `IsClear`, `IsBounded`: no name looks like a heading, and every column with a star has a bound.
* `IsClear.inColumns_eq`: in a clear body, columns are read exactly in tables of columns.
* `values_of_read`: **which columns of a report are kept**: those with a star and a bound.
* `not_keepsStarred_freeColumn`: a free column is lost, and a column called `Row` is, with those behind it.
-/

namespace LinearProgram

namespace GlpkReport

/-! ### Tables and their headings -/

/-- Whether a line is the heading of a table of rows. -/
def isRowHeading (fields : List String) : Bool := fields[0]? = some "No." ∧ fields[1]? = some "Row"

/-- Whether a line is the heading of a table. -/
def isHeading (fields : List String) : Bool :=
  fields[0]? = some "No." ∧ (fields[1]? = some "Row" ∨ fields[1]? = some "Column")

/-- Whether the last heading among some lines is that of a table of columns. -/
def inColumnTable (lines : List (List String)) : Bool :=
  (lastWith? isHeading lines).any fun fields => fields[1]? = some "Column"

/-- The columns with a star, if they have at least so many fields: lines behind the heading of a table of columns and
before the next heading of one of rows. -/
def starredColumns (least : ℕ) : Table (List String) := fun before fields =>
  if inColumnTable before ∧ ¬ isRowHeading fields then starred? least fields else none

/-- Every column with a star has a bound behind its value. -/
def IsBounded (body : List (List String)) : Prop :=
  ∀ e ∈ withBefore body, inColumnTable e.1 → e.2[2]? = some "*" → e.2.length ≠ 4

/-- The body of a report tells columns from rows by its headings alone. -/
structure IsClear (body : List (List String)) : Prop where
  /-- No column is called `Row`. -/
  rows : ∀ e ∈ withBefore body, inColumnTable e.1 → e.2[1]? = some "Row" → e.2[0]? = some "No."
  /-- No row is called `Column`, and no heading has a star. -/
  columns : ∀ e ∈ withBefore body, inColumnTable e.1 = false → e.2[1]? = some "Column" →
    e.2[0]? = some "No." ∧ e.2[2]? ≠ some "*"

lemma inColumnTable_concat (lines : List (List String)) (fields : List String) :
    inColumnTable (lines ++ [fields])
      = if isHeading fields then decide (fields[1]? = some "Column") else inColumnTable lines := by
  rw [inColumnTable, lastWith?_concat]
  split_ifs <;> rfl

/-- If every column with a star has a bound, they all have enough fields. -/
lemma IsBounded.starredColumns_eq {body before : List (List String)} {fields : List String} (h : IsBounded body)
    (hmem : (before, fields) ∈ withBefore body) :
    starredColumns 5 before fields = starredColumns 4 before fields := by
  rw [starredColumns, starredColumns]
  split_ifs with hin
  · refine if_congr (and_congr_left fun hstar => ?_) rfl rfl
    have hlength : fields.length ≠ 4 := h _ hmem hin.1 hstar
    omega
  · rfl

namespace IsClear

variable {body : List (List String)}

/-- A part of a clear body from its beginning is clear. -/
lemma of_append {rest : List (List String)} (h : IsClear (body ++ rest)) : IsClear body := by
  have hmem {e : List (List String) × List String} (he : e ∈ withBefore body) : e ∈ withBefore (body ++ rest) := by
    obtain ⟨after, rfl⟩ := mem_withBefore_iff.mp he
    exact mem_withBefore_iff.mpr ⟨after ++ rest, by simp⟩
  exact ⟨fun e he => h.rows e (hmem he), fun e he => h.columns e (hmem he)⟩

/-- In a clear body, columns are read exactly in tables of columns: no line but a heading looks like one. -/
lemma inColumns_eq (h : IsClear body) : inColumns body = inColumnTable body := by
  induction body using List.reverseRecOn with
  | nil => rfl
  | append_singleton before fields ih =>
      have hmem : (before, fields) ∈ withBefore (before ++ [fields]) := mem_withBefore_iff.mpr ⟨[], rfl⟩
      have hrow := h.rows _ hmem
      have hcolumn := h.columns _ hmem
      rw [← columnsAfter_eq, ih h.of_append, inColumnTable_concat, GlpkState.columnsAfter]
      split
      · rename_i hsecond
        by_cases hfirst : fields[0]? = some "No."
        · simp [isHeading, hfirst, hsecond]
        · cases hin : inColumnTable before with
          | true => exact absurd (hrow hin hsecond) hfirst
          | false => simp [isHeading, hfirst]
      · rename_i hsecond
        by_cases hfirst : fields[0]? = some "No."
        · simp [isHeading, hfirst, hsecond]
        · cases hin : inColumnTable before with
          | true => simp [isHeading, hfirst]
          | false => exact absurd (hcolumn hin hsecond).1 hfirst
      · rename_i hrows hcolumns
        have hheading : isHeading fields = false := decide_eq_false fun h => h.2.elim hrows hcolumns
        rw [hheading, if_neg Bool.false_ne_true]

/-- In a clear body, what is read of a line is what a column with a star and a bound lists. -/
lemma columns_eq (h : IsClear body) {before : List (List String)} {fields : List String}
    (hmem : (before, fields) ∈ withBefore body) :
    GlpkReport.columns before fields = starredColumns 5 before fields := by
  have hbefore : IsClear before := by
    obtain ⟨after, rfl⟩ := mem_withBefore_iff.mp hmem
    exact h.of_append
  rw [GlpkReport.columns, starredColumns, ← columnsAfter_eq, hbefore.inColumns_eq, GlpkState.columnsAfter]
  cases hin : inColumnTable before with
  | true =>
      split
      · rename_i hsecond
        simp [isRowHeading, h.rows _ hmem hin hsecond, hsecond]
      · rename_i hsecond
        simp [isRowHeading, hsecond]
      · rename_i hrows _
        simp [isRowHeading, show fields[1]? ≠ some "Row" from hrows]
  | false =>
      split
      · simp
      · rename_i hsecond
        simp [starred?, (h.columns _ hmem hin hsecond).2]
      · simp

end IsClear

/-- **Which columns of a report are kept.** If its body is clear, these are the columns with a star and a bound, and so
all columns with a star if each has a bound: the last value of each name. In any case they are the columns that are
read. -/
theorem values_of_read {bytes : List UInt8} {s : Solution} (h : (glpkReader.read bytes).value = .ok s) :
    ∃ texts : List String, fileLines bytes = texts.map .text
      ∧ (∀ name, s.values.get? name = (columns.listing (body (texts.map fields))).last? name)
      ∧ (IsClear (body (texts.map fields)) →
        (∀ name, s.values.get? name = ((starredColumns 5).listing (body (texts.map fields))).last? name)
        ∧ (IsBounded (body (texts.map fields)) →
          ∀ name, s.values.get? name = ((starredColumns 4).listing (body (texts.map fields))).last? name)) := by
  obtain ⟨texts, htexts, -, -, hspelled, rfl⟩ := of_read h
  have hvalues (name : String) : (known (texts.map fields)).solution.values.get? name
      = (columns.listing (body (texts.map fields))).last? name := Listing.get?_values hspelled name
  refine ⟨texts, htexts, hvalues, fun hclear => ?_⟩
  have hfive : columns.listing (body (texts.map fields)) = (starredColumns 5).listing (body (texts.map fields)) :=
    Table.listing_congr fun e he => hclear.columns_eq he
  refine ⟨fun name => hfive ▸ hvalues name, fun hbounded name => ?_⟩
  have hfour : (starredColumns 5).listing (body (texts.map fields))
      = (starredColumns 4).listing (body (texts.map fields)) :=
    Table.listing_congr fun e he => hbounded.starredColumns_eq he
  exact hfour ▸ hfive ▸ hvalues name

/-- A report with a table of columns, given the lines in it. -/
def tableOf (lines : String) : String := "Objective:\nNo. Column\n" ++ lines

/-- A report in which the one column has a bound. -/
def boundedColumn : String := tableOf "1 x * 2 0\n"

theorem values_of_read_boundedColumn :
    (glpkReader.read (Utf8.encode boundedColumn)).value
        = .ok { Solution.none with values := .put .empty "x" (.ofInt 2) }
      ∧ IsClear (body (fieldLines boundedColumn)) ∧ IsBounded (body (fieldLines boundedColumn))
      ∧ ∀ name, (Assignment.put .empty "x" (.ofInt 2)).get? name
        = ((starredColumns 4).listing (body (fieldLines boundedColumn))).last? name := by
  have hread : (glpkReader.read (Utf8.encode boundedColumn)).value
      = .ok { Solution.none with values := .put .empty "x" (.ofInt 2) } := by
    decide +kernel
  have hclear : IsClear (body (fieldLines boundedColumn)) := ⟨by decide +kernel, by decide +kernel⟩
  have hbounded : IsBounded (body (fieldLines boundedColumn)) := by
    rw [IsBounded]
    decide +kernel
  refine ⟨hread, hclear, hbounded, ?_⟩
  obtain ⟨texts, htexts, -, hvalues⟩ := values_of_read hread
  rw [ReportReader.eq_textLines htexts] at hvalues
  exact (hvalues hclear).2 hbounded

/-- No column with a star is lost from a report: if it is read, the values are those that the columns with a star list
last. -/
def KeepsStarred (text : String) : Prop :=
  ∀ s, (glpkReader.read (Utf8.encode text)).value = .ok s →
    ∀ name, s.values.get? name = ((starredColumns 4).listing (body (fieldLines text))).last? name

/-- A report in which the one column is free, so that no bound stands behind its value. -/
def freeColumn : String := tableOf "1 x * 2\n"

/-- A report in which the first column is called `Row`. -/
def columnRow : String := tableOf "1 Row * 2 0\n2 x * 4 0\n"

/-- A free column is lost, and so is a column behind one that is called `Row`. -/
theorem not_keepsStarred_freeColumn : ¬ KeepsStarred freeColumn ∧ ¬ KeepsStarred columnRow := by
  constructor
  · intro h
    have hread : (glpkReader.read (Utf8.encode freeColumn)).value = .ok Solution.none := by decide +kernel
    have hvalue : ((starredColumns 4).listing (body (fieldLines freeColumn))).last? "x" = some (.ofInt 2) := by
      decide +kernel
    have hlost := (h _ hread "x").trans hvalue
    cases hlost
  · intro h
    have hread : (glpkReader.read (Utf8.encode columnRow)).value = .ok Solution.none := by decide +kernel
    have hvalue : ((starredColumns 4).listing (body (fieldLines columnRow))).last? "x" = some (.ofInt 4) := by
      decide +kernel
    have hlost := (h _ hread "x").trans hvalue
    cases hlost

end GlpkReport

end LinearProgram
