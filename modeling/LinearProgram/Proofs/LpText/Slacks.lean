import LinearProgram.Proofs.LpText.Meaning
import LinearProgram.Proofs.LpText.Sections
import LinearProgram.Proofs.Problem.RowNames

/-!
Slack variables in the two sections of a text that speak of them.

A row with free or two-sided bounds ends with a slack variable, and its bounds stand in another section, on the line of
that variable. The two sections number the slack variables on their own: one counts while it writes rows, the other
lists the rows that have one. Both numbers are the number of such rows up to the row, so they agree.

* `introducedBy`, `boundedIn`: the slack variables in a row and in a line of bounds.
* `introducedBy_lines`, `boundedIn_rangeChars`: **which ones these are.**
* `slackNumber`: the number of the slack variable of a row; `getElem?_constraintsFrom`, `getElem?_slackRows`: **both
  sections use it.**
* `Problem.lpText_slacks`: **slack variables pair up across the sections.**
-/

namespace LinearProgram

/-! ### Slack variables among the words -/

/-- The slack variables among some words: those that begin with a tilde. -/
def slackWords (ws : List (List Char)) : List (List Char) := ws.filter fun w => w.head? = some '~'

/-- The slack variables that a row introduces: those behind its label. -/
def introducedBy (row : List (List Char)) : List (List Char) := slackWords (row.flatMap fieldsOf).tail

/-- The slack variables that a line gives bounds to. -/
def boundedIn (l : List Char) : List (List Char) := slackWords (fieldsOf l)

lemma slackWords_append (ws vs : List (List Char)) : slackWords (ws ++ vs) = slackWords ws ++ slackWords vs :=
  List.filter_append _ _

lemma slackWords_eq_nil {ws : List String} (h : ∀ w ∈ ws, w.toList.head? ≠ some '~') :
    slackWords (ws.map String.toList) = [] := by
  rw [slackWords, List.filter_eq_nil_iff]
  intro w hw
  obtain ⟨v, hv, rfl⟩ := List.mem_map.mp hw
  simpa using h v hv

lemma IsColumnName.head?_ne {name : String} (h : IsColumnName name) : name.toList.head? ≠ some '~' := by
  obtain ⟨ds, -, -, hname⟩ := h
  rw [hname, List.head?_cons]
  decide

/-- A numeral does not begin with a tilde. -/
lemma head?_ne_of_isNumeral {w : String} (h : isNumeral w = true) : w.toList.head? ≠ some '~' := by
  intro hhead
  obtain ⟨s, hs⟩ := List.head?_eq_some_iff.mp hhead
  rw [← String.ofList_toList (s := w), hs, isNumeral, numeral?_of_ne_minus (by decide), Option.isSome_map] at h
  simp [Decimal.read?, isDigit] at h

lemma head?_ne_of_mem_limit {negative : Bool} {l : Limit} {w : String} (h : w ∈ (l.reading negative).words) :
    w.toList.head? ≠ some '~' := by
  cases l with
  | none =>
      rcases List.mem_cons.mp h with rfl | h
      · cases negative <;> decide
      · rw [List.mem_singleton.mp h]
        decide
  | whole r =>
      rw [List.mem_singleton.mp h]
      exact head?_ne_of_isNumeral (isNumeral_integerChars _)

lemma head?_ne_of_mem_term {t : Term} (ht : t.column.toList.head? ≠ some '~') {w : String} (h : w ∈ t.reading.words) :
    w.toList.head? ≠ some '~' := by
  rcases List.mem_cons.mp h with rfl | h
  · cases t.reading.negative <;> decide
  · rcases List.mem_append.mp h with h | h
    · obtain ⟨r, -, rfl⟩ : ∃ r, t.factor = some r ∧ String.ofList (integerChars r.written) = w := by
        simpa [Term.reading] using h
      exact head?_ne_of_isNumeral (isNumeral_integerChars _)
    · rw [List.mem_singleton.mp h]
      exact ht

/-- The number of the slack variable of a relation, if it has one. -/
def Relation.slack? : Relation → Option ℕ
  | slack number => some number
  | _ => none

/-- What stands behind a sum names the slack variable of the relation and no other. -/
lemma slackWords_relation {r : Relation} (hvalue : ∀ v, r = .equals v → v.isFinite = true) :
    slackWords (r.words.map String.toList) = r.slack?.toList.map fun number => (slackName number).toList := by
  cases r with
  | slack number =>
      rw [Relation.words, Relation.slack?, slackWords]
      simp [slackName_toList]
  | atLeast limit | atMost limit =>
      refine slackWords_eq_nil fun w hw => ?_
      rcases List.mem_cons.mp hw with rfl | hw
      · decide
      · exact head?_ne_of_mem_limit hw
  | equals value =>
      refine slackWords_eq_nil fun w hw => ?_
      rcases List.mem_cons.mp hw with rfl | hw
      · decide
      · rw [List.mem_singleton.mp hw]
        exact head?_ne_of_isNumeral (isNumeral_text (hvalue value rfl))

/-- **A constraint introduces the slack variable of its relation**, and no other. -/
lemma introducedBy_lines {c : Constraint} (hname : ∀ x ∈ c.name.toList, isBlank x = false)
    (hterms : ∀ t ∈ c.terms, IsWord t.column.toList) (htilde : ∀ t ∈ c.terms, t.column.toList.head? ≠ some '~')
    (hvalue : ∀ v, c.relation = .equals v → v.isFinite = true) (width : ℕ) :
    introducedBy (c.lines width) = c.relation.slack?.toList.map fun number => (slackName number).toList := by
  have hsum : slackWords ((c.terms.flatMap fun t => t.reading.words).map String.toList) = [] := by
    refine slackWords_eq_nil fun w hw => ?_
    obtain ⟨t, ht, hw⟩ := List.mem_flatMap.mp hw
    exact head?_ne_of_mem_term (htilde t ht) hw
  rw [introducedBy, Constraint.flatMap_fieldsOf_lines hname hterms, List.tail_cons, List.map_append, slackWords_append,
    slackWords_relation hvalue, hsum, List.nil_append]

/-- A range gives bounds to its own variable at most. -/
lemma boundedIn_rangeChars {r : Range} (hr : IsWord r.name.toList) (width : ℕ) :
    boundedIn (List.replicate width ' ' ++ ' ' :: rangeChars r) = slackWords [r.name.toList] := by
  have hlimit : ∀ negative (l : Limit), slackWords ((l.reading negative).words.map String.toList) = [] :=
    fun negative l => slackWords_eq_nil fun w hw => head?_ne_of_mem_limit hw
  have hto : slackWords ["<=".toList] = [] := rfl
  have hwords : r.reading.words.map String.toList = (r.lower.reading true).words.map String.toList
      ++ (["<=".toList] ++ ([r.name.toList] ++ (["<=".toList] ++ (r.upper.reading false).words.map String.toList))) := by
    rw [Reading.Range.words, List.map_append]
    rfl
  rw [boundedIn, fieldsOf_replicate_append rfl, fieldsOf_range hr, hwords]
  simp only [slackWords_append, hlimit, hto, List.nil_append, List.append_nil]

/-- The line of the bounds of a variable. -/
def boundsLine (width : ℕ) (b : Bounds) (name : String) : List Char :=
  List.replicate width ' ' ++ ' ' :: ((Limit.ofLower b.min).lowerChars ++ " <= ".toList ++ name.toList
    ++ " <= ".toList ++ (Limit.ofUpper b.max).upperChars)

lemma boundsLine_eq (width : ℕ) (b : Bounds) (name : String) :
    boundsLine width b name = List.replicate width ' ' ++ ' ' :: rangeChars (b.range name) := by
  rw [boundsLine, rangeChars, Bounds.range]

lemma boundedIn_boundsLine_slackName (width : ℕ) (b : Bounds) (number : ℕ) :
    boundedIn (boundsLine width b (slackName number)) = [(slackName number).toList] := by
  have hword : IsWord (b.range (slackName number)).name.toList := isWord_slackName number
  rw [boundsLine_eq, boundedIn_rangeChars hword, Bounds.range]
  exact List.filter_cons_of_pos (by simp [slackName_toList])

lemma boundedIn_boundsLine_columnName (width : ℕ) (b : Bounds) {name : String} (h : IsColumnName name) :
    boundedIn (boundsLine width b name) = [] := by
  have hword : IsWord (b.range name).name.toList := h.isVariable.word
  rw [boundsLine_eq, boundedIn_rangeChars hword, Bounds.range]
  exact List.filter_cons_of_neg (by simpa using h.head?_ne)

/-! ### The numbers of slack variables -/

/-- The number of the slack variable of the row at a place, if the row has one: as many rows have one up to there. -/
def slackNumber (rows : List Row) (i : ℕ) : ℕ := (slackRows (rows.take (i + 1))).length

lemma slackRows_append (rows others : List Row) : slackRows (rows ++ others) = slackRows rows ++ slackRows others :=
  List.filter_append _ _

section Rows

variable {rows : List Row} {i : ℕ} {row : Row}

lemma slackNumber_eq (h : rows[i]? = some row) (hslack : row.hasSlack = true) :
    slackNumber rows i = (slackRows (rows.take i)).length + 1 := by
  have hone : slackRows [row] = [row] := List.filter_cons_of_pos hslack
  rw [slackNumber, List.take_add_one, h, slackRows_append, Option.toList_some, hone, List.length_append,
    List.length_singleton]

/-- **The row of a number is the one that has the slack variable of this number.** -/
lemma getElem?_slackRows (h : rows[i]? = some row) (hslack : row.hasSlack = true) :
    (slackRows rows)[slackNumber rows i - 1]? = some row := by
  obtain ⟨hi, hget⟩ := List.getElem?_eq_some_iff.mp h
  have hsplit : rows = rows.take i ++ row :: rows.drop (i + 1) := by
    rw [← hget, List.cons_getElem_drop_succ, List.take_append_drop]
  have hfirst : slackRows (row :: rows.drop (i + 1)) = row :: slackRows (rows.drop (i + 1)) :=
    List.filter_cons_of_pos hslack
  have hwhole : slackRows rows = slackRows (rows.take i) ++ row :: slackRows (rows.drop (i + 1)) := by
    rw [← hfirst, ← slackRows_append, ← hsplit]
  rw [hwhole, slackNumber_eq h hslack, Nat.add_sub_cancel, List.getElem?_append_right le_rfl, Nat.sub_self,
    List.getElem?_cons_zero]

/-- **The constraint of a row has the number that the rows before it leave.** -/
lemma getElem?_constraintsFrom (rows : List Row) (next i : ℕ) :
    (constraintsFrom next rows)[i]? = rows[i]?.map fun row =>
      ⟨row.name, termsOf row.entries, row.relation (next + (slackRows (rows.take i)).length)⟩ := by
  induction rows generalizing next i with
  | nil => rfl
  | cons first rows ih =>
      rw [constraintsFrom]
      cases i with
      | zero => rfl
      | succ i =>
          rw [List.getElem?_cons_succ, List.getElem?_cons_succ, ih, List.take_succ_cons]
          by_cases hfirst : first.hasSlack = true
          · rw [if_pos hfirst, slackRows, slackRows, List.filter_cons_of_pos hfirst, List.length_cons,
              Nat.add_assoc, Nat.add_comm 1]
          · rw [if_neg hfirst, slackRows, slackRows, List.filter_cons_of_neg hfirst]

/-- A row has a slack variable or none, whatever the next number is. -/
lemma Row.slack?_relation (row : Row) (number : ℕ) :
    (row.relation number).slack? = if row.hasSlack then some number else none := by
  rw [relation, hasSlack]
  cases row.bounds.kind <;> rfl

/-- The rows that have one are those with free or two-sided bounds. -/
lemma Row.hasSlack_iff : row.hasSlack = true ↔ row.bounds.kind = .free ∨ row.bounds.kind = .lowerUpper := by
  rw [hasSlack, Bool.or_eq_true, decide_eq_true_eq, decide_eq_true_eq]

lemma Row.relation_of_hasSlack (h : row.hasSlack = true) (number : ℕ) : row.relation number = .slack number := by
  rcases hasSlack_iff.mp h with h | h <;> rw [relation, h]

/-- Constraints introduce slack variables one after the other. -/
lemma slack?_constraintsFrom (rows : List Row) (next : ℕ) :
    (constraintsFrom next rows).flatMap (fun c => c.relation.slack?.toList)
      = List.range' next (slackRows rows).length := by
  induction rows generalizing next with
  | nil => rfl
  | cons row rows ih =>
      rw [constraintsFrom, List.flatMap_cons, ih, Row.slack?_relation, slackRows, slackRows]
      by_cases hrow : row.hasSlack = true
      · rw [if_pos hrow, if_pos hrow, List.filter_cons_of_pos hrow, List.length_cons, List.range'_succ]
        rfl
      · rw [if_neg hrow, if_neg hrow, List.filter_cons_of_neg hrow]
        rfl

end Rows

/-! ### The text of a problem -/

/-- The rows in a text. -/
def rowsOfText (width : ℕ) (text : String) : List (List (List Char)) :=
  rowsIn (sectionLines (List.replicate width ' ' ++ "Subject To".toList) text.toList)

/-- The lines of bounds in a text. -/
def boundsOfText (width : ℕ) (text : String) : List (List Char) :=
  sectionLines (List.replicate width ' ' ++ "Bounds".toList) text.toList

namespace Problem

/-- Names that can be told from the blanks and breaks around them: columns have column names, and so have those that
rows speak of, and the names of rows hold no blank. The title may be anything. -/
structure HasSolidNames (p : Problem) : Prop where
  columns : ∀ column ∈ p.columns, IsColumnName column.name
  entries : ∀ row ∈ p.rows, ∀ e ∈ row.entries, IsColumnName e.column
  rows : ∀ row ∈ p.rows, ∀ c ∈ row.name.toList, isBlank c = false

section Sections

variable {p : Problem} (hp : p.HasSolidNames) (width : ℕ)

include hp

lemma HasSolidNames.sections : p.sections.HasSolidNames where
  rows := by
    intro c hc
    obtain ⟨row, hrow, number, rfl, -⟩ := mem_constraintsFrom hc
    exact hp.rows row hrow
  terms := by
    intro c hc t ht
    obtain ⟨row, hrow, e, he, heq⟩ := exists_entry_of_mem_terms hc ht
    rw [heq]
    exact (hp.entries row hrow e he).isVariable.word
  ranges := by
    intro r hr
    rcases List.mem_append.mp hr with hr | hr
    · obtain ⟨⟨row, i⟩, -, rfl⟩ := List.mem_map.mp hr
      exact isWord_slackName (i + 1)
    · obtain ⟨column, hcolumn, rfl⟩ := List.mem_map.mp hr
      exact (hp.columns column hcolumn).isVariable.word
  generals := by
    intro name hname
    obtain ⟨column, hcolumn, rfl⟩ := List.mem_map.mp hname
    exact (hp.columns column hcolumn).isVariable.word
  binaries := by
    intro name hname
    obtain ⟨column, hcolumn, rfl⟩ := List.mem_map.mp hname
    exact (hp.columns column (List.mem_filter.mp hcolumn).1).isVariable.word

/-- The rows of the text are those of the problem. -/
lemma rowsOfText_eq :
    rowsOfText width (p.sections.text width) = p.sections.constraints.map fun c => c.lines width := by
  rw [rowsOfText, Document.text_toList, Document.rowsIn_sectionLines hp.sections]

/-- **The lines of bounds are those of the slack variables, and then those of the columns.** -/
lemma boundsOfText_eq : boundsOfText width (p.sections.text width)
    = ((slackRows p.rows).zipIdx 1).map (fun e => boundsLine width e.1.bounds (slackName e.2))
      ++ p.columns.map fun column => boundsLine width column.bounds column.name := by
  have hranges : p.sections.ranges
      = slackRanges p.rows ++ p.columns.map fun column => column.bounds.range column.name := rfl
  rw [boundsOfText, Document.text_toList, Document.sectionLines_ranges hp.sections, hranges,
    List.map_append, slackRanges, List.map_map, List.map_map, List.zipIdx_succ, List.map_map, slackRows]
  simp only [boundsLine_eq, Function.comp_def]

/-- The slack variables that are bounded, in order. -/
lemma flatMap_boundedIn_boundsOfText : (boundsOfText width (p.sections.text width)).flatMap boundedIn
    = (List.range' 1 (slackRows p.rows).length).map fun number => (slackName number).toList := by
  have hcolumns : (p.columns.flatMap fun column => boundedIn (boundsLine width column.bounds column.name)) = [] :=
    List.flatMap_eq_nil_iff.mpr fun column hcolumn =>
      boundedIn_boundsLine_columnName width column.bounds (hp.columns column hcolumn)
  rw [boundsOfText_eq hp, List.flatMap_append, List.flatMap_map, List.flatMap_map, hcolumns, List.append_nil]
  simp only [boundedIn_boundsLine_slackName]
  rw [← List.zipIdx_map_snd, List.map_map, ← List.map_eq_flatMap]
  rfl

variable (hfault : p.writabilityFault? = none)

include hfault

/-- A row introduces the slack variable of its relation, and no other. -/
lemma introducedBy_constraint {c : Constraint} (hc : c ∈ p.sections.constraints) :
    introducedBy (c.lines width) = c.relation.slack?.toList.map fun number => (slackName number).toList := by
  have hsolid := hp.sections
  refine introducedBy_lines (hsolid.rows c hc) (hsolid.terms c hc) (fun t ht => ?_)
    (fun v hv => isFinite_of_relation_eq_equals hfault hc hv) width
  obtain ⟨row, hrow, e, he, heq⟩ := exists_entry_of_mem_terms hc ht
  rw [heq]
  exact (hp.entries row hrow e he).head?_ne

/-- The slack variables that are introduced, in order. -/
lemma flatMap_introducedBy_rowsOfText : (rowsOfText width (p.sections.text width)).flatMap introducedBy
    = (List.range' 1 (slackRows p.rows).length).map fun number => (slackName number).toList := by
  have hone : ∀ c ∈ p.sections.constraints, introducedBy (c.lines width)
      = c.relation.slack?.toList.map fun number => (slackName number).toList :=
    fun c hc => introducedBy_constraint hp width hfault hc
  rw [rowsOfText_eq hp, List.flatMap_map, List.flatMap_congr hone, ← List.map_flatMap]
  exact congrArg _ (slack?_constraintsFrom p.rows 1)

end Sections

/-- Every row has its constraint at its place, with the number that the rows before it leave. -/
lemma exists_constraint_of_row {p : Problem} {i : ℕ} {row : Row} (h : p.rows[i]? = some row) :
    ∃ c, p.sections.constraints[i]? = some c ∧ c.name = row.name
      ∧ c.relation = row.relation ((slackRows (p.rows.take i)).length + 1) := by
  refine ⟨_, (getElem?_constraintsFrom p.rows 1 i).trans (congrArg _ h), rfl, ?_⟩
  rw [Nat.add_comm]

/-- **The line of the number of a row gives the bounds of the row to its slack variable.** -/
lemma getElem?_boundsOfText {p : Problem} (hp : p.HasSolidNames) (width : ℕ) {i : ℕ} {row : Row}
    (h : p.rows[i]? = some row) (hslack : row.hasSlack = true) :
    (boundsOfText width (p.sections.text width))[slackNumber p.rows i - 1]?
      = some (boundsLine width row.bounds (slackName (slackNumber p.rows i))) := by
  have hentry : ((slackRows p.rows).zipIdx 1)[slackNumber p.rows i - 1]? = some (row, slackNumber p.rows i) := by
    rw [List.getElem?_zipIdx, getElem?_slackRows h hslack, slackNumber_eq h hslack, Nat.add_sub_cancel, Nat.add_comm]
    rfl
  obtain ⟨hplace, -⟩ := List.getElem?_eq_some_iff.mp hentry
  rw [boundsOfText_eq hp, List.getElem?_append_left (by rwa [List.length_map]), List.getElem?_map, hentry]
  rfl

/-- **Slack variables pair up across the sections.** In the text of a problem every row begins with its label. A row
with free or two-sided bounds ends with the slack variable of its number and introduces no other, and the line of this
number gives it the bounds of the row; any other row introduces none. The section of bounds holds one line for each
slack variable, in order, and then one for each column. So the slack variables that are introduced are those that are
bounded, each of them once. -/
theorem lpText_slacks {p : Problem} (hp : p.HasSolidNames) {width : ℕ} {text : String}
    (h : (p.lpText width).value = .ok text) :
    (rowsOfText width text).length = p.rows.length
      ∧ (∀ i row, p.rows[i]? = some row → ∃ lines, (rowsOfText width text)[i]? = some lines
        ∧ (lines.flatMap fieldsOf).head? = some (row.name ++ ":").toList
        ∧ (row.bounds.kind ≠ .free → row.bounds.kind ≠ .lowerUpper → introducedBy lines = [])
        ∧ (row.bounds.kind = .free ∨ row.bounds.kind = .lowerUpper →
          (∃ start, lines.getLast?
            = some (start ++ " - ".toList ++ (slackName (slackNumber p.rows i)).toList ++ " = 0".toList))
          ∧ introducedBy lines = [(slackName (slackNumber p.rows i)).toList]
          ∧ (boundsOfText width text)[slackNumber p.rows i - 1]?
            = some (boundsLine width row.bounds (slackName (slackNumber p.rows i)))))
      ∧ boundsOfText width text
        = ((slackRows p.rows).zipIdx 1).map (fun e => boundsLine width e.1.bounds (slackName e.2))
          ++ p.columns.map (fun column => boundsLine width column.bounds column.name)
      ∧ (rowsOfText width text).flatMap introducedBy
        = (List.range' 1 (slackRows p.rows).length).map (fun number => (slackName number).toList)
      ∧ (boundsOfText width text).flatMap boundedIn
        = (List.range' 1 (slackRows p.rows).length).map (fun number => (slackName number).toList)
      ∧ ((boundsOfText width text).flatMap boundedIn).Nodup := by
  obtain ⟨hfault, rfl⟩ := lpText_eq_ok h
  have hbounded := flatMap_boundedIn_boundsOfText hp width
  refine ⟨?_, ?_, boundsOfText_eq hp width, flatMap_introducedBy_rowsOfText hp width hfault, hbounded, ?_⟩
  · have hnames := congrArg List.length (map_name_constraintsFrom p.rows 1)
    rw [List.length_map, List.length_map] at hnames
    rw [rowsOfText_eq hp, List.length_map]
    exact hnames
  · intro i row hrow
    obtain ⟨c, hplace, hname, hrelation⟩ := exists_constraint_of_row hrow
    have hmem := List.mem_of_getElem? hplace
    have hslack := introducedBy_constraint hp width hfault hmem
    refine ⟨c.lines width, ?_, ?_, fun hfree hboth => ?_, fun hkind => ?_⟩
    · rw [rowsOfText_eq hp, List.getElem?_map, hplace]
      rfl
    · rw [Constraint.flatMap_fieldsOf_lines (hp.sections.rows c hmem) (hp.sections.terms c hmem), hname]
      rfl
    · have hnone : ¬row.hasSlack = true := fun hsome => (Row.hasSlack_iff.mp hsome).elim hfree hboth
      rw [hslack, hrelation, Row.slack?_relation, if_neg hnone]
      rfl
    · have hsome := Row.hasSlack_iff.mpr hkind
      rw [Row.relation_of_hasSlack hsome, ← slackNumber_eq hrow hsome] at hrelation
      refine ⟨?_, ?_, getElem?_boundsOfText hp width hrow hsome⟩
      · obtain ⟨start, hlast⟩ := c.exists_getLast?_lines width
        refine ⟨start, ?_⟩
        rw [hlast, hrelation, Relation.chars]
        simp only [List.append_assoc]
      · rw [hslack, hrelation]
        rfl
  · rw [hbounded]
    exact List.Nodup.map (fun _ _ heq => slackName_injective (String.toList_injective heq)) List.nodup_range'

/-- A problem with rows of all kinds, some of which have ends that their kind does not ask for, one of which has no
name, and one of which is broken into lines. Its title looks like a section. -/
def mixed : Problem where
  name := "mixed\n Subject To\n  row: - ~r_9 = 0"
  direction := .minimize
  columns := [⟨columnName 0, .one, .free, .integer⟩]
  rows :=
    [⟨"", .free, List.replicate 13 (.unit (columnName 0))⟩,
     ⟨"least", .lower .one, [.unit (columnName 0)]⟩,
     ⟨"kept", ⟨.ofInt 2, .ofInt 5, .free⟩, [.unit (columnName 0)]⟩,
     ⟨"fixed", .exact .one, [.unit (columnName 0)]⟩,
     ⟨"range", .lowerUpper .zero .posInf, []⟩]

theorem lpText_slacks_mixed :
    mixed.HasSolidNames ∧ (mixed.lpText 1).value = .ok (mixed.sections.text 1)
      ∧ (rowsOfText 1 (mixed.sections.text 1)).length = 5
      ∧ (boundsOfText 1 (mixed.sections.text 1))[1]? = some "  2 <= ~r_2 <= 5".toList
      ∧ (boundsOfText 1 (mixed.sections.text 1)).flatMap boundedIn
        = ["~r_1".toList, "~r_2".toList, "~r_3".toList] := by
  have hp : mixed.HasSolidNames := by
    have hsolid : (mixed.rows.all fun row => row.name.toList.all fun c => !isBlank c) = true := by decide +kernel
    refine ⟨?_, ?_, fun row hrow c hc => ?_⟩
    · simp [mixed, isColumnName_columnName]
    · simp [mixed, isColumnName_columnName, Coefficient.unit]
    · simpa using List.all_eq_true.mp (List.all_eq_true.mp hsolid row hrow) c hc
  have hfault : mixed.writabilityFault? = none := by decide +kernel
  have htext : (mixed.lpText 1).value = .ok (mixed.sections.text 1) := by
    rw [lpText, document, hfault]
  obtain ⟨hrows, hrow, -, -, hbounded, -⟩ := lpText_slacks hp htext
  obtain ⟨lines, -, -, -, hslack⟩ := hrow 2 ⟨"kept", ⟨.ofInt 2, .ofInt 5, .free⟩, [.unit (columnName 0)]⟩ rfl
  obtain ⟨-, -, hline⟩ := hslack (.inl rfl)
  refine ⟨hp, htext, hrows, hline.trans ?_, hbounded.trans ?_⟩ <;> decide +kernel

end Problem

end LinearProgram
