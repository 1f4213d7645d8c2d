import LinearProgram.Proofs.Report.Account

/-!
What is read from a report of glpsol.

The header runs up to the line that gives the objective, and everything but the values of columns is read from it. Of
the body behind it, the lines count that are taken for columns with a star.

* `header`, `body`: the two parts of a report.
* `countIn`, `statusOf`, `objectiveOf`: what is read last in a header; `AcceptsHeader`: when that can be read.
* `inColumns`, `columns`: where columns are read, and which.
* `known`, `Accepts`: what is known behind some lines, and which lines are accepted; `line_of_accepts`,
  `accepts_of_line`: a line leads to what is known behind it exactly if it is accepted.
* `account`: the account of the reader; `of_read`: what a report that is read has said.
* `header_tells`: **the header of a report is read completely, and only the header is.**
-/

namespace LinearProgram

namespace GlpkReport

/-! ### The header -/

/-- Whether a line gives the objective, which ends the header. -/
def isObjective (fields : List String) : Bool := fields.head? = some "Objective:"

/-- The header of a report: its lines up to and including the first that gives the objective. -/
def header (lines : List (List String)) : List (List String) := upTo isObjective lines

/-- The lines behind the header. -/
def body (lines : List (List String)) : List (List String) := beyond isObjective lines

/-- The count that a header gives last under a keyword, zero if there is none. -/
def countIn (keyword : String) (header : List (List String)) : ℕ :=
  ((lastOf? keyword header).bind fun fields => count? fields[1]?).getD 0

/-- The words that name a status: those behind the keyword, without a leading `INTEGER`. -/
def statusWords (fields : List String) : List String :=
  if fields[1]? = some "INTEGER" then fields.drop 2 else fields.drop 1

/-- The words for the statuses. -/
def outcomes : List (List String × Status) :=
  [(["OPTIMAL"], .optimal), (["INFEASIBLE"], .infeasible), (["EMPTY"], .infeasible), (["UNBOUNDED"], .unbounded)]

/-- The status that a header gives last. -/
def statusOf (header : List (List String)) : Status :=
  (lastOf? "Status:" header).elim .unknown fun fields => statusIn outcomes (statusWords fields)

/-- The objective that a header gives, zero if there is none. -/
def objectiveOf (header : List (List String)) : Binary64 :=
  ((lastOf? "Objective:" header).bind fun fields => number? fields[3]?).getD .zero

/-- The table decides by the first word alone. -/
lemma statusIn_outcomes (words : List String) :
    statusIn outcomes words = match words.head? with
      | some "OPTIMAL" => .optimal
      | some "INFEASIBLE" => .infeasible
      | some "EMPTY" => .infeasible
      | some "UNBOUNDED" => .unbounded
      | _ => .unknown := by
  cases words with
  | nil => rfl
  | cons word words =>
      rw [List.head?_cons]
      split
      · rename_i h
        simp [outcomes, statusIn_cons_cons, Option.some.inj h]
      · rename_i h
        simp [outcomes, statusIn_cons_cons, Option.some.inj h]
      · rename_i h
        simp [outcomes, statusIn_cons_cons, Option.some.inj h]
      · rename_i h
        simp [outcomes, statusIn_cons_cons, Option.some.inj h]
      · rename_i hoptimal hinfeasible hempty hunbounded
        simp_all [outcomes, statusIn_cons_cons]

lemma glpkStatus_tail (fields : List String) : glpkStatus fields.tail = statusIn outcomes (statusWords fields) := by
  have hwords : (if fields.tail.head? = some "INTEGER" then fields.tail.tail else fields.tail)
      = statusWords fields := by
    rcases fields with _ | ⟨keyword, _ | ⟨word, words⟩⟩ <;> rfl
  rw [statusIn_outcomes, ← hwords]
  rfl

section Concat

variable (lines : List (List String)) (fields : List String)

lemma countIn_concat (keyword : String) :
    countIn keyword (lines ++ [fields])
      = if fields.head? = some keyword then (count? fields[1]?).getD 0 else countIn keyword lines :=
  lastGiven_concat count? 0 keyword lines fields

lemma statusOf_concat :
    statusOf (lines ++ [fields])
      = if fields.head? = some "Status:" then statusIn outcomes (statusWords fields) else statusOf lines := by
  rw [statusOf, lastOf?_concat]
  split_ifs <;> rfl

lemma objectiveOf_concat :
    objectiveOf (lines ++ [fields])
      = if fields.head? = some "Objective:" then (number? fields[3]?).getD .zero else objectiveOf lines := by
  rw [objectiveOf, lastOf?_concat]
  split_ifs <;> rfl

end Concat

/-- Whether a line of the header is accepted: the counts have to be counts, and the objective a number. -/
structure AcceptsHeader (fields : List String) : Prop where
  rows : fields.head? = some "Rows:" → (count? fields[1]?).isSome
  columns : fields.head? = some "Columns:" → (count? fields[1]?).isSome
  nonzeros : fields.head? = some "Non-zeros:" → (count? fields[1]?).isSome
  objective : fields.head? = some "Objective:" → 3 < fields.length → (number? fields[3]?).isSome

/-! ### Tables of columns -/

/-- What a line lists if a star stands behind the name in it: the name, and the field behind the star. The line has to
have at least so many fields. -/
def starred? (least : ℕ) (fields : List String) : Option (String × Option String) :=
  if least ≤ fields.length ∧ fields[2]? = some "*" then fields[1]?.map fun name => (name, fields[3]?) else none

/-- Whether a line switches between rows and columns. -/
def isSwitch (fields : List String) : Bool := fields[1]? = some "Row" ∨ fields[1]? = some "Column"

/-- Whether columns are read behind some lines. -/
def inColumns (lines : List (List String)) : Bool :=
  (lastWith? isSwitch lines).any fun fields => fields[1]? = some "Column"

lemma columnsAfter_eq (before : List (List String)) (fields : List String) :
    GlpkState.columnsAfter (inColumns before) fields = inColumns (before ++ [fields]) := by
  rw [inColumns, inColumns, lastWith?_concat, GlpkState.columnsAfter]
  split
  · rename_i h
    simp [isSwitch, h]
  · rename_i h
    simp [isSwitch, h]
  · rename_i hrow hcolumn
    have hswitch : isSwitch fields = false := by
      rw [isSwitch, decide_eq_false_iff_not, not_or]
      exact ⟨hrow, hcolumn⟩
    rw [hswitch, if_neg Bool.false_ne_true]

/-- The columns that are read. -/
def columns : Table (List String) := fun before fields =>
  if inColumns (before ++ [fields]) then starred? 5 fields else none

/-- A blank line lists no column. -/
lemma columns_nil (before : List (List String)) : columns before [] = none := by simp [columns, starred?]

/-! ### What is known -/

/-- What is known behind some lines. -/
def known (lines : List (List String)) : GlpkState where
  solution :=
    { values := (columns.listing (body lines)).values
      objective := objectiveOf (header lines)
      status := statusOf (header lines)
      rowCount := countIn "Rows:" (header lines)
      columnCount := countIn "Columns:" (header lines)
      nonzeroCount := countIn "Non-zeros:" (header lines) }
  inHeader := !lines.any isObjective
  inColumns := inColumns (body lines)

/-- Whether a line is accepted behind some others. -/
def Accepts (lines : List (List String)) (fields : List String) : Prop :=
  if lines.any isObjective then columns.Spells (body lines) fields else AcceptsHeader fields

/-- What is known behind one more line of the header. -/
lemma known_concat_of_header {lines : List (List String)} (h : lines.any isObjective = false) (fields : List String) :
    known (lines ++ [fields]) =
      { known lines with
        solution :=
          { (known lines).solution with
            objective :=
              if fields.head? = some "Objective:" then (number? fields[3]?).getD .zero
              else (known lines).solution.objective
            status :=
              if fields.head? = some "Status:" then statusIn outcomes (statusWords fields)
              else (known lines).solution.status
            rowCount :=
              if fields.head? = some "Rows:" then (count? fields[1]?).getD 0 else (known lines).solution.rowCount
            columnCount :=
              if fields.head? = some "Columns:" then (count? fields[1]?).getD 0 else (known lines).solution.columnCount
            nonzeroCount :=
              if fields.head? = some "Non-zeros:" then (count? fields[1]?).getD 0
              else (known lines).solution.nonzeroCount }
        inHeader := !isObjective fields } := by
  have hnone : ∀ l ∈ lines, isObjective l = false := by simpa using h
  obtain ⟨hup, hbeyond⟩ := upTo_concat_of_none hnone fields
  simp only [known, header, body, hup, hbeyond, upTo_of_none hnone, beyond_of_none hnone, countIn_concat,
    statusOf_concat, objectiveOf_concat, List.any_append, h, List.any_cons, List.any_nil, Bool.or_false,
    Bool.false_or]

/-- Before the objective is given, it is zero. -/
lemma objective_known {lines : List (List String)} (h : lines.any isObjective = false) :
    (known lines).solution.objective = .zero := by
  have hnone : ∀ fields ∈ lines, isObjective fields = false := by simpa using h
  have hlast : lastOf? "Objective:" lines = none := lastWith?_eq_none_iff.mpr hnone
  rw [known, header, upTo_of_none hnone, objectiveOf, hlast]
  rfl

/-- A line of the header that is accepted leads to what is known behind it. -/
lemma header_of_accepts {lines : List (List String)} (hlines : lines.any isObjective = false) {keyword : String}
    {rest : List String} (h : AcceptsHeader (keyword :: rest)) :
    (known lines).header keyword (keyword :: rest) = .ok (known (lines ++ [keyword :: rest])) := by
  have hin : (known lines).inHeader = true := by rw [known, hlines, Bool.not_false]
  rw [known_concat_of_header hlines]
  unfold GlpkState.header
  split
  · obtain ⟨n, hn⟩ := Option.isSome_iff_exists.mp (h.rows rfl)
    rw [countField_eq_ok_iff.mpr hn, hn, isObjective]
    simp [hin]
  · obtain ⟨n, hn⟩ := Option.isSome_iff_exists.mp (h.columns rfl)
    rw [countField_eq_ok_iff.mpr hn, hn, isObjective]
    simp [hin]
  · obtain ⟨n, hn⟩ := Option.isSome_iff_exists.mp (h.nonzeros rfl)
    rw [countField_eq_ok_iff.mpr hn, hn, isObjective]
    simp [hin]
  · rw [isObjective, ← glpkStatus_tail]
    simp [hin]
  · by_cases hlength : 3 < ("Objective:" :: rest).length
    · obtain ⟨x, hx⟩ := Option.isSome_iff_exists.mp (h.objective rfl hlength)
      rw [if_pos hlength, realField_eq_ok_iff.mpr hx, hx, isObjective]
      simp
    · -- A line without a number leaves the objective as it was, which is zero.
      have hzero : (number? ("Objective:" :: rest)[3]?).getD .zero = (known lines).solution.objective := by
        rw [List.getElem?_eq_none (Nat.le_of_not_lt hlength), objective_known hlines]
        rfl
      rw [if_neg hlength, hzero, isObjective]
      simp
  · rename_i hrows hcolumns hnonzeros hstatus hobjective
    rw [isObjective]
    simp [show keyword ≠ "Rows:" from hrows, show keyword ≠ "Columns:" from hcolumns,
      show keyword ≠ "Non-zeros:" from hnonzeros, show keyword ≠ "Status:" from hstatus,
      show keyword ≠ "Objective:" from hobjective]
    rw [← hin]

/-- Whatever a line of the header is read for is accepted. -/
lemma acceptsHeader_of_header {s t : GlpkState} {keyword : String} {rest : List String}
    (h : s.header keyword (keyword :: rest) = .ok t) : AcceptsHeader (keyword :: rest) where
  rows hkeyword := by
    obtain rfl := Option.some.inj hkeyword
    exact isSome_count?_of_bind h
  columns hkeyword := by
    obtain rfl := Option.some.inj hkeyword
    exact isSome_count?_of_bind h
  nonzeros hkeyword := by
    obtain rfl := Option.some.inj hkeyword
    exact isSome_count?_of_bind h
  objective hkeyword hlength := by
    obtain rfl := Option.some.inj hkeyword
    have hread : (realField ("Objective:" :: rest) 3 >>= fun x =>
        .ok { s with solution := { s.solution with objective := x }, inHeader := false }) = .ok t := by
      rw [← h]
      exact (if_pos hlength).symm
    exact isSome_number?_of_bind hread

/-- What is known behind one more line of the body. -/
lemma known_concat_of_body {lines : List (List String)} (h : lines.any isObjective = true) (fields : List String) :
    known (lines ++ [fields]) =
      { known lines with
        solution := { (known lines).solution with values := (columns.listing (body lines ++ [fields])).values }
        inColumns := inColumns (body lines ++ [fields]) } := by
  obtain ⟨hup, hbeyond⟩ := upTo_append_of_any h [fields]
  simp only [known, header, body, hup, hbeyond, List.any_append, h, Bool.true_or]

/-- A line has a star, and enough fields, exactly if it has the form that is read. -/
lemma starred?_five_eq_some_iff {fields : List String} {e : String × Option String} :
    starred? 5 fields = some e
      ↔ ∃ index value more rest, fields = index :: e.1 :: "*" :: value :: more :: rest ∧ e.2 = some value := by
  rw [starred?]
  constructor
  · intro h
    split_ifs at h with hstar
    obtain ⟨hlength, hstar⟩ := hstar
    match fields, hlength, hstar, h with
    | index :: name :: star :: value :: more :: rest, _, hstar, h =>
        obtain rfl := Option.some.inj hstar
        obtain rfl := Option.some.inj h
        exact ⟨index, value, more, rest, rfl, rfl⟩
  · obtain ⟨name, field⟩ := e
    rintro ⟨index, value, more, rest, rfl, rfl⟩
    exact if_pos ⟨by simp, rfl⟩

/-- A line of the body that is accepted leads to what is known behind it. -/
lemma body_of_spells {lines : List (List String)} (hlines : lines.any isObjective = true) {fields : List String}
    (h : columns.Spells (body lines) fields) : (known lines).body fields = .ok (known (lines ++ [fields])) := by
  have hcolumns : GlpkState.columnsAfter (known lines).inColumns fields = inColumns (body lines ++ [fields]) :=
    columnsAfter_eq (body lines) fields
  rw [known_concat_of_body hlines]
  unfold GlpkState.body
  rw [hcolumns]
  split
  · rename_i index name value more rest
    have hstar : starred? 5 (index :: name :: "*" :: value :: more :: rest) = some (name, some value) :=
      starred?_five_eq_some_iff.mpr ⟨index, value, more, rest, rfl, rfl⟩
    cases hin : inColumns (body lines ++ [index :: name :: "*" :: value :: more :: rest]) with
    | true =>
        have hlists : columns (body lines) (index :: name :: "*" :: value :: more :: rest)
            = some (name, some value) := by
          rw [columns, hin, if_pos rfl, hstar]
        obtain ⟨x, hx⟩ := Option.isSome_iff_exists.mp (h _ hlists)
        rw [if_pos rfl, realField_eq_ok_iff.mpr hx, Table.values_concat_of_some hlists hx]
        rfl
    | false =>
        have hlists : columns (body lines) (index :: name :: "*" :: value :: more :: rest) = none := by
          rw [columns, hin, if_neg Bool.false_ne_true]
        rw [if_neg Bool.false_ne_true, Table.values_concat_of_none hlists]
        rfl
  · rename_i hform
    have hlists : columns (body lines) fields = none := by
      refine Option.eq_none_iff_forall_ne_some.mpr fun e he => ?_
      obtain ⟨-, hstar⟩ := Option.ite_none_right_eq_some.mp he
      obtain ⟨index, value, more, rest, hfields, -⟩ := starred?_five_eq_some_iff.mp hstar
      exact hform _ _ _ _ _ hfields
    rw [Table.values_concat_of_none hlists]
    rfl

/-- Whatever a line of the body is read for is accepted. -/
lemma spells_of_body {lines : List (List String)} {fields : List String} {t : GlpkState}
    (h : (known lines).body fields = .ok t) : columns.Spells (body lines) fields := by
  rintro ⟨name, field⟩ hlists
  obtain ⟨hin, hstar⟩ := Option.ite_none_right_eq_some.mp hlists
  obtain ⟨index, value, more, rest, rfl, rfl⟩ := starred?_five_eq_some_iff.mp hstar
  have hread : (realField (index :: name :: "*" :: value :: more :: rest) 3 >>= fun x =>
      .ok { known lines with solution := (known lines).solution.assign name x, inColumns := true }) = .ok t := by
    rw [← h, ← hin, ← columnsAfter_eq]
    exact (if_pos ((columnsAfter_eq (body lines) _).trans hin)).symm
  exact isSome_number?_of_bind hread

/-- A blank line changes nothing. -/
lemma known_concat_nil (lines : List (List String)) : known (lines ++ [[]]) = known lines := by
  cases hlines : lines.any isObjective with
  | false =>
      rw [known_concat_of_header hlines]
      have hin : (known lines).inHeader = true := by rw [known, hlines, Bool.not_false]
      rw [show isObjective [] = false from rfl, Bool.not_false, ← hin]
      rfl
  | true =>
      rw [known_concat_of_body hlines, ← columnsAfter_eq, Table.values_concat_of_none (columns_nil (body lines))]
      rfl

/-! ### The account -/

/-- A line that is accepted leads to what is known behind it. -/
lemma line_of_accepts {lines : List (List String)} {fields : List String} (h : Accepts lines fields) :
    (known lines).line fields = .ok (known (lines ++ [fields])) := by
  cases fields with
  | nil =>
      rw [known_concat_nil]
      rfl
  | cons keyword rest =>
      rw [GlpkState.line]
      rw [Accepts] at h
      split_ifs at h with hbody
      · rw [if_neg (by simp [known, hbody]), body_of_spells hbody h]
      · rw [if_pos (by simp [known, hbody]), header_of_accepts (Bool.eq_false_iff.mpr hbody) h]

/-- Whatever a line is read for is accepted. -/
lemma accepts_of_line {lines : List (List String)} {fields : List String} {t : GlpkState}
    (h : (known lines).line fields = .ok t) : Accepts lines fields := by
  rw [Accepts]
  cases fields with
  | nil =>
      split_ifs
      · exact Table.spells_of_none (columns_nil (body lines))
      · exact ⟨nofun, nofun, nofun, nofun⟩
  | cons keyword rest =>
      rw [GlpkState.line] at h
      split_ifs with hbody
      · rw [if_neg (by simp [known, hbody])] at h
        exact spells_of_body h
      · rw [if_pos (by simp [known, hbody])] at h
        exact acceptsHeader_of_header h

/-- **What glpsol's reader knows behind some lines**: it accepts the lines of the header whose counts are counts and
whose objective is a number, and the lines of the body that list no column or spell its value. -/
def account : glpkReader.Account (List String) where
  view := fields
  known := known
  Good := Accepts
  ends _ := false
  start := rfl
  more h _ := congrArg (Except.map Progress.more) (line_of_accepts h)
  done _ hends := by cases hends
  bad {before line} h := by
    cases hline : (known before).line (fields line) with
    | error fault => exact ⟨fault, congrArg (Except.map Progress.more) hline⟩
    | ok t => exact absurd (accepts_of_line hline) h

/-- What is known in the end is a solution if the objective has been given. -/
lemma finish_known_eq_ok_iff {lines : List (List String)} {s : Solution} :
    (known lines).finish = .ok s ↔ lines.any isObjective = true ∧ s = (known lines).solution := by
  rw [GlpkState.finish, show (known lines).inHeader = !lines.any isObjective from rfl]
  cases lines.any isObjective <;> simp [eq_comm]

/-- **What a report that is read has said**: its header has an objective and its lines are accepted, the columns of its
body are spelled, and nothing else has been read. -/
lemma of_read {bytes : List UInt8} {s : Solution} (h : (glpkReader.read bytes).value = .ok s) :
    ∃ texts : List String, fileLines bytes = texts.map .text
      ∧ (texts.map fields).any isObjective = true
      ∧ (∀ l ∈ header (texts.map fields), AcceptsHeader l)
      ∧ (columns.listing (body (texts.map fields))).IsSpelled
      ∧ s = (known (texts.map fields)).solution := by
  obtain ⟨texts, htexts, hgood, hfinish⟩ := (account.read_eq_ok_iff_of_whole fun _ => rfl).mp h
  obtain ⟨hobjective, hs⟩ : (texts.map fields).any isObjective = true ∧ s = (known (texts.map fields)).solution :=
    finish_known_eq_ok_iff.mp hfinish
  refine ⟨texts, htexts, hobjective, fun l hl => ?_, ?_, hs⟩
  · obtain ⟨before, hbefore, hnone⟩ := exists_withBefore_of_mem_upTo hl
    have haccepts : Accepts before l := hgood _ hbefore
    rwa [Accepts, hnone, if_neg Bool.false_ne_true] at haccepts
  · refine columns.isSpelled_listing_iff.mpr fun ⟨before, l⟩ hl => ?_
    have haccepts : Accepts (header (texts.map fields) ++ before) l := hgood _ (append_mem_withBefore hl)
    obtain ⟨hany, hbody⟩ := beyond_upTo_append hobjective before
    rw [Accepts, header, if_pos hany, GlpkReport.body, hbody] at haccepts
    exact haccepts

/-! ### What the header tells -/

/-- A header gives a count under a keyword: its last line with the keyword does, or there is none and the count is
zero. -/
def GivesCount (keyword : String) (header : List (List String)) (n : ℕ) : Prop :=
  (lastOf? keyword header).elim (n = 0) fun fields => count? fields[1]? = some n

/-- A header tells the counts, the status and the objective of a solution. The objective stands in its last line. -/
structure Tells (header : List (List String)) (s : Solution) : Prop where
  rows : GivesCount "Rows:" header s.rowCount
  columns : GivesCount "Columns:" header s.columnCount
  nonzeros : GivesCount "Non-zeros:" header s.nonzeroCount
  status : s.status = statusOf header
  objective : ∃ fields, header.getLast? = some fields ∧ isObjective fields = true
    ∧ if fields.length < 4 then s.objective = .zero else number? fields[3]? = some s.objective

lemma givesCount_countIn {keyword : String} {header : List (List String)}
    (h : ∀ fields ∈ header, SpellsUnder count? keyword fields) : GivesCount keyword header (countIn keyword header) :=
  givesLast_lastGiven h

/-- The header of a report that is read tells what is known of it. -/
lemma tells_known {lines : List (List String)} (hobjective : lines.any isObjective = true)
    (haccepts : ∀ fields ∈ header lines, AcceptsHeader fields) : Tells (header lines) (known lines).solution where
  rows := givesCount_countIn fun fields hmem => (haccepts fields hmem).rows
  columns := givesCount_countIn fun fields hmem => (haccepts fields hmem).columns
  nonzeros := givesCount_countIn fun fields hmem => (haccepts fields hmem).nonzeros
  status := rfl
  objective := by
    obtain ⟨before, fields, hup, hlast, -⟩ := exists_upTo_eq_concat hobjective
    have hkeyword : fields.head? = some "Objective:" := of_decide_eq_true hlast
    have hgives : (known lines).solution.objective = (number? fields[3]?).getD .zero := by
      change objectiveOf (upTo isObjective lines) = _
      rw [hup, objectiveOf_concat, if_pos hkeyword]
    refine ⟨fields, by rw [header, hup, List.getLast?_concat], hlast, ?_⟩
    split_ifs with hlength
    · rw [hgives, List.getElem?_eq_none (by omega)]
      rfl
    · have hmem : fields ∈ header lines := by simp [header, hup]
      obtain ⟨x, hx⟩ := Option.isSome_iff_exists.mp ((haccepts fields hmem).objective hkeyword (by omega))
      rw [hgives, hx]
      rfl

/-- **The header of a report is read completely, and only the header is.** A text without an objective is refused for
what it says; of one that is read, the header tells the counts, the status and the objective, and no other body
changes any of them. -/
theorem header_tells (text : String) :
    ((∀ fields ∈ fieldLines text, isObjective fields = false) →
      ∃ number line reason, (glpkReader.read (Utf8.encode text)).value = .error (.parse "Glpk" number line reason))
    ∧ ∀ s, (glpkReader.read (Utf8.encode text)).value = .ok s →
      Tells (header (fieldLines text)) s
      ∧ ∀ other t, header (fieldLines other) = header (fieldLines text) →
        (glpkReader.read (Utf8.encode other)).value = .ok t →
        t.rowCount = s.rowCount ∧ t.columnCount = s.columnCount ∧ t.nonzeroCount = s.nonzeroCount
          ∧ t.status = s.status ∧ t.objective = s.objective := by
  have hread (text : String) {s : Solution} (h : (glpkReader.read (Utf8.encode text)).value = .ok s) :
      (fieldLines text).any isObjective = true ∧ (∀ fields ∈ header (fieldLines text), AcceptsHeader fields)
        ∧ s = (known (fieldLines text)).solution := by
    obtain ⟨texts, htexts, hobjective, haccepts, -, hs⟩ := of_read h
    obtain rfl := ReportReader.eq_textLines htexts
    exact ⟨hobjective, haccepts, hs⟩
  refine ⟨fun hnone => ?_, fun s hs => ?_⟩
  · refine ReportReader.exists_parse_of_texts (fileLines_encode_text text) fun s hs => ?_
    obtain ⟨fields, hmem, hobjective⟩ := List.any_eq_true.mp (hread text hs).1
    exact Bool.false_ne_true ((hnone fields hmem).symm.trans hobjective)
  · obtain ⟨hobjective, haccepts, rfl⟩ := hread text hs
    refine ⟨tells_known hobjective haccepts, fun other t hheader ht => ?_⟩
    obtain ⟨-, -, rfl⟩ := hread other ht
    simp only [known, hheader, and_self]

/-- The header of the report on a bakery. -/
def bakeryHeader : String := "Rows: 1\nStatus: INTEGER OPTIMAL\nObjective: o = 6\n"

/-- What the header of the report on a bakery tells. -/
def bakerySolution : Solution := { Solution.none with objective := .ofInt 6, status := .optimal, rowCount := 1 }

theorem header_tells_bakery :
    (∃ number line reason,
      (glpkReader.read (Utf8.encode "Rows: 1\n")).value = .error (.parse "Glpk" number line reason))
      ∧ Tells (header (fieldLines bakeryHeader)) bakerySolution
      ∧ ∃ t, (glpkReader.read (Utf8.encode (bakeryHeader ++ "Rows: 7\n"))).value = .ok t
        ∧ t.rowCount = bakerySolution.rowCount ∧ t.columnCount = bakerySolution.columnCount
        ∧ t.nonzeroCount = bakerySolution.nonzeroCount ∧ t.status = bakerySolution.status
        ∧ t.objective = bakerySolution.objective := by
  have hbakery : (glpkReader.read (Utf8.encode bakeryHeader)).value = .ok bakerySolution := by decide +kernel
  have hother : (glpkReader.read (Utf8.encode (bakeryHeader ++ "Rows: 7\n"))).value = .ok bakerySolution := by
    decide +kernel
  have hheader : header (fieldLines (bakeryHeader ++ "Rows: 7\n")) = header (fieldLines bakeryHeader) := by
    decide +kernel
  obtain ⟨htells, hsame⟩ := (header_tells bakeryHeader).2 bakerySolution hbakery
  exact ⟨(header_tells "Rows: 1\n").1 (by decide +kernel), htells, _, hother, hsame _ _ hheader hother⟩

end GlpkReport

end LinearProgram
