import LinearProgram.Proofs.Report.Account
import LinearProgram.Report.Canonical

/-!
What is accepted as a kept report, and what is read from it.

The first line that begins with `Column` is the heading of the table. Before it, keywords give the counts, the status
and the objective. Behind it, every line with a field is a name and its value, also if the name is one of the keywords.

* `Status.ofName?_eq_some_iff`: a status is known from its name, letter case aside.
* `header`, `table`, `IsDivided`: the two parts of a report.
* `AcceptsHeader`: which lines of the header are accepted; `values`: what the lines of the table list.
* `known`, `Accepts`: what is known behind some lines, and which lines are accepted; `line_eq_ok_iff`: a line leads to
  what is known behind it exactly if it is accepted.
* `account`: the account of the reader; `read_eq_ok_iff`: which texts are accepted.
* `read_divided`: **a text is accepted exactly if its header and its table are**, and what is read is what these say.
-/

namespace LinearProgram

/-! ### Statuses by name -/

lemma Status.mem_all (status : Status) : status ∈ all := by cases status <;> decide

/-- No two statuses have one name, letter case aside. -/
lemma Status.eq_of_name {a b : Status} (h : a.name.toList.map Char.toLower = b.name.toList.map Char.toLower) :
    a = b := by
  have hall : ∀ a ∈ all, ∀ b ∈ all, a.name.toList.map Char.toLower = b.name.toList.map Char.toLower → a = b := by
    decide
  exact hall a a.mem_all b b.mem_all h

/-- **A status is known from its name**, letter case aside. -/
lemma Status.ofName?_eq_some_iff {s : String} {status : Status} :
    Status.ofName? s = some status ↔ sameIgnoringCase status.name s = true := by
  rw [Status.ofName?]
  constructor
  · intro h
    have hname := List.find?_some h
    exact hname
  · intro hname
    cases hfind : all.find? fun status => sameIgnoringCase status.name s with
    | none => exact absurd hname (List.find?_eq_none.mp hfind status status.mem_all)
    | some other =>
        have hother := List.find?_some hfind
        rw [sameIgnoringCase, decide_eq_true_iff] at hname hother
        rw [Status.eq_of_name (hother.trans hname.symm)]

/-- A field names a status, in any letter case. -/
def NamesStatus (field : Option String) (status : Status) : Prop :=
  ∃ word, field = some word ∧ sameIgnoringCase status.name word = true

/-- The status that a field names, if it is there and names one. -/
def status? (field : Option String) : Option Status := field.bind Status.ofName?

lemma status?_eq_some_iff {field : Option String} {status : Status} :
    status? field = some status ↔ NamesStatus field status := by
  rw [status?, Option.bind_eq_some_iff]
  exact exists_congr fun word => and_congr_right fun _ => Status.ofName?_eq_some_iff

lemma statusField_eq_ok_iff {fields : List String} {index : ℕ} {status : Status} :
    readField statusForm fields index = .ok status ↔ status? fields[index]? = some status := by
  rw [readField_eq_ok_iff, status?, Option.bind_eq_some_iff]
  refine exists_congr fun field => and_congr_right fun _ => ?_
  rw [statusForm]
  cases Status.ofName? field <;> simp

namespace KeptReport

/-! ### The two parts -/

/-- Whether a line is the heading of the table. -/
def isHeading (fields : List String) : Bool := fields.head? = some "Column"

/-- Whether a line gives the status. -/
def isStatus (fields : List String) : Bool := fields.head? = some "Status:"

/-- A report is divided by the heading of its table, the first line that can be one. -/
structure IsDivided (lines header : List (List String)) (heading : List String) (table : List (List String)) :
    Prop where
  whole : lines = header ++ heading :: table
  heading : isHeading heading = true
  first : ∀ fields ∈ header, isHeading fields = false

/-- The header of a report, up to and including the heading of the table. -/
def header (lines : List (List String)) : List (List String) := upTo isHeading lines

/-- The lines behind the heading of the table. -/
def table (lines : List (List String)) : List (List String) := beyond isHeading lines

/-- The values that the table lists: each line with a field is a name and its value. -/
def values : Table (List String) := fun _ fields => fields[0]?.map fun name => (name, fields[1]?)

/-- Whether a line of the header is accepted: what stands behind a keyword has to have its form. -/
structure AcceptsHeader (fields : List String) : Prop where
  rows : SpellsUnder count? "Rows:" fields
  columns : SpellsUnder count? "Columns:" fields
  nonzeros : SpellsUnder count? "Non-zeros:" fields
  status : isStatus fields = true → ∃ status, NamesStatus fields[1]? status
  objective : SpellsUnder number? "Objective:" fields

/-- What a header and a table say. -/
def solutionOf (header table : List (List String)) : Solution where
  values := (values.listing table).values
  objective := lastGiven number? .zero "Objective:" header
  status := lastGiven status? .unknown "Status:" header
  rowCount := lastGiven count? 0 "Rows:" header
  columnCount := lastGiven count? 0 "Columns:" header
  nonzeroCount := lastGiven count? 0 "Non-zeros:" header

/-! ### What is known -/

/-- What is known behind some lines. -/
def known (lines : List (List String)) : CanonicalState where
  solution := solutionOf (header lines) (table lines)
  seenStatus := (header lines).any isStatus
  inTable := lines.any isHeading

/-- Whether a line is accepted behind some others. -/
def Accepts (lines : List (List String)) (fields : List String) : Prop :=
  if lines.any isHeading then values.Spells (table lines) fields else AcceptsHeader fields

/-- What is known behind one more line of the header. -/
lemma known_concat_of_header {lines : List (List String)} (h : lines.any isHeading = false) (fields : List String) :
    known (lines ++ [fields]) =
      { solution := solutionOf (lines ++ [fields]) []
        seenStatus := (known lines).seenStatus || isStatus fields
        inTable := isHeading fields } := by
  have hnone : ∀ l ∈ lines, isHeading l = false := by simpa using h
  obtain ⟨hup, hbeyond⟩ := upTo_concat_of_none hnone fields
  simp only [known, header, table, hup, hbeyond, upTo_of_none hnone, List.any_append, h, List.any_cons, List.any_nil,
    Bool.or_false, Bool.false_or]

/-- In the header, only it is known. -/
lemma known_of_header {lines : List (List String)} (h : lines.any isHeading = false) :
    known lines = { solution := solutionOf lines [], seenStatus := lines.any isStatus, inTable := false } := by
  have hnone : ∀ l ∈ lines, isHeading l = false := by simpa using h
  simp only [known, header, table, upTo_of_none hnone, beyond_of_none hnone, h]

/-- What is known behind one more line of the table. -/
lemma known_concat_of_table {lines : List (List String)} (h : lines.any isHeading = true) (fields : List String) :
    known (lines ++ [fields]) =
      { known lines with
        solution :=
          { (known lines).solution with values := (values.listing (table lines ++ [fields])).values } } := by
  obtain ⟨hup, hbeyond⟩ := upTo_append_of_any h [fields]
  simp only [known, header, table, solutionOf, hup, hbeyond, List.any_append, h, Bool.true_or]

lemma acceptsHeader_iff {fields : List String} :
    AcceptsHeader fields
      ↔ SpellsUnder count? "Rows:" fields ∧ SpellsUnder count? "Columns:" fields
        ∧ SpellsUnder count? "Non-zeros:" fields ∧ SpellsUnder status? "Status:" fields
        ∧ SpellsUnder number? "Objective:" fields := by
  have hstatus : (isStatus fields = true → ∃ status, NamesStatus fields[1]? status)
      ↔ SpellsUnder status? "Status:" fields := by
    simp only [SpellsUnder, isStatus, decide_eq_true_iff, Option.isSome_iff_exists, status?_eq_some_iff]
  rw [← hstatus]
  exact ⟨fun h => ⟨h.rows, h.columns, h.nonzeros, h.status, h.objective⟩,
    fun ⟨hrows, hcolumns, hnonzeros, hstatus, hobjective⟩ => ⟨hrows, hcolumns, hnonzeros, hstatus, hobjective⟩⟩

/-- What is made of a field that is read. -/
lemma bind_eq_ok_iff {α β : Type} {x : Except LineFault α} {read : Option α} (hx : ∀ {a}, x = .ok a ↔ read = some a)
    (default : α) {f : α → β} {b : β} :
    (x >>= fun a => .ok (f a)) = .ok b ↔ read.isSome ∧ b = f (read.getD default) := by
  rw [Except.bind_eq_ok]
  cases read with
  | none => simp [hx]
  | some a => simp [hx, eq_comm]

/-- A line of the header leads to what is known behind it if it is accepted, and no other line does. -/
lemma header_eq_ok_iff {lines : List (List String)} (hlines : lines.any isHeading = false) {keyword : String}
    {rest : List String} {t : CanonicalState} :
    (known lines).header keyword (keyword :: rest) = .ok t
      ↔ AcceptsHeader (keyword :: rest) ∧ t = known (lines ++ [keyword :: rest]) := by
  rw [known_concat_of_header hlines, known_of_header hlines, acceptsHeader_iff]
  simp only [solutionOf, lastGiven_concat]
  unfold CanonicalState.header
  split
  · refine (bind_eq_ok_iff countField_eq_ok_iff 0).trans ?_
    simp [SpellsUnder, isHeading, isStatus]
  · refine (bind_eq_ok_iff countField_eq_ok_iff 0).trans ?_
    simp [SpellsUnder, isHeading, isStatus]
  · refine (bind_eq_ok_iff countField_eq_ok_iff 0).trans ?_
    simp [SpellsUnder, isHeading, isStatus]
  · refine (bind_eq_ok_iff statusField_eq_ok_iff .unknown).trans ?_
    simp [SpellsUnder, isHeading, isStatus]
  · refine (bind_eq_ok_iff realField_eq_ok_iff .zero).trans ?_
    simp [SpellsUnder, isHeading, isStatus]
  · simp [SpellsUnder, isHeading, isStatus, @eq_comm _ t]
  · rename_i hrows hcolumns hnonzeros hstatus hobjective hheading
    simp [SpellsUnder, isHeading, isStatus, @eq_comm _ t, show keyword ≠ "Rows:" from hrows,
      show keyword ≠ "Columns:" from hcolumns, show keyword ≠ "Non-zeros:" from hnonzeros,
      show keyword ≠ "Status:" from hstatus, show keyword ≠ "Objective:" from hobjective,
      show keyword ≠ "Column" from hheading]

/-- A line of the table leads to what is known behind it if it is accepted, and no other line does. -/
lemma line_of_table {lines : List (List String)} (hlines : lines.any isHeading = true) {keyword : String}
    {rest : List String} {t : CanonicalState} :
    (known lines).line (keyword :: rest) = .ok t
      ↔ values.Spells (table lines) (keyword :: rest) ∧ t = known (lines ++ [keyword :: rest]) := by
  have hlists : values (table lines) (keyword :: rest) = some (keyword, rest[0]?) := rfl
  rw [CanonicalState.line, if_pos (show (known lines).inTable = true from hlines), Table.spells_iff_of_some hlists,
    known_concat_of_table hlines]
  refine (bind_eq_ok_iff realField_eq_ok_iff .zero).trans (and_congr_right fun hnumber => ?_)
  obtain ⟨x, hx⟩ := Option.isSome_iff_exists.mp hnumber
  rw [Table.values_concat_of_some hlists hx]
  simp only [List.getElem?_cons_succ] at hx ⊢
  rw [hx]
  rfl

/-- A blank line changes nothing. -/
lemma known_concat_nil (lines : List (List String)) : known (lines ++ [[]]) = known lines := by
  cases hlines : lines.any isHeading with
  | false =>
      rw [known_concat_of_header hlines, known_of_header hlines]
      simp [solutionOf, lastGiven_concat, isHeading, isStatus]
  | true =>
      have hlists : values (table lines) [] = none := rfl
      rw [known_concat_of_table hlines, Table.values_concat_of_none hlists]
      rfl

/-- **A line leads to what is known behind it if it is accepted**, and no other line does. -/
lemma line_eq_ok_iff {lines : List (List String)} {fields : List String} {t : CanonicalState} :
    (known lines).line fields = .ok t ↔ Accepts lines fields ∧ t = known (lines ++ [fields]) := by
  rw [Accepts]
  cases fields with
  | nil =>
      have hspells : values.Spells (table lines) [] := Table.spells_of_none rfl
      have haccepts : AcceptsHeader [] := acceptsHeader_iff.mpr ⟨nofun, nofun, nofun, nofun, nofun⟩
      rw [known_concat_nil, CanonicalState.line]
      simp [hspells, haccepts, @eq_comm _ t]
  | cons keyword rest =>
      split_ifs with hlines
      · exact line_of_table hlines
      · rw [CanonicalState.line, if_neg (show ¬ (known lines).inTable = true from hlines)]
        exact header_eq_ok_iff (Bool.eq_false_iff.mpr hlines)

/-! ### The account -/

/-- **What the reader of kept reports knows behind some lines**: it accepts the lines of the header whose keywords are
followed by what they ask for, and the lines of the table whose second field is a number. -/
def account : canonicalReader.Account (List String) where
  view := fields
  known := known
  Good := Accepts
  ends _ := false
  start := rfl
  more h _ := congrArg (Except.map Progress.more) (line_eq_ok_iff.mpr ⟨h, rfl⟩)
  done _ hends := by cases hends
  bad {before line} h := by
    cases hline : (known before).line (fields line) with
    | error fault => exact ⟨fault, congrArg (Except.map Progress.more) hline⟩
    | ok t => exact absurd (line_eq_ok_iff.mp hline).1 h

/-- The lines of a report are accepted exactly if those of the header are and those of the table spell their values. -/
lemma accepts_lines_iff (lines : List (List String)) :
    (∀ e ∈ withBefore lines, Accepts e.1 e.2)
      ↔ (∀ fields ∈ header lines, AcceptsHeader fields) ∧ (values.listing (table lines)).IsSpelled := by
  induction lines using List.reverseRecOn with
  | nil => simp [withBefore, header, table, upTo, beyond, Table.listing, Listing.IsSpelled]
  | append_singleton lines fields ih =>
      rw [withBefore_concat, List.forall_mem_append, List.forall_mem_singleton, ih, Accepts]
      cases hlines : lines.any isHeading with
      | false =>
          have hnone : ∀ l ∈ lines, isHeading l = false := by simpa using hlines
          obtain ⟨hup, hbeyond⟩ := upTo_concat_of_none hnone fields
          simp [header, table, hup, hbeyond, upTo_of_none hnone, beyond_of_none hnone, Table.listing, withBefore,
            Listing.IsSpelled, or_imp, forall_and]
      | true =>
          obtain ⟨hup, hbeyond⟩ := upTo_append_of_any hlines [fields]
          simp only [header, table, hup, hbeyond, Table.isSpelled_listing_concat, if_true, and_assoc]

/-! ### What is accepted -/

/-- A report is divided if it has a heading. -/
lemma any_isHeading_iff {lines : List (List String)} :
    lines.any isHeading = true ↔ ∃ header heading table, IsDivided lines header heading table := by
  constructor
  · intro h
    obtain ⟨head, heading, hup, hheading, hfirst⟩ := exists_upTo_eq_concat h
    refine ⟨head, heading, table lines, ?_, hheading, hfirst⟩
    rw [← List.singleton_append, ← List.append_assoc, ← hup, table, upTo_append_beyond]
  · rintro ⟨head, heading, rest, h⟩
    simp [h.whole, h.heading]

namespace IsDivided

variable {lines head rest : List (List String)} {heading : List String}

lemma header_eq (h : IsDivided lines head heading rest) : header lines = head ++ [heading] := by
  have hany : (head ++ [heading]).any isHeading = true := by simp [h.heading]
  rw [header, h.whole, ← List.singleton_append, ← List.append_assoc, (upTo_append_of_any hany rest).1,
    (upTo_concat_of_none h.first heading).1]

lemma table_eq (h : IsDivided lines head heading rest) : table lines = rest := by
  have hany : (head ++ [heading]).any isHeading = true := by simp [h.heading]
  rw [table, h.whole, ← List.singleton_append, ← List.append_assoc, (upTo_append_of_any hany rest).2,
    (upTo_concat_of_none h.first heading).2, List.nil_append]

/-- A report is divided in one way. -/
lemma head_eq {head' rest' : List (List String)} {heading' : List String} (h : IsDivided lines head heading rest)
    (h' : IsDivided lines head' heading' rest') : head = head' :=
  (List.append_inj' (h.header_eq.symm.trans h'.header_eq) rfl).1

/-- The heading is accepted as a line of the header, and gives nothing. -/
lemma heading_gives_nothing (h : IsDivided lines head heading rest) :
    AcceptsHeader heading ∧ isStatus heading = false ∧ solutionOf (head ++ [heading]) rest = solutionOf head rest := by
  have hkeyword : heading.head? = some "Column" := of_decide_eq_true h.heading
  simp [acceptsHeader_iff, SpellsUnder, isStatus, solutionOf, lastGiven_concat, hkeyword]

/-- What is known behind a report that is divided. -/
lemma known_eq (h : IsDivided lines head heading rest) :
    known lines = { solution := solutionOf head rest, seenStatus := head.any isStatus, inTable := true } := by
  obtain ⟨-, hstatus, hsolution⟩ := h.heading_gives_nothing
  rw [known, h.header_eq, h.table_eq, hsolution, List.any_append, List.any_cons, hstatus,
    any_isHeading_iff.mpr ⟨head, heading, rest, h⟩]
  simp

/-- The lines of a report that is divided are accepted exactly if its two parts are. -/
lemma accepts_iff (h : IsDivided lines head heading rest) :
    (∀ e ∈ withBefore lines, Accepts e.1 e.2)
      ↔ (∀ fields ∈ head, AcceptsHeader fields) ∧ (values.listing rest).IsSpelled := by
  rw [accepts_lines_iff, h.header_eq, h.table_eq, List.forall_mem_append, List.forall_mem_singleton]
  simp only [h.heading_gives_nothing.1, and_true]

end IsDivided

/-- **What a text that is accepted says, and which one is.** -/
lemma read_eq_ok_iff {text : String} {s : Solution} :
    (canonicalReader.read (Utf8.encode text)).value = .ok s
      ↔ ∃ header heading table, IsDivided (fieldLines text) header heading table
        ∧ (∃ fields ∈ header, isStatus fields = true) ∧ (∀ fields ∈ header, AcceptsHeader fields)
        ∧ (values.listing table).IsSpelled ∧ s = solutionOf header table := by
  rw [account.read_encode_eq_ok_iff fun _ => rfl]
  change (∀ e ∈ withBefore (fieldLines text), Accepts e.1 e.2) ∧ (known (fieldLines text)).finish = .ok s ↔ _
  rw [CanonicalState.finish]
  constructor
  · rintro ⟨haccepts, hfinish⟩
    split_ifs at hfinish with hend
    obtain ⟨hseen, htable⟩ := (Bool.and_eq_true _ _).mp hend
    obtain ⟨head, heading, rest, hdivided⟩ := any_isHeading_iff.mp htable
    obtain ⟨hheader, hspelled⟩ := hdivided.accepts_iff.mp haccepts
    rw [hdivided.known_eq] at hseen hfinish
    exact ⟨head, heading, rest, hdivided, List.any_eq_true.mp hseen, hheader, hspelled, (Except.ok.inj hfinish).symm⟩
  · rintro ⟨head, heading, rest, hdivided, hstatus, hheader, hspelled, rfl⟩
    refine ⟨hdivided.accepts_iff.mpr ⟨hheader, hspelled⟩, ?_⟩
    rw [hdivided.known_eq, List.any_eq_true.mpr hstatus]
    rfl

/-- The values of a table are spelled if every line with a field has a number for its second one. -/
lemma isSpelled_values_iff {table : List (List String)} :
    (values.listing table).IsSpelled ↔ ∀ fields ∈ table, fields ≠ [] → (number? fields[1]?).isSome := by
  have hlisting : values.listing table
      = table.filterMap fun fields => fields[0]?.map fun name => (name, fields[1]?) :=
    Table.listing_eq_filterMap _ table
  rw [hlisting, Listing.IsSpelled, List.forall_mem_filterMap]
  refine forall₂_congr fun fields _ => ?_
  cases fields <;> simp

/-- What a header and a table say of a solution: the last line with a keyword and the last line with a name count. -/
structure Says (header table : List (List String)) (s : Solution) : Prop where
  rows : GivesLast count? 0 "Rows:" header s.rowCount
  columns : GivesLast count? 0 "Columns:" header s.columnCount
  nonzeros : GivesLast count? 0 "Non-zeros:" header s.nonzeroCount
  status : ∃ fields, lastOf? "Status:" header = some fields ∧ NamesStatus fields[1]? s.status
  objective : GivesLast number? .zero "Objective:" header s.objective
  values : ∀ name, s.values.get? name = (values.listing table).last? name

lemma says_solutionOf {header table : List (List String)} (hstatus : ∃ fields ∈ header, isStatus fields = true)
    (hheader : ∀ fields ∈ header, AcceptsHeader fields) (htable : (KeptReport.values.listing table).IsSpelled) :
    Says header table (solutionOf header table) where
  rows := givesLast_lastGiven fun fields hmem => (hheader fields hmem).rows
  columns := givesLast_lastGiven fun fields hmem => (hheader fields hmem).columns
  nonzeros := givesLast_lastGiven fun fields hmem => (hheader fields hmem).nonzeros
  status := by
    have hlast : GivesLast status? .unknown "Status:" header (solutionOf header table).status :=
      givesLast_lastGiven fun fields hmem => (acceptsHeader_iff.mp (hheader fields hmem)).2.2.2.1
    rw [GivesLast] at hlast
    cases hfields : lastOf? "Status:" header with
    | none =>
        obtain ⟨fields, hmem, hkeyword⟩ := hstatus
        exact absurd hkeyword (Bool.eq_false_iff.mp (lastWith?_eq_none_iff.mp hfields fields hmem))
    | some fields =>
        rw [hfields] at hlast
        exact ⟨fields, rfl, status?_eq_some_iff.mp hlast⟩
  objective := givesLast_lastGiven fun fields hmem => (hheader fields hmem).objective
  values := Listing.get?_values htable

/-- **A text is accepted exactly if it is divided by a heading, its header gives a status and whatever stands behind a
keyword in it has the form, and every line of its table with a field gives a number.** What is read is what the two
parts say, and no other table changes what has been read from the header. -/
theorem read_divided (text : String) :
    ((∃ s, (canonicalReader.read (Utf8.encode text)).value = .ok s)
      ↔ ∃ header heading table, IsDivided (fieldLines text) header heading table
        ∧ (∃ fields ∈ header, isStatus fields = true) ∧ (∀ fields ∈ header, AcceptsHeader fields)
        ∧ ∀ fields ∈ table, fields ≠ [] → (number? fields[1]?).isSome)
    ∧ ∀ s, (canonicalReader.read (Utf8.encode text)).value = .ok s →
      ∃ header heading table, IsDivided (fieldLines text) header heading table ∧ Says header table s
        ∧ ∀ other heading' table' t, IsDivided (fieldLines other) header heading' table' →
          (canonicalReader.read (Utf8.encode other)).value = .ok t →
          t.rowCount = s.rowCount ∧ t.columnCount = s.columnCount ∧ t.nonzeroCount = s.nonzeroCount
            ∧ t.status = s.status ∧ t.objective = s.objective := by
  simp only [read_eq_ok_iff, ← isSpelled_values_iff]
  refine ⟨⟨?_, ?_⟩, ?_⟩
  · rintro ⟨s, header, heading, table, hdivided, hstatus, hheader, htable, -⟩
    exact ⟨header, heading, table, hdivided, hstatus, hheader, htable⟩
  · rintro ⟨header, heading, table, hdivided, hstatus, hheader, htable⟩
    exact ⟨_, header, heading, table, hdivided, hstatus, hheader, htable, rfl⟩
  · rintro s ⟨header, heading, table, hdivided, hstatus, hheader, htable, rfl⟩
    refine ⟨header, heading, table, hdivided, says_solutionOf hstatus hheader htable, ?_⟩
    rintro other heading' table' t hother ⟨header', heading'', table'', hother', -, -, -, rfl⟩
    obtain rfl := hother.head_eq hother'
    exact ⟨rfl, rfl, rfl, rfl, rfl⟩

/-- A kept report in which a keyword is a name, and some lines come twice. -/
def awkward : String := "Rows: 1\nStatus: unknown\n\nRows: 2\nStatus: Optimal\nColumn\nRows: 7\nx 1\nx 3\n"

/-- What such a report says. -/
def awkwardSolution : Solution where
  values := ⟨[("Rows:", .ofInt 7), ("x", .ofInt 3)], by decide⟩
  objective := .zero
  status := .optimal
  rowCount := 2
  columnCount := 0
  nonzeroCount := 0

theorem read_divided_awkward :
    (canonicalReader.read (Utf8.encode awkward)).value = .ok awkwardSolution
      ∧ (∃ header heading table, IsDivided (fieldLines awkward) header heading table ∧ Says header table awkwardSolution
        ∧ (∃ fields ∈ header, isStatus fields = true) ∧ ∀ fields ∈ header, AcceptsHeader fields)
      ∧ ¬ ∃ s, (canonicalReader.read (Utf8.encode (awkward ++ "Status: x\n"))).value = .ok s := by
  have hread : (canonicalReader.read (Utf8.encode awkward)).value = .ok awkwardSolution := by decide +kernel
  obtain ⟨header, heading, table, hdivided, hsays, -⟩ := (read_divided awkward).2 _ hread
  obtain ⟨header', heading', table', hdivided', hstatus, hheader, -⟩ := (read_divided awkward).1.mp ⟨_, hread⟩
  obtain rfl := hdivided.head_eq hdivided'
  refine ⟨hread, ⟨header, heading, table, hdivided, hsays, hstatus, hheader⟩, fun hother => ?_⟩
  -- The last line lies in the table, so its second field has to be a number.
  obtain ⟨header', heading', table', hdivided', -, -, hnumbers⟩ := (read_divided _).1.mp hother
  have hmem : ["Status:", "x"] ∈ KeptReport.table (fieldLines (awkward ++ "Status: x\n")) := by decide +kernel
  rw [hdivided'.table_eq] at hmem
  have hnumber := hnumbers _ hmem (by simp)
  exact absurd hnumber (by decide +kernel)

end KeptReport

end LinearProgram
