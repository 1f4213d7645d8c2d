import LinearProgram.Problem.Operation
import LinearProgram.Proofs.LpText.Written

/-!
The names of rows under all changes of a problem.

A row is only added under a new name, and the bounds of a row can be replaced without touching its name. But a row that
is changed in place can be given any name, also one that another row has. So the rows of a problem have different names
as long as no change in place takes the name of another row, and they have not once one does.

* `Problem.RowsApart`: the rows have different names.
* `Problem.find?_name_eq_some`: members with different names are found by them.
* `Problem.Takes`: a change in place gives a row the name of another one.
* `Problem.editRow_eq_ok_iff`: **what a change in place makes of the rows.**
* `Problem.RowsApart.editRow_iff`, `Problem.RowsApart.addRow`: one change.
* `Problem.Change`, `Problem.Change.Clashes`: everything that a caller can do to a problem, and what of it clashes.
* `Problem.rowsApart_perform_iff`: **one change keeps the rows apart if and only if it does not clash**;
  `Problem.rowsApart_iff_proper`: a whole history.
* `Problem.rows_apart`: **without a clash, the text names every constraint once and every row is found by its name.**
-/

namespace LinearProgram

namespace Problem

/-! ### Names of rows -/

/-- The rows of a problem have different names. -/
def RowsApart (p : Problem) : Prop := (p.rows.map Row.name).Nodup

instance (p : Problem) : Decidable p.RowsApart := inferInstanceAs (Decidable (List.Nodup _))

/-- A change in place gives the row of a name the name of another row. -/
def Takes (p : Problem) (name : String) (change : Row → Row) : Prop :=
  ∃ row ∈ p.rows, row.name = name ∧ (change row).name ≠ name ∧ (change row).name ∈ p.rows.map Row.name

instance (p : Problem) (name : String) (change : Row → Row) : Decidable (p.Takes name change) :=
  inferInstanceAs (Decidable (∃ row ∈ p.rows, _))

lemma found_eq_ok_iff {α : Type} {e : Error} {o : Option α} {a : α} : found e o = .ok a ↔ o = some a := by
  cases o <;> simp [found]

/-- Among members with different names, every member is found by its name. -/
lemma find?_name_eq_some {α : Type} {nameOf : α → String} {as : List α} (has : (as.map nameOf).Nodup) {a : α}
    (ha : a ∈ as) : as.find? (fun b => nameOf b = nameOf a) = some a := by
  obtain ⟨before, after, rfl⟩ := List.append_of_mem ha
  rw [List.map_append, List.map_cons, List.nodup_middle, List.nodup_cons] at has
  refine List.find?_eq_some_iff_append.mpr ⟨by simp, before, after, rfl, fun b hb => ?_⟩
  have hne : nameOf b ≠ nameOf a := fun heq => has.1 (List.mem_append_left _ (heq ▸ List.mem_map_of_mem hb))
  simpa using hne

/-- Among rows with different names, every row is found by its name. -/
lemma RowsApart.rowNamed {p : Problem} (hp : p.RowsApart) {row : Row} (hrow : row ∈ p.rows) :
    p.rowNamed row.name = .ok row :=
  found_eq_ok_iff.mpr (find?_name_eq_some hp hrow)

/-! ### Changes in place -/

/-- The first member that satisfies a test is changed, and all others stay. -/
lemma changeFirst?_eq_some_iff {α : Type} {test : α → Bool} {change : α → α} {as bs : List α} :
    changeFirst? test change as = some bs
      ↔ ∃ before a after, as = before ++ a :: after ∧ test a = true ∧ (∀ b ∈ before, test b = false)
        ∧ bs = before ++ change a :: after := by
  induction as generalizing bs with
  | nil => simp [changeFirst?]
  | cons a as ih =>
      rw [changeFirst?]
      split_ifs with htest
      · constructor
        · rintro ⟨⟩
          exact ⟨[], a, as, rfl, htest, by simp, rfl⟩
        · rintro ⟨before, b, after, has, hb, hbefore, rfl⟩
          cases before with
          | nil =>
              obtain ⟨rfl, rfl⟩ := List.cons.inj has
              rfl
          | cons c before =>
              obtain ⟨rfl, -⟩ := List.cons.inj has
              rw [hbefore a List.mem_cons_self] at htest
              cases htest
      · rw [Option.map_eq_some_iff]
        constructor
        · rintro ⟨cs, hcs, rfl⟩
          obtain ⟨before, b, after, rfl, hb, hbefore, rfl⟩ := ih.mp hcs
          refine ⟨a :: before, b, after, rfl, hb, fun c hc => ?_, rfl⟩
          rcases List.mem_cons.mp hc with rfl | hc
          · simpa using htest
          · exact hbefore c hc
        · rintro ⟨before, b, after, has, hb, hbefore, rfl⟩
          cases before with
          | nil =>
              obtain ⟨rfl, -⟩ := List.cons.inj has
              exact absurd hb htest
          | cons c before =>
              obtain ⟨rfl, rfl⟩ := List.cons.inj has
              have hrest : ∀ d ∈ before, test d = false := fun d hd => hbefore d (List.mem_cons_of_mem _ hd)
              exact ⟨_, ih.mpr ⟨before, b, after, rfl, hb, hrest, rfl⟩, rfl⟩

/-- **A change in place changes the first row of the name**, and all others stay. -/
lemma editRow_eq_ok_iff {p q : Problem} {name : String} {change : Row → Row} :
    p.editRow name change = .ok q
      ↔ ∃ before row after, p.rows = before ++ row :: after ∧ row.name = name
        ∧ (∀ other ∈ before, other.name ≠ name) ∧ q = { p with rows := before ++ change row :: after } := by
  rw [editRow, found_eq_ok_iff, Option.map_eq_some_iff]
  constructor
  · rintro ⟨rows, hrows, rfl⟩
    obtain ⟨before, row, after, hp, hname, hbefore, rfl⟩ := changeFirst?_eq_some_iff.mp hrows
    exact ⟨before, row, after, hp, by simpa using hname,
      fun other hother => by simpa using hbefore other hother, rfl⟩
  · rintro ⟨before, row, after, hp, hname, hbefore, rfl⟩
    exact ⟨_, changeFirst?_eq_some_iff.mpr ⟨before, row, after, hp, by simpa using hname,
      fun other hother => by simpa using hbefore other hother, rfl⟩, rfl⟩

section Steps

variable {p q : Problem}

/-- **A change in place keeps the rows apart if and only if it does not take the name of another row.** -/
lemma RowsApart.editRow_iff (hp : p.RowsApart) {name : String} {change : Row → Row}
    (hedit : p.editRow name change = .ok q) : q.RowsApart ↔ ¬p.Takes name change := by
  obtain ⟨before, row, after, hrows, rfl, -, rfl⟩ := editRow_eq_ok_iff.mp hedit
  have hmem : row ∈ p.rows := by simp [hrows]
  have hother : ∀ name, name ∈ p.rows.map Row.name
      ↔ name = row.name ∨ name ∈ (before ++ after).map Row.name := by
    intro name
    simp only [hrows, List.map_append, List.map_cons, List.mem_append, List.mem_cons]
    tauto
  rw [RowsApart, hrows, List.map_append, List.map_cons, List.nodup_middle, ← List.map_append, List.nodup_cons] at hp
  rw [RowsApart, List.map_append, List.map_cons, List.nodup_middle, ← List.map_append, List.nodup_cons]
  constructor
  · rintro ⟨hfree, -⟩ ⟨taker, htaker, hname, hne, htaken⟩
    obtain rfl : taker = row := by
      rw [hrows, List.mem_append, List.mem_cons] at htaker
      by_contra hdiff
      refine hp.1 (List.mem_map.mpr ⟨taker, List.mem_append.mpr ?_, hname⟩)
      tauto
    exact ((hother _).mp htaken).elim hne hfree
  · intro htakes
    refine ⟨fun htaken => ?_, hp.2⟩
    by_cases hsame : (change row).name = row.name
    · exact hp.1 (hsame ▸ htaken)
    · exact htakes ⟨row, hmem, rfl, hsame, (hother _).mpr (.inr htaken)⟩

/-- A row is only added under a name that no row has. -/
lemma RowsApart.addRow (hp : p.RowsApart) {row : Row} (hadd : p.addRow row = .ok q) : q.RowsApart := by
  rw [Problem.addRow] at hadd
  split_ifs at hadd with htaken
  obtain rfl := Except.ok.inj hadd
  rw [RowsApart, List.map_append, List.map_singleton, List.nodup_append]
  refine ⟨hp, List.nodup_singleton _, fun name hname other hother heq => htaken ?_⟩
  obtain ⟨taker, htaker, rfl⟩ := List.mem_map.mp hname
  rw [List.any_eq_true]
  exact ⟨taker, htaker, by simpa using heq.trans (List.mem_singleton.mp hother)⟩

end Steps

/-! ### Everything that a caller can do -/

/-- What a caller does to a problem: one of the operations, or anything at all to a row in place. -/
inductive Change where
  | operation (op : Operation)
  | edit (name : String) (change : Row → Row)

/-- The changed problem, or why the change is refused. -/
def Change.apply (p : Problem) : Change → Except Error Problem
  | operation op => op.apply p
  | edit name change => p.editRow name change

/-- The problem after a change, which stays as it was if the change is refused. -/
def Change.perform (p : Problem) (c : Change) : Problem :=
  match c.apply p with
  | .ok q => q
  | .error _ => p

/-- A change in place that gives a row the name of another one. -/
def Change.Clashes (p : Problem) : Change → Prop
  | operation (.editRow name change) => p.Takes name change.apply
  | operation _ => False
  | edit name change => p.Takes name change

/-- The problem after changes, one after the other. -/
def afterAll (p : Problem) (changes : List Change) : Problem := changes.foldl Change.perform p

/-- Changes of which none clashes. -/
def Proper (p : Problem) : List Change → Prop
  | [] => True
  | c :: changes => ¬c.Clashes p ∧ Proper (c.perform p) changes

lemma Change.perform_of_ok {p q : Problem} {c : Change} (h : c.apply p = .ok q) : c.perform p = q := by
  rw [perform, h]

lemma Change.perform_of_error {p : Problem} {c : Change} {e : Error} (h : c.apply p = .error e) : c.perform p = p := by
  rw [perform, h]

/-- What takes the name of another row is not refused. -/
lemma Takes.exists_editRow {p : Problem} {name : String} {change : Row → Row} (h : p.Takes name change) :
    ∃ q, p.editRow name change = .ok q := by
  obtain ⟨row, hrow, hname, -⟩ := h
  have hfound : ∃ found, p.rows.find? (fun other => other.name = name) = some found :=
    Option.isSome_iff_exists.mp (List.find?_isSome.mpr ⟨row, hrow, by simpa using hname⟩)
  obtain ⟨first, hfirst⟩ := hfound
  obtain ⟨htest, before, after, hrows, hbefore⟩ := List.find?_eq_some_iff_append.mp hfirst
  exact ⟨_, editRow_eq_ok_iff.mpr ⟨before, first, after, hrows, by simpa using htest,
    fun other hother => by simpa using hbefore other hother, rfl⟩⟩

section Histories

variable {p : Problem}

/-- A change of the columns leaves the rows as they are. -/
lemma rows_of_addColumn {q : Problem} {column : Column} {strict : Bool} (h : p.addColumn column strict = .ok q) :
    q.rows = p.rows := by
  rw [addColumn] at h
  split_ifs at h
  rw [← Except.ok.inj h]

lemma rows_of_editColumn {q : Problem} {name : String} {change : Column → Column}
    (h : p.editColumn name change = .ok q) : q.rows = p.rows := by
  rw [editColumn, found_eq_ok_iff, Option.map_eq_some_iff] at h
  obtain ⟨columns, -, rfl⟩ := h
  rfl

/-- A change in place of anything but the name takes no name. -/
lemma not_takes_of_name {name : String} {change : Row → Row} (h : ∀ row, (change row).name = row.name) :
    ¬p.Takes name change := by
  rintro ⟨row, -, hname, hne, -⟩
  exact hne ((h row).trans hname)

lemma RowsApart.of_rows {q : Problem} (hp : p.RowsApart) (hrows : q.rows = p.rows) : q.RowsApart := by
  rwa [RowsApart, hrows]

lemma RowsApart.editRow_of_name {q : Problem} (hp : p.RowsApart) {name : String} {change : Row → Row}
    (hname : ∀ row, (change row).name = row.name) (hedit : p.editRow name change = .ok q) : q.RowsApart :=
  (hp.editRow_iff hedit).mpr (not_takes_of_name hname)

/-- A change keeps the rows apart if it does unless it is refused. -/
lemma RowsApart.perform (hp : p.RowsApart) {c : Change} (hok : ∀ q, c.apply p = .ok q → q.RowsApart) :
    (c.perform p).RowsApart := by
  cases happly : c.apply p with
  | ok q =>
      rw [Change.perform_of_ok happly]
      exact hok q happly
  | error e => rwa [Change.perform_of_error happly]

/-- A change in place that is refused finds no row of the name, so it takes none either. -/
lemma RowsApart.perform_editRow_iff (hp : p.RowsApart) {c : Change} {name : String} {change : Row → Row}
    (hplace : c.apply p = p.editRow name change) : (c.perform p).RowsApart ↔ ¬p.Takes name change := by
  cases hedit : p.editRow name change with
  | ok q => rw [Change.perform_of_ok (hplace.trans hedit), hp.editRow_iff hedit]
  | error e =>
      rw [Change.perform_of_error (hplace.trans hedit)]
      refine iff_of_true hp fun htakes => ?_
      obtain ⟨q, hq⟩ := htakes.exists_editRow
      cases hq.symm.trans hedit

/-- **One change keeps the rows apart if and only if it does not clash.** -/
lemma rowsApart_perform_iff (hp : p.RowsApart) (c : Change) : (c.perform p).RowsApart ↔ ¬c.Clashes p := by
  cases c with
  | edit name change => exact hp.perform_editRow_iff rfl
  | operation op =>
      cases op with
      | addRow row => exact iff_of_true (hp.perform fun q hadd => hp.addRow hadd) id
      | addColumn column strict => exact iff_of_true (hp.perform fun q hadd => hp.of_rows (rows_of_addColumn hadd)) id
      | setRowBounds name min max => exact iff_of_true (hp.perform fun q => hp.editRow_of_name fun _ => rfl) id
      | setRowBoundsExact name value => exact iff_of_true (hp.perform fun q => hp.editRow_of_name fun _ => rfl) id
      | setColumnBounds name min max =>
          exact iff_of_true (hp.perform fun q hedit => hp.of_rows (rows_of_editColumn hedit)) id
      | setColumnBoundsExact name value =>
          exact iff_of_true (hp.perform fun q hedit => hp.of_rows (rows_of_editColumn hedit)) id
      | editRow name change => exact hp.perform_editRow_iff rfl

/-- **The rows are apart all along if and only if no change clashes.** -/
lemma rowsApart_iff_proper (hp : p.RowsApart) (changes : List Change) :
    (∀ k, (p.afterAll (changes.take k)).RowsApart) ↔ p.Proper changes := by
  induction changes generalizing p with
  | nil => exact iff_of_true (fun k => by rwa [List.take_nil]) trivial
  | cons c changes ih =>
      constructor
      · intro h
        have hone : (c.perform p).RowsApart := h 1
        exact ⟨(rowsApart_perform_iff hp c).mp hone, (ih hone).mp fun k => h (k + 1)⟩
      · rintro ⟨hclash, hrest⟩ k
        cases k with
        | zero => exact hp
        | succ k => exact (ih ((rowsApart_perform_iff hp c).mpr hclash)).mpr hrest k

/-- The constraints of a text have the names of the rows, in order. -/
lemma map_name_constraintsFrom (rows : List Row) (next : ℕ) :
    (constraintsFrom next rows).map Constraint.name = rows.map Row.name := by
  induction rows generalizing next with
  | nil => rfl
  | cons row rows ih => rw [constraintsFrom, List.map_cons, ih, List.map_cons]

end Histories

/-- **Without a change in place that takes the name of another row, all rows have different names**: every row is found
by its name, and the text of the problem names every constraint once. -/
theorem rows_apart {name : String} {direction : Direction} {changes : List Change}
    (hproper : (new name direction).Proper changes) :
    ((new name direction).afterAll changes).RowsApart
      ∧ (∀ row ∈ ((new name direction).afterAll changes).rows,
          ((new name direction).afterAll changes).rowNamed row.name = .ok row)
      ∧ ∀ width text, (((new name direction).afterAll changes).lpText width).value = .ok text →
          ∃ d : Document, text = d.text width ∧ (d.constraints.map Constraint.name).Nodup
            ∧ d.constraints.map Constraint.name = ((new name direction).afterAll changes).rows.map Row.name := by
  have hnew : (new name direction).RowsApart := List.nodup_nil
  have hall := (rowsApart_iff_proper hnew changes).mpr hproper changes.length
  rw [List.take_length] at hall
  refine ⟨hall, fun row hrow => hall.rowNamed hrow, fun width text htext => ?_⟩
  obtain ⟨-, rfl⟩ := lpText_eq_ok htext
  have hnames := map_name_constraintsFrom ((new name direction).afterAll changes).rows 1
  exact ⟨_, rfl, hnames ▸ hall, hnames⟩

/-- Two rows, of which the second one is given another name in place. -/
def renamed (other : String) : List Change :=
  [.operation (.addRow ⟨"r0", .upper .one, [.unit "x0"]⟩), .operation (.addRow ⟨"r1", .lower .one, [.unit "x0"]⟩),
   .edit "r1" fun row => { row with name := other }]

theorem rows_apart_renamed :
    ((new "p" .minimize).afterAll (renamed "r2")).rowNamed "r2" = .ok ⟨"r2", .lower .one, [.unit "x0"]⟩ := by
  have hfree : ¬((new "p" .minimize).afterAll ((renamed "r2").take 2)).Takes "r1"
      fun row => { row with name := "r2" } := by
    decide +kernel
  have hproper : (new "p" .minimize).Proper (renamed "r2") := ⟨id, id, hfree, trivial⟩
  obtain ⟨-, hfound, -⟩ := rows_apart hproper
  exact hfound ⟨"r2", .lower .one, [.unit "x0"]⟩ (by decide +kernel)

/-- A name that another row has is taken without a word. The row that takes it is no longer found by its name. -/
theorem not_rowsApart_renamed :
    ¬((new "p" .minimize).afterAll (renamed "r0")).RowsApart
      ∧ ∃ row ∈ ((new "p" .minimize).afterAll (renamed "r0")).rows,
          ((new "p" .minimize).afterAll (renamed "r0")).rowNamed row.name ≠ .ok row := by
  decide +kernel

end Problem

end LinearProgram
