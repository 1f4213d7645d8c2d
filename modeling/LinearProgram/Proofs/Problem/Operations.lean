import LinearProgram.Proofs.Problem.RowNames

/-!
What each operation changes, and what the look-ups find afterwards.

An operation first looks for a name. One that adds needs it to be new, one that changes needs it to be there; if that
fails nothing has been touched yet. Otherwise one member is put at the end, or the first member of the name gets other
bounds. Members are found by their names or by their places; a place is given as a number and an offset of either sign,
and what counts is their exact sum.

* `Problem.FirstChanged`: the first member of a name is changed, and all others stay.
* `Problem.Operation.Refused`, `Problem.Operation.Changes`: when an operation fails, and what it does otherwise.
* `Problem.Operation.apply_eq_error_iff`, `Problem.Operation.apply_eq_ok_iff`: **every operation does one thing or
  nothing.**
* `Problem.memberAt?_eq_some_iff`, `Problem.memberAt?_of_words`: **the member at a place**, also if the sum is taken of
  machine words.
* `Problem.ColumnsApart.after`, `Problem.ColumnsApart.foldl_after`: columns keep different names, by one operation and
  by many.
* `Problem.operations_local`: **operations are local and look-ups agree.**
-/

namespace LinearProgram

namespace Problem

/-! ### What an operation changes -/

/-- The first member of a name is changed, and all others stay as and where they are. -/
def FirstChanged {α : Type} (nameOf : α → String) (name : String) (change : α → α) (as bs : List α) : Prop :=
  ∃ before a after, as = before ++ a :: after ∧ nameOf a = name ∧ (∀ b ∈ before, nameOf b ≠ name)
    ∧ bs = before ++ change a :: after

/-- An operation needs a name to be new that is taken, or one to be there that is missing. -/
def Operation.Refused (p : Problem) : Operation → Prop
  | addRow row => ∃ other ∈ p.rows, other.name = row.name
  | addColumn column strict => strict = true ∧ ∃ other ∈ p.columns, other.name = column.name
  | setRowBounds name _ _ | setRowBoundsExact name _ | editRow name _ => ∀ row ∈ p.rows, row.name ≠ name
  | setColumnBounds name _ _ | setColumnBoundsExact name _ => ∀ column ∈ p.columns, column.name ≠ name

/-- The error of an operation that is refused. -/
def Operation.refusal : Operation → Error
  | addRow row => .duplicateName "row" row.name
  | addColumn column _ => .duplicateName "column" column.name
  | setRowBounds name _ _ | setRowBoundsExact name _ | editRow name _ => .notFound "row" name
  | setColumnBounds name _ _ | setColumnBoundsExact name _ => .notFound "column" name

/-- What an operation makes of a problem unless it is refused. -/
def Operation.Changes (p q : Problem) : Operation → Prop
  | addRow row => q = { p with rows := p.rows ++ [row] }
  | addColumn column _ => q = { p with columns := p.columns ++ [column] }
  | setRowBounds name min max => ∃ rows, q = { p with rows }
      ∧ FirstChanged Row.name name (fun row => { row with bounds := .ofRange min max }) p.rows rows
  | setRowBoundsExact name value => ∃ rows, q = { p with rows }
      ∧ FirstChanged Row.name name (fun row => { row with bounds := .exact value }) p.rows rows
  | setColumnBounds name min max => ∃ columns, q = { p with columns }
      ∧ FirstChanged Column.name name (fun column => { column with bounds := .ofRange min max }) p.columns columns
  | setColumnBoundsExact name value => ∃ columns, q = { p with columns }
      ∧ FirstChanged Column.name name (fun column => { column with bounds := .exact value }) p.columns columns
  | editRow name change => ∃ rows, q = { p with rows } ∧ FirstChanged Row.name name change.apply p.rows rows

section Members

variable {α : Type} {nameOf : α → String} {name : String} {change : α → α} {as bs : List α}

lemma changeFirst?_name_eq_some_iff :
    changeFirst? (fun a => nameOf a = name) change as = some bs ↔ FirstChanged nameOf name change as bs := by
  simp only [changeFirst?_eq_some_iff, FirstChanged, decide_eq_true_eq, decide_eq_false_iff_not, ne_eq]

/-- Nothing is changed if and only if no member has the name. -/
lemma changeFirst?_eq_none_iff {test : α → Bool} : changeFirst? test change as = none ↔ ∀ a ∈ as, test a = false := by
  induction as with
  | nil => simp [changeFirst?]
  | cons a as ih => by_cases htest : test a <;> simp [changeFirst?, htest, ih]

/-- The names stay if the change leaves the name alone. -/
lemma FirstChanged.map_name (h : FirstChanged nameOf name change as bs) (hname : ∀ a, nameOf (change a) = nameOf a) :
    bs.map nameOf = as.map nameOf := by
  obtain ⟨before, a, after, rfl, -, -, rfl⟩ := h
  simp only [List.map_append, List.map_cons, hname]

end Members

section Steps

variable {p q : Problem} {name : String} {e : Error}

lemma found_eq_error_iff {α : Type} {absent : Error} {o : Option α} :
    found absent o = .error e ↔ o = none ∧ e = absent := by
  cases o <;> simp [found, eq_comm]

lemma ite_eq_error_iff {α : Type} {c : Prop} [Decidable c] {failure : Error} {a : α} :
    (if c then .error failure else .ok a) = (.error e : Except Error α) ↔ c ∧ e = failure := by
  split_ifs with hc
  · rw [Except.error.injEq, and_iff_right hc, eq_comm]
  · exact iff_of_false (fun h => by cases h) fun h => hc h.1

lemma ite_eq_ok_iff {α : Type} {c : Prop} [Decidable c] {failure : Error} {a b : α} :
    (if c then .error failure else .ok a) = (.ok b : Except Error α) ↔ ¬c ∧ b = a := by
  split_ifs with hc
  · exact iff_of_false (fun h => by cases h) fun h => h.1 hc
  · rw [Except.ok.injEq, and_iff_right hc, eq_comm]

lemma addRow_eq_error_iff {row : Row} :
    p.addRow row = .error e ↔ (∃ other ∈ p.rows, other.name = row.name) ∧ e = .duplicateName "row" row.name := by
  rw [addRow, ite_eq_error_iff, List.any_eq_true]
  simp only [decide_eq_true_eq]

lemma addRow_eq_ok_iff {row : Row} :
    p.addRow row = .ok q ↔ (¬∃ other ∈ p.rows, other.name = row.name) ∧ q = { p with rows := p.rows ++ [row] } := by
  rw [addRow, ite_eq_ok_iff, List.any_eq_true]
  simp only [decide_eq_true_eq]

lemma addColumn_eq_error_iff {column : Column} {strict : Bool} :
    p.addColumn column strict = .error e
      ↔ (strict = true ∧ ∃ other ∈ p.columns, other.name = column.name) ∧ e = .duplicateName "column" column.name := by
  rw [addColumn, ite_eq_error_iff, Bool.and_eq_true, List.any_eq_true]
  simp only [decide_eq_true_eq]

lemma addColumn_eq_ok_iff {column : Column} {strict : Bool} :
    p.addColumn column strict = .ok q ↔ ¬(strict = true ∧ ∃ other ∈ p.columns, other.name = column.name)
      ∧ q = { p with columns := p.columns ++ [column] } := by
  rw [addColumn, ite_eq_ok_iff, Bool.and_eq_true, List.any_eq_true]
  simp only [decide_eq_true_eq]

lemma editRow_eq_error_iff {change : Row → Row} :
    p.editRow name change = .error e ↔ (∀ row ∈ p.rows, row.name ≠ name) ∧ e = noRow name := by
  rw [editRow, found_eq_error_iff, Option.map_eq_none_iff, changeFirst?_eq_none_iff]
  simp only [decide_eq_false_iff_not, ne_eq]

lemma editColumn_eq_error_iff {change : Column → Column} :
    p.editColumn name change = .error e ↔ (∀ column ∈ p.columns, column.name ≠ name) ∧ e = noColumn name := by
  rw [editColumn, found_eq_error_iff, Option.map_eq_none_iff, changeFirst?_eq_none_iff]
  simp only [decide_eq_false_iff_not, ne_eq]

lemma editRow_eq_ok_iff_firstChanged {change : Row → Row} :
    p.editRow name change = .ok q ↔ ∃ rows, q = { p with rows } ∧ FirstChanged Row.name name change p.rows rows := by
  rw [editRow, found_eq_ok_iff, Option.map_eq_some_iff]
  exact exists_congr fun rows => (and_congr changeFirst?_name_eq_some_iff eq_comm).trans and_comm

lemma editColumn_eq_ok_iff_firstChanged {change : Column → Column} :
    p.editColumn name change = .ok q
      ↔ ∃ columns, q = { p with columns } ∧ FirstChanged Column.name name change p.columns columns := by
  rw [editColumn, found_eq_ok_iff, Option.map_eq_some_iff]
  exact exists_congr fun columns => (and_congr changeFirst?_name_eq_some_iff eq_comm).trans and_comm

namespace Operation

variable {op : Operation}

/-- **An operation fails if and only if it is refused.** -/
lemma apply_eq_error_iff : op.apply p = .error e ↔ op.Refused p ∧ e = op.refusal := by
  cases op with
  | addRow row => exact addRow_eq_error_iff
  | addColumn column strict => exact addColumn_eq_error_iff
  | setRowBounds | setRowBoundsExact | editRow => exact editRow_eq_error_iff
  | setColumnBounds | setColumnBoundsExact => exact editColumn_eq_error_iff

/-- **An operation that is not refused does what it is there for, and nothing else.** -/
lemma apply_eq_ok_iff : op.apply p = .ok q ↔ ¬op.Refused p ∧ op.Changes p q := by
  -- what is changed in place is there, so a change in place needs no word about what is refused
  have hplace : (op.apply p = .ok q ↔ op.Changes p q) → (op.apply p = .ok q ↔ ¬op.Refused p ∧ op.Changes p q) := by
    refine fun h => ⟨fun hok => ⟨fun hrefused => ?_, h.mp hok⟩, fun hboth => h.mpr hboth.2⟩
    cases hok.symm.trans (apply_eq_error_iff.mpr ⟨hrefused, rfl⟩)
  cases op with
  | addRow row => exact addRow_eq_ok_iff
  | addColumn column strict => exact addColumn_eq_ok_iff
  | setRowBounds | setRowBoundsExact | editRow => exact hplace editRow_eq_ok_iff_firstChanged
  | setColumnBounds | setColumnBoundsExact => exact hplace editColumn_eq_ok_iff_firstChanged

/-- **An operation that is refused leaves the problem as it was.** -/
lemma after_of_refused (h : op.Refused p) : p.after op = p := by
  rw [after, apply_eq_error_iff.mpr ⟨h, rfl⟩]

lemma after_of_apply (h : op.apply p = .ok q) : p.after op = q := by
  rw [after, h]

end Operation

end Steps

/-! ### Members by their places -/

/-- **The member at a place is the one at the exact sum.** -/
lemma memberAt?_eq_some_iff {α : Type} {members : List α} {idx : ℕ} {offset : ℤ} {a : α} :
    memberAt? members idx offset = some a ↔ ∃ i : ℕ, (i : ℤ) = idx + offset ∧ members[i]? = some a := by
  rw [memberAt?]
  split
  case h_1 i hi =>
      rw [hi]
      exact ⟨fun h => ⟨i, rfl, h⟩, fun ⟨j, hj, h⟩ => Int.ofNat.inj hj ▸ h⟩
  case h_2 i hi =>
      rw [hi]
      exact ⟨fun h => (by cases h), fun ⟨j, hj, _⟩ => (by cases hj)⟩

/-- There is none if and only if the exact sum is no place of the list. -/
lemma memberAt?_eq_none_iff {α : Type} {members : List α} {idx : ℕ} {offset : ℤ} :
    memberAt? members idx offset = none ↔ ¬(0 ≤ idx + offset ∧ idx + offset < members.length) := by
  rw [memberAt?]
  split
  case h_1 i hi =>
      rw [hi, List.getElem?_eq_none_iff, Int.ofNat_eq_natCast]
      omega
  case h_2 i hi =>
      rw [hi]
      exact iff_of_true rfl fun h => absurd h.1 (Int.negSucc_not_nonneg i).mp

/-- The sum of an unsigned and a signed machine word. It is taken modulo `2 ^ 64`, and it is accepted if it wraps
around for a negative offset and does not for another one. -/
def addSigned? (idx : UInt64) (offset : Int64) : Option UInt64 :=
  if idx + offset.toUInt64 < idx ↔ offset < 0 then some (idx + offset.toUInt64) else none

/-- A signed word is the unsigned one with the same bits, less `2 ^ 64` if it is negative. -/
lemma int64_toInt_eq (offset : Int64) :
    offset.toInt = if offset < 0 then (offset.toUInt64.toNat : ℤ) - 2 ^ 64 else (offset.toUInt64.toNat : ℤ) := by
  have hsign : offset < 0 ↔ offset.toBitVec.toInt < 0 := Int64.lt_iff_toInt_lt
  have hbits : (offset.toUInt64.toNat : ℤ) = offset.toBitVec.toNat := rfl
  have hlt : offset.toBitVec.toNat < 2 ^ 64 := offset.toBitVec.isLt
  have hcond : offset.toInt = _ := BitVec.toInt_eq_toNat_cond offset.toBitVec
  have hint : offset.toBitVec.toInt = offset.toInt := rfl
  rw [hbits]
  simp only [hsign]
  split at hcond <;> split <;> omega

/-- **A sum of words that is accepted is the exact one.** -/
lemma addSigned?_eq_some_iff {idx i : UInt64} {offset : Int64} :
    addSigned? idx offset = some i ↔ (i.toNat : ℤ) = idx.toNat + offset.toInt := by
  have hsum : (idx + offset.toUInt64).toNat = (idx.toNat + offset.toUInt64.toNat) % 2 ^ 64 := UInt64.toNat_add _ _
  have hi := i.toNat_lt
  have hidx := idx.toNat_lt
  have hoffset := offset.toUInt64.toNat_lt
  rw [addSigned?, Option.ite_none_right_eq_some, Option.some.injEq, ← UInt64.toNat_inj, UInt64.lt_iff_toNat_lt, hsum,
    int64_toInt_eq]
  by_cases hneg : offset < 0
  · rw [if_pos hneg, iff_true_right hneg]
    omega
  · rw [if_neg hneg, iff_false_right hneg]
    omega

/-- **The sum of words finds the same member**: a list that fits into memory has no place beyond the largest word. -/
lemma memberAt?_of_words {α : Type} {members : List α} (hlength : members.length ≤ 2 ^ 64) (idx : UInt64)
    (offset : Int64) :
    memberAt? members idx.toNat offset.toInt = (addSigned? idx offset).bind fun i => members[i.toNat]? := by
  ext a
  rw [memberAt?_eq_some_iff, Option.bind_eq_some_iff]
  constructor
  · rintro ⟨i, hi, ha⟩
    obtain ⟨hplace, -⟩ := List.getElem?_eq_some_iff.mp ha
    have hword : (UInt64.ofNat i).toNat = i := UInt64.toNat_ofNat_of_lt' (hplace.trans_le hlength)
    refine ⟨UInt64.ofNat i, addSigned?_eq_some_iff.mpr ?_, ?_⟩ <;> rwa [hword]
  · rintro ⟨i, hi, ha⟩
    exact ⟨i.toNat, addSigned?_eq_some_iff.mp hi, ha⟩

/-! ### Histories with strict additions -/

/-- The columns of a problem have different names. -/
def ColumnsApart (p : Problem) : Prop := (p.columns.map Column.name).Nodup

/-- An operation that does not add a column unless its name is new. -/
def Operation.IsStrict : Operation → Prop
  | addColumn _ strict => strict = true
  | _ => True

/-- **A strict operation keeps the names of the columns different.** -/
lemma ColumnsApart.after {p : Problem} (hp : p.ColumnsApart) {op : Operation} (hop : op.IsStrict) :
    (p.after op).ColumnsApart := by
  cases happly : op.apply p with
  | error e =>
      rw [Operation.after_of_refused (Operation.apply_eq_error_iff.mp happly).1]
      exact hp
  | ok q =>
      rw [Operation.after_of_apply happly]
      obtain ⟨haccepted, hchanges⟩ := Operation.apply_eq_ok_iff.mp happly
      cases op with
      | addRow row =>
          obtain rfl := hchanges
          exact hp
      | addColumn column strict =>
          obtain rfl := hchanges
          rw [ColumnsApart, List.map_append, List.map_singleton, List.nodup_append]
          refine ⟨hp, List.nodup_singleton _, fun name hname other hother heq => haccepted ⟨hop, ?_⟩⟩
          obtain ⟨taker, htaker, rfl⟩ := List.mem_map.mp hname
          exact ⟨taker, htaker, heq.trans (List.mem_singleton.mp hother)⟩
      | setRowBounds | setRowBoundsExact | editRow =>
          obtain ⟨rows, rfl, -⟩ := hchanges
          exact hp
      | setColumnBounds | setColumnBoundsExact =>
          obtain ⟨columns, rfl, hcolumns⟩ := hchanges
          rw [ColumnsApart, hcolumns.map_name fun _ => rfl]
          exact hp

/-- The problem after operations, beginning with one that has neither columns nor rows. -/
def built (name : String) (direction : Direction) (ops : List Operation) : Problem :=
  ops.foldl after (new name direction)

/-- **A history of strict operations keeps the names of the columns different.** -/
lemma ColumnsApart.foldl_after {p : Problem} (hp : p.ColumnsApart) {ops : List Operation}
    (hops : ∀ op ∈ ops, op.IsStrict) : (ops.foldl Problem.after p).ColumnsApart := by
  induction ops generalizing p with
  | nil => exact hp
  | cons op ops ih =>
      obtain ⟨hop, hrest⟩ := List.forall_mem_cons.mp hops
      exact ih (hp.after hop) hrest

lemma columnsApart_built (name : String) (direction : Direction) {ops : List Operation}
    (hops : ∀ op ∈ ops, op.IsStrict) : (built name direction ops).ColumnsApart := by
  have hnew : (new name direction).ColumnsApart := List.nodup_nil
  exact hnew.foldl_after hops

/-- Among columns with different names, every column is found by its name. -/
lemma ColumnsApart.columnNamed {p : Problem} (hp : p.ColumnsApart) {column : Column} (hcolumn : column ∈ p.columns) :
    p.columnNamed column.name = .ok column :=
  found_eq_ok_iff.mpr (find?_name_eq_some hp hcolumn)

lemma columnAt_zero {p : Problem} {i : ℕ} {column : Column} (h : p.columns[i]? = some column) :
    p.columnAt i 0 = .ok column :=
  found_eq_ok_iff.mpr (memberAt?_eq_some_iff.mpr ⟨i, (add_zero _).symm, h⟩)

/-- **Operations are local and look-ups agree.** An operation that is refused leaves the problem as it was, and any
other does what it is there for and nothing else. The member at a place is the one at the exact sum, and there is none
if the sum is outside of the list; adding machine words, whatever they are, makes no difference. If columns are only
added strictly, then they have different names, and the name of the column at a place leads back to it. -/
theorem operations_local :
    (∀ (p : Problem) (op : Operation) e, op.apply p = .error e ↔ op.Refused p ∧ e = op.refusal)
      ∧ (∀ (p q : Problem) (op : Operation), op.apply p = .ok q ↔ ¬op.Refused p ∧ op.Changes p q)
      ∧ (∀ (p : Problem) (op : Operation),
        op.Refused p ∧ p.after op = p ∨ ¬op.Refused p ∧ op.Changes p (p.after op))
      ∧ (∀ (p : Problem) (idx : ℕ) (offset : ℤ),
        (∀ row, p.rowAt idx offset = .ok row ↔ ∃ i : ℕ, (i : ℤ) = idx + offset ∧ p.rows[i]? = some row)
          ∧ (∀ column, p.columnAt idx offset = .ok column
            ↔ ∃ i : ℕ, (i : ℤ) = idx + offset ∧ p.columns[i]? = some column)
          ∧ (∀ e, p.rowAt idx offset = .error e
            ↔ ¬(0 ≤ idx + offset ∧ idx + offset < p.rows.length) ∧ e = .notFound "row" s!"#{idx} (offset {offset})")
          ∧ ∀ e, p.columnAt idx offset = .error e
            ↔ ¬(0 ≤ idx + offset ∧ idx + offset < p.columns.length)
              ∧ e = .notFound "column" s!"#{idx} (offset {offset})")
      ∧ (∀ (p : Problem) (idx : UInt64) (offset : Int64), p.rows.length ≤ 2 ^ 64 → p.columns.length ≤ 2 ^ 64 →
        p.rowAt idx.toNat offset.toInt
            = found (.notFound "row" s!"#{idx.toNat} (offset {offset.toInt})")
              ((addSigned? idx offset).bind fun i => p.rows[i.toNat]?)
          ∧ p.columnAt idx.toNat offset.toInt
            = found (.notFound "column" s!"#{idx.toNat} (offset {offset.toInt})")
              ((addSigned? idx offset).bind fun i => p.columns[i.toNat]?))
      ∧ ∀ name direction ops, (∀ op ∈ ops, op.IsStrict) →
        ((built name direction ops).columns.map Column.name).Nodup
          ∧ ∀ i column, (built name direction ops).columns[i]? = some column →
            (built name direction ops).columnAt i 0 = .ok column
              ∧ (built name direction ops).columnNamed column.name = .ok column := by
  refine ⟨fun p op e => Operation.apply_eq_error_iff, fun p q op => Operation.apply_eq_ok_iff, ?_, ?_, ?_, ?_⟩
  · intro p op
    cases happly : op.apply p with
    | error e =>
        have hrefused := (Operation.apply_eq_error_iff.mp happly).1
        exact .inl ⟨hrefused, Operation.after_of_refused hrefused⟩
    | ok q =>
        rw [Operation.after_of_apply happly]
        exact .inr (Operation.apply_eq_ok_iff.mp happly)
  · intro p idx offset
    refine ⟨fun row => ?_, fun column => ?_, fun e => ?_, fun e => ?_⟩
    · rw [rowAt, found_eq_ok_iff, memberAt?_eq_some_iff]
    · rw [columnAt, found_eq_ok_iff, memberAt?_eq_some_iff]
    · rw [rowAt, found_eq_error_iff, memberAt?_eq_none_iff, noRow, placeName]
    · rw [columnAt, found_eq_error_iff, memberAt?_eq_none_iff, noColumn, placeName]
  · intro p idx offset hrows hcolumns
    rw [rowAt, columnAt, memberAt?_of_words hrows, memberAt?_of_words hcolumns]
    exact ⟨rfl, rfl⟩
  · intro name direction ops hops
    have hapart := columnsApart_built name direction hops
    refine ⟨hapart, fun i column hcolumn => ⟨columnAt_zero hcolumn, hapart.columnNamed ?_⟩⟩
    exact List.mem_of_getElem? hcolumn

/-- Columns that are added strictly, one of them under a name that is taken, and other bounds for the last one. -/
def strictColumns : List Operation :=
  [.addColumn (.new "x0" .free .one) true, .addColumn (.new "x0" (.lower .one) .one) true,
   .addColumn (.new "x1" .free .one) true, .setColumnBoundsExact "x1" .one]

theorem operations_local_strictColumns :
    (built "p" .minimize strictColumns).columnAt 1 0 = .ok (.new "x1" (.exact .one) .one)
      ∧ (built "p" .minimize strictColumns).columnNamed "x1" = .ok (.new "x1" (.exact .one) .one) := by
  obtain ⟨-, -, -, -, -, hstrict⟩ := operations_local
  have hops : ∀ op ∈ strictColumns, op.IsStrict := by
    simp [strictColumns, Operation.IsStrict]
  exact (hstrict "p" .minimize strictColumns hops).2 1 _ (by decide +kernel)

end Problem

end LinearProgram
