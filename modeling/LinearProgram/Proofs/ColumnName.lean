import LinearProgram.Proofs.LpText.Written
import LinearProgram.Proofs.Report.Listing
import LinearProgram.Solver.CommandLine

/-!
Column names and column indices.

Any number of digits may stand behind the letter of a column name, so an index has many names: all that write it with
zeros in front. They are read digit by digit, and the first digit that passes the largest index is refused; what has
been read only grows, so the value as a whole decides. Among the names of an index one has no spare zero, and that is
the one by which the value of a column is found.

* `Spells`, `HasSpareZero`: which index a name spells, and whether it could do with fewer digits.
* `columnIndex_of_spells`, `columnIndex_of_not_isColumnName`: **what becomes of every name.**
* `spells_columnName`, `eq_columnName_of_spells`: **the name of an index is the one that spells it without a spare
  zero.**
* `Assignment.get?_eq_some_iff`: the value of a name is the one that is listed with it.
* `columnNames_faithful`: **names are read as the indices that they spell**, the name of an index is read back, and it
  is the one name whose value is found by that index.
-/

namespace LinearProgram

/-! ### Names and what they spell -/

/-- A name spells an index: behind the letter `x` stand digits, at least one, and the index is their decimal value. -/
def Spells (name : String) (index : ℕ) : Prop :=
  ∃ ds, ds ≠ [] ∧ (∀ c ∈ ds, isDigit c = true) ∧ name.toList = 'x' :: ds ∧ valueOfDigits ds = index

/-- A name has a zero in front of its other digits. -/
def HasSpareZero (name : String) : Prop := ∃ cs, cs ≠ [] ∧ name.toList = 'x' :: '0' :: cs

lemma isColumnName_iff_exists_spells {name : String} : IsColumnName name ↔ ∃ index, Spells name index := by
  constructor
  · rintro ⟨ds, hne, hds, hname⟩
    exact ⟨valueOfDigits ds, ds, hne, hds, hname, rfl⟩
  · rintro ⟨index, ds, hne, hds, hname, -⟩
    exact ⟨ds, hne, hds, hname⟩

/-- A name spells one index. -/
lemma Spells.unique {name : String} {i j : ℕ} (hi : Spells name i) (hj : Spells name j) : i = j := by
  obtain ⟨ds, -, -, hname, rfl⟩ := hi
  obtain ⟨es, -, -, hname', rfl⟩ := hj
  rw [(List.cons.inj (hname.symm.trans hname')).2]

lemma columnName_toList (index : ℕ) : (columnName index).toList = 'x' :: Decimal.digitChars index := by
  rw [columnName, String.toList_ofList]

lemma columnName_injective : Function.Injective columnName := by
  intro i j h
  have hlist := congrArg String.toList h
  rw [columnName_toList, columnName_toList] at hlist
  exact Decimal.digitChars_injective (List.cons.inj hlist).2

lemma spells_columnName (index : ℕ) : Spells (columnName index) index :=
  ⟨Decimal.digitChars index, Decimal.digitChars_ne_nil index, fun _ hc => Decimal.isDigit_of_mem_digitChars hc,
    columnName_toList index, Decimal.valueOfDigits_digitChars index⟩

lemma not_hasSpareZero_columnName (index : ℕ) : ¬HasSpareZero (columnName index) := by
  rintro ⟨cs, hne, hname⟩
  rw [columnName_toList] at hname
  exact hne (Decimal.eq_nil_of_digitChars_eq_zero_cons (List.cons.inj hname).2)

/-- **The name of an index is the only one that spells it without a spare zero.** -/
lemma eq_columnName_of_spells {name : String} {index : ℕ} (h : Spells name index) (hzero : ¬HasSpareZero name) :
    name = columnName index := by
  obtain ⟨ds, hne, hds, hname, rfl⟩ := h
  have hfront : ∀ cs, ds = '0' :: cs → cs = [] := by
    rintro cs rfl
    by_contra hcs
    exact hzero ⟨cs, hcs, hname⟩
  rw [columnName, Decimal.digitChars_valueOfDigits hne hds hfront, ← hname, String.ofList_toList]

/-! ### Reading names -/

/-- **A name is read as the index that it spells, unless that is too large.** -/
lemma columnIndex_of_spells {name : String} {index : ℕ} (h : Spells name index) :
    columnIndex name = if index ≤ maxIndex then .ok index else .error (badColumnName name NumberFault.tooLarge.message) := by
  obtain ⟨ds, hne, hds, hname, rfl⟩ := h
  obtain ⟨c, cs, rfl⟩ := List.exists_cons_of_ne_nil hne
  have hall : (c :: cs).all isDigit = true := List.all_eq_true.mpr hds
  have hread : columnIndex name
      = (readDigits maxIndex 0 (c :: cs)).mapError fun fault => badColumnName name fault.message := by
    rw [columnIndex, hname]
    exact if_pos hall
  rw [hread]
  split
  case isTrue hle =>
      rw [readDigits_eq hds 0 hle]
      rfl
  case isFalse hlarge =>
      rw [readDigits_eq_tooLarge hds (Nat.zero_le _) (not_le.mp hlarge)]
      rfl

/-- **What spells no index is refused.** -/
lemma columnIndex_of_not_isColumnName {name : String} (h : ¬IsColumnName name) :
    columnIndex name = .error (badColumnName name "expected 'x' followed by a column index") := by
  rw [columnIndex]
  split
  case h_1 c cs hname =>
      refine if_neg fun hall => h ?_
      exact ⟨c :: cs, List.cons_ne_nil c cs, fun d hd => List.all_eq_true.mp hall d hd, hname⟩
  case h_2 => rfl

/-- A name is read as an index if and only if it spells it and the index is not too large. -/
lemma columnIndex_eq_ok_iff {name : String} {index : ℕ} :
    columnIndex name = .ok index ↔ Spells name index ∧ index ≤ maxIndex := by
  constructor
  · intro h
    by_cases hname : IsColumnName name
    · obtain ⟨spelled, hspells⟩ := isColumnName_iff_exists_spells.mp hname
      rw [columnIndex_of_spells hspells] at h
      split at h
      case isTrue hle =>
          obtain rfl := Except.ok.inj h
          exact ⟨hspells, hle⟩
      case isFalse => cases h
    · rw [columnIndex_of_not_isColumnName hname] at h
      cases h
  · rintro ⟨hspells, hle⟩
    rw [columnIndex_of_spells hspells, if_pos hle]

/-! ### Values by name and by index -/

/-- The value of a name is the one that is listed with it. -/
lemma Assignment.get?_eq_some_iff {a : Assignment} {name : String} {value : Binary64} :
    a.get? name = some value ↔ (name, value) ∈ a.entries := by
  rw [get?, List.lookup_eq_some_iff]
  constructor
  · rintro ⟨before, after, heq, -⟩
    rw [heq]
    exact List.mem_append_right before List.mem_cons_self
  · intro hmem
    obtain ⟨before, after, heq⟩ := List.append_of_mem hmem
    have hsorted := a.sorted
    rw [heq, List.pairwise_append] at hsorted
    refine ⟨before, after, heq, fun e he => ?_⟩
    have hlt : e.1 < name := hsorted.2.2 e he _ List.mem_cons_self
    simpa using Ne.symm (Std.ne_of_lt hlt)

namespace CommandSolver

variable {s : CommandSolver}

/-- The value of a column of an index is that of its name in the solution. -/
lemma variableValueAt_eq (index : ℕ) :
    Backend.variableValueAt s index = (s.solution.columnValue (columnName index)).map .ok := rfl

/-- **The value found by an index is the one that is listed with its name**, and zero if there is none. -/
lemma variableValueAt_eq_ok_iff {index : ℕ} {value : Binary64} :
    (Backend.variableValueAt s index).value = .ok value
      ↔ (columnName index, value) ∈ s.solution.values.entries
        ∨ (∀ v, (columnName index, v) ∉ s.solution.values.entries) ∧ value = .zero := by
  have hvalue : (Backend.variableValueAt s index).value = .ok (s.solution.columnValue (columnName index)).value := rfl
  rw [hvalue, Except.ok.injEq, Solution.columnValue]
  cases hget : s.solution.values.get? (columnName index) with
  | some listed =>
      have hlisted := Assignment.get?_eq_some_iff.mp hget
      constructor
      · rintro rfl
        exact .inl hlisted
      · rintro (hmem | ⟨hnone, -⟩)
        · exact Option.some.inj (hget.symm.trans (Assignment.get?_eq_some_iff.mpr hmem))
        · exact absurd hlisted (hnone listed)
  | none =>
      have hnone : ∀ v, (columnName index, v) ∉ s.solution.values.entries := by
        intro v hmem
        cases hget.symm.trans (Assignment.get?_eq_some_iff.mpr hmem)
      constructor
      · rintro rfl
        exact .inr ⟨hnone, rfl⟩
      · rintro (hmem | ⟨-, rfl⟩)
        · exact absurd hmem (hnone value)
        · rfl

/-- **A value that is reported for a name is found by the index of that name, and by no other.** -/
lemma variableValueAt_assign (name : String) (value : Binary64) (index : ℕ) :
    Backend.variableValueAt { s with solution := s.solution.assign name value } index
      = if name = columnName index then .silent (.ok value) else Backend.variableValueAt s index := by
  rw [variableValueAt_eq, variableValueAt_eq, Solution.columnValue, Solution.columnValue, Solution.assign,
    Assignment.get?_put]
  by_cases hname : name = columnName index
  · rw [if_pos hname, if_pos hname.symm]
    rfl
  · rw [if_neg hname, if_neg (Ne.symm hname)]

end CommandSolver

/-- **Names and indices belong together.** A name is read as an index if and only if it spells it and the index is at
most `4294967295`; otherwise the error repeats the name. Every index has one accepted name without a spare zero, so no
two indices share it. Every backend answers for an index as for that name, and so one finds the value that is reported
under it. -/
theorem columnNames_faithful :
    (∀ name index, columnIndex name = .ok index ↔ Spells name index ∧ index ≤ 4294967295)
      ∧ (∀ name index, Spells name index → 4294967295 < index →
        columnIndex name = .error (.parse "column name" 0 name "number too large to fit in target type"))
      ∧ (∀ name, (∀ index, ¬Spells name index) →
        columnIndex name = .error (.parse "column name" 0 name "expected 'x' followed by a column index"))
      ∧ (∀ (index : UInt32) name, columnIndex name = .ok index.toNat ∧ ¬HasSpareZero name ↔ name = columnName index.toNat)
      ∧ (∀ i j, columnName i = columnName j → i = j)
      ∧ (∀ {β : Type} [Backend β] (b : β) index,
        Backend.variableValueAt b index = Backend.variableValue b (columnName index))
      ∧ (∀ (s : CommandSolver) index value, (Backend.variableValueAt s index).value = .ok value
        ↔ (columnName index, value) ∈ s.solution.values.entries
          ∨ (∀ v, (columnName index, v) ∉ s.solution.values.entries) ∧ value = .zero)
      ∧ ∀ (s : CommandSolver) name value index,
        Backend.variableValueAt { s with solution := s.solution.assign name value } index
          = if name = columnName index then .silent (.ok value) else Backend.variableValueAt s index := by
  refine ⟨fun name index => columnIndex_eq_ok_iff, ?_, ?_, ?_, fun i j h => columnName_injective h,
    fun b index => rfl, fun s index value => CommandSolver.variableValueAt_eq_ok_iff,
    fun s name value index => CommandSolver.variableValueAt_assign name value index⟩
  · intro name index hspells hlarge
    have hover : ¬index ≤ maxIndex := not_le.mpr hlarge
    rw [columnIndex_of_spells hspells, if_neg hover]
    rfl
  · intro name hnone
    refine columnIndex_of_not_isColumnName fun hname => ?_
    obtain ⟨index, hspells⟩ := isColumnName_iff_exists_spells.mp hname
    exact hnone index hspells
  · intro index name
    constructor
    · rintro ⟨hread, hzero⟩
      exact eq_columnName_of_spells (columnIndex_eq_ok_iff.mp hread).1 hzero
    · rintro rfl
      have hle : index.toNat ≤ maxIndex := Nat.le_of_lt_succ index.toNat_lt
      exact ⟨columnIndex_eq_ok_iff.mpr ⟨spells_columnName _, hle⟩, not_hasSpareZero_columnName _⟩

theorem columnNames_faithful_beyondLargest :
    Spells "x04294967296" 4294967296
      ∧ columnIndex "x04294967296"
        = .error (.parse "column name" 0 "x04294967296" "number too large to fit in target type") := by
  have hdigits : ("04294967296".toList.all isDigit) = true := by decide +kernel
  have hspells : Spells "x04294967296" 4294967296 :=
    ⟨"04294967296".toList, by decide, List.all_eq_true.mp hdigits, by decide +kernel, by decide +kernel⟩
  exact ⟨hspells, columnNames_faithful.2.1 "x04294967296" 4294967296 hspells (by decide)⟩

end LinearProgram
