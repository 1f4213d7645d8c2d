import LinearProgram.Proofs.LpText.Written
import LinearProgram.Proofs.Number.Truncation

/-!
Which problems have an LP text.

Only exact bounds can be in the way of a text: their value has to be one finite number within the written integers. It
is compared with both ends of these strictly, so that the least and the greatest integer are refused with it.

* `Bounds.IsUnwritable`, `Bounds.IsAtEnd`, `Bounds.IsRefused`: exact bounds that cannot be written, those at an end of
  the integers, and both.
* `isWritableExactly_eq_false_iff`: which values are refused.
* `Bounds.exactFault?_eq`: which bounds are refused, and with which complaint.
* `Problem.bounded`: the rows and then the columns of a problem, by name, with their bounds.
* `Problem.writabilityFault?_eq`: the first of them that is refused is the fault of the problem.
* `Problem.lpText_value_iff`: **a problem has a text if and only if none of its bounds is refused, and the error is
  about the first that is.**
* `Problem.FailsAsDescribed`, `Problem.not_failsAsDescribed_ends`: values at the ends of the integers could be written.
-/

namespace LinearProgram

namespace Bounds

/-- Whether bounds are exact bounds that cannot be written: their value is not finite, lies outside the written
integers, or is not one value. -/
def IsUnwritable (b : Bounds) : Prop :=
  b.kind = .exact
    ∧ (b.min.isFinite = false ∨ b.min.Below leastInteger ∨ b.min.Above greatestInteger ∨ b.min.equals b.max = false)

/-- Whether bounds are exact bounds at an end of the written integers. -/
def IsAtEnd (b : Bounds) : Prop := b.kind = .exact ∧ (b.min.IsInt leastInteger ∨ b.min.IsInt greatestInteger)

/-- Whether bounds are refused. -/
def IsRefused (b : Bounds) : Prop := b.IsUnwritable ∨ b.IsAtEnd

instance : DecidablePred IsUnwritable := fun _ => inferInstanceAs (Decidable (_ ∧ _))

instance : DecidablePred IsAtEnd := fun _ => inferInstanceAs (Decidable (_ ∧ _))

instance : DecidablePred IsRefused := fun _ => inferInstanceAs (Decidable (_ ∨ _))

/-- What is wrong with bounds that are refused. The value is looked at before the two ends are compared. -/
def complaint (b : Bounds) : BoundsFault :=
  if isWritableExactly b.min then .differing b.min b.max else .unwritable b.min

end Bounds

/-! ### Bounds -/

/-- A value is refused if it is not finite, outside the integers, or at an end of them. -/
lemma isWritableExactly_eq_false_iff (x : Binary64) :
    isWritableExactly x = false
      ↔ (x.isFinite = false ∨ x.Below leastInteger ∨ x.Above greatestInteger)
        ∨ x.IsInt leastInteger ∨ x.IsInt greatestInteger := by
  cases hfinite : x.isFinite with
  | false =>
      refine iff_of_true ?_ (.inl (.inl rfl))
      rw [← Bool.not_eq_true]
      exact fun h => Bool.noConfusion (hfinite.symm.trans (isFinite_of_isWritableExactly h))
  | true =>
      have hint : ∀ n : ℤ, x.IsInt n ↔ x.toRat = n := fun n => ⟨fun h => h.toRat, fun h => ⟨hfinite, h⟩⟩
      rw [← Bool.not_eq_true, isWritableExactly, Bool.and_eq_true, Binary64.less_iff_above Binary64.isInt_leastInteger,
        Binary64.less_iff_below Binary64.isInt_greatestInteger, Binary64.above_iff hfinite, Binary64.below_iff hfinite,
        Binary64.above_iff hfinite, Binary64.below_iff hfinite, hint, hint, not_and_or, not_lt, not_lt, le_iff_lt_or_eq,
        le_iff_lt_or_eq]
      tauto

namespace Bounds

/-- **Bounds have a fault if and only if they are refused**, and that is the complaint about them. -/
lemma exactFault?_eq (b : Bounds) : b.exactFault? = if b.IsRefused then some b.complaint else none := by
  rw [exactFault?, complaint]
  by_cases hkind : b.kind = .exact
  · have hrefused : b.IsRefused ↔ isWritableExactly b.min = false ∨ b.min.equals b.max = false := by
      rw [isWritableExactly_eq_false_iff, IsRefused, IsUnwritable, IsAtEnd]
      tauto
    simp only [if_pos hkind, hrefused]
    cases isWritableExactly b.min <;> cases b.min.equals b.max <;> rfl
  · rw [if_neg hkind, if_neg]
    rintro (⟨hexact, -⟩ | ⟨hexact, -⟩) <;> exact hkind hexact

end Bounds

/-! ### Problems -/

namespace Problem

/-- What has bounds in a problem, with its name: the rows, and then the columns. -/
def bounded (p : Problem) : List (String × Bounds) :=
  p.rows.map (fun row => (row.name, row.bounds)) ++ p.columns.map fun column => (column.name, column.bounds)

/-- The first fault of some bounds is the complaint about the first of them that are refused. -/
lemma findSome?_exactFault? (ms : List (String × Bounds)) :
    (ms.findSome? fun m => m.2.exactFault?.map fun fault => Error.invalidBounds m.1 fault.message)
      = (ms.find? fun m => m.2.IsRefused).map fun m => .invalidBounds m.1 m.2.complaint.message := by
  induction ms with
  | nil => rfl
  | cons m ms ih =>
      rw [List.findSome?_cons, List.find?_cons, ih, Bounds.exactFault?_eq]
      by_cases hrefused : m.2.IsRefused <;> simp [hrefused]

/-- **The fault of a problem is the complaint about the first bounds that are refused.** -/
lemma writabilityFault?_eq (p : Problem) :
    p.writabilityFault?
      = (p.bounded.find? fun m => m.2.IsRefused).map fun m => .invalidBounds m.1 m.2.complaint.message := by
  rw [← findSome?_exactFault?, bounded, List.findSome?_append, List.findSome?_map, List.findSome?_map,
    writabilityFault?, Option.orElse_eq_orElse, Option.orElse_eq_or]
  rfl

/-- **A problem has a text if and only if none of its bounds is refused**, that is, none of its exact bounds is
unwritable or at an end of the integers; its other bounds and its coefficients may be anything. Otherwise the error is
about the first row with such bounds, or about the first such column if there is no such row. -/
theorem lpText_value_iff (p : Problem) (width : ℕ) :
    ((∃ text, (p.lpText width).value = .ok text) ↔ ∀ m ∈ p.bounded, ¬m.2.IsRefused)
      ∧ ∀ e, (p.lpText width).value = .error e
        ↔ ∃ name bounds, p.bounded.find? (fun m => m.2.IsRefused) = some (name, bounds)
          ∧ e = .invalidBounds name bounds.complaint.message := by
  rw [lpText, document, writabilityFault?_eq]
  cases hfirst : p.bounded.find? fun m => m.2.IsRefused with
  | none =>
      have hnone : ∀ m ∈ p.bounded, ¬m.2.IsRefused := by simpa using List.find?_eq_none.mp hfirst
      exact ⟨iff_of_true ⟨_, rfl⟩ hnone, fun e => by simp⟩
  | some m =>
      have hmem := List.mem_of_find?_eq_some hfirst
      have hrefused : m.2.IsRefused := by simpa using List.find?_some hfirst
      refine ⟨iff_of_false (by simp) fun hnone => hnone m hmem hrefused, fun e => ?_⟩
      constructor
      · intro he
        exact ⟨m.1, m.2, rfl, (Except.error.inj he).symm⟩
      · rintro ⟨name, bounds, hm, rfl⟩
        rw [Option.some.inj hm]
        rfl

/-- Whether a problem has no text exactly if some of its bounds are exact and cannot be written. -/
def FailsAsDescribed (p : Problem) (width : ℕ) : Prop :=
  (∃ e, (p.lpText width).value = .error e) ↔ ∃ m ∈ p.bounded, m.2.IsUnwritable

/-- **Values at the ends of the integers are refused**, although they could be written: `2147483647` in a row, and
`-2147483648` in a column. -/
theorem not_failsAsDescribed_ends :
    ((ofBounds (.exact (.ofInt greatestInteger)) .free).lpText 0).value
        = .error (.invalidBounds "r0" "exact bound 2147483647 is +/- infinity")
      ∧ ¬(ofBounds (.exact (.ofInt greatestInteger)) .free).FailsAsDescribed 0
      ∧ ((ofBounds .free (.exact (.ofInt leastInteger))).lpText 0).value
        = .error (.invalidBounds "x0" "exact bound -2147483648 is +/- infinity")
      ∧ ¬(ofBounds .free (.exact (.ofInt leastInteger))).FailsAsDescribed 0 := by
  have hrow : ((ofBounds (.exact (.ofInt greatestInteger)) .free).lpText 0).value
      = .error (.invalidBounds "r0" "exact bound 2147483647 is +/- infinity") := by decide +kernel
  have hcolumn : ((ofBounds .free (.exact (.ofInt leastInteger))).lpText 0).value
      = .error (.invalidBounds "x0" "exact bound -2147483648 is +/- infinity") := by decide +kernel
  have hgreatest : ¬∃ m ∈ (ofBounds (.exact (.ofInt greatestInteger)) .free).bounded, m.2.IsUnwritable := by
    decide +kernel
  have hleast : ¬∃ m ∈ (ofBounds .free (.exact (.ofInt leastInteger))).bounded, m.2.IsUnwritable := by
    decide +kernel
  exact ⟨hrow, fun h => hgreatest (h.mp ⟨_, hrow⟩), hcolumn, fun h => hleast (h.mp ⟨_, hcolumn⟩)⟩

end Problem

end LinearProgram
