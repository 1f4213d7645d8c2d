import LinearProgram.Journal
import LinearProgram.Number.Natural
import LinearProgram.Number.Shortest
import LinearProgram.Status

/-!
Solutions: what every solver's report comes down to.

* `Assignment`: values of columns, sorted by name, one for each name. `Assignment.put` sets one,
  `Assignment.get?` looks one up.
* `Solution`: an assignment with the objective, the status and three counts.
* `Solution.columnValue`: the value of a column, zero if none is reported.
* `Solution.report`: the text in which a solution is kept.
-/

namespace LinearProgram

/-! ### Values of columns -/

/-- Set the value of a name in a list sorted by name. -/
def putSorted {α : Type} (name : String) (value : α) : List (String × α) → List (String × α)
  | [] => [(name, value)]
  | e :: es =>
    if name < e.1 then (name, value) :: e :: es
    else if name = e.1 then (name, value) :: es
    else e :: putSorted name value es

/-- Only the name that is set is added to the names. -/
theorem fst_mem_putSorted {α : Type} {name : String} {value : α} {es : List (String × α)}
    {e : String × α} (h : e ∈ putSorted name value es) : e.1 = name ∨ e ∈ es := by
  induction es with
  | nil => simp only [putSorted, List.mem_singleton] at h; simp [h]
  | cons d ds ih =>
    unfold putSorted at h
    split at h
    · rcases List.mem_cons.1 h with rfl | h
      · exact .inl rfl
      · exact .inr h
    · split at h
      · rcases List.mem_cons.1 h with rfl | h
        · exact .inl rfl
        · exact .inr (List.mem_cons_of_mem _ h)
      · rcases List.mem_cons.1 h with rfl | h
        · exact .inr List.mem_cons_self
        · exact (ih h).imp id (List.mem_cons_of_mem _)

/-- Setting a value keeps a list sorted by name. -/
theorem sorted_putSorted {α : Type} {name : String} {value : α} {es : List (String × α)}
    (h : es.Pairwise fun a b => a.1 < b.1) :
    (putSorted name value es).Pairwise fun a b => a.1 < b.1 := by
  induction es with
  | nil => simp [putSorted]
  | cons d ds ih =>
    obtain ⟨hd, hds⟩ := List.pairwise_cons.1 h
    unfold putSorted
    split
    · next hlt =>
      refine List.pairwise_cons.2 ⟨fun e he => ?_, h⟩
      rcases List.mem_cons.1 he with rfl | he
      · exact hlt
      · exact String.lt_trans hlt (hd e he)
    · next hnlt =>
      split
      · next heq =>
        exact List.pairwise_cons.2 ⟨fun e he => by simpa [heq] using hd e he, hds⟩
      · next hne =>
        have hlt : d.1 < name := Std.lt_of_le_of_ne (String.not_lt.1 hnlt) (Ne.symm hne)
        refine List.pairwise_cons.2 ⟨fun e he => ?_, ih hds⟩
        rcases fst_mem_putSorted he with h' | h'
        · exact h' ▸ hlt
        · exact hd e h'

/-- Values of columns, sorted by name. The order of names is that of their code points, which is also the
order of their UTF-8 bytes. -/
structure Assignment where
  entries : List (String × Binary64)
  sorted : entries.Pairwise fun a b => a.1 < b.1
  deriving DecidableEq

namespace Assignment

/-- No values. -/
def empty : Assignment := ⟨[], .nil⟩

instance : Inhabited Assignment := ⟨empty⟩

/-- Set the value of a column. -/
def put (a : Assignment) (name : String) (value : Binary64) : Assignment :=
  ⟨putSorted name value a.entries, sorted_putSorted a.sorted⟩

/-- The value of a column. -/
def get? (a : Assignment) (name : String) : Option Binary64 := a.entries.lookup name

/-- Whether two assignments give equal numbers to the same names. -/
def equals (a b : Assignment) : Bool :=
  a.entries.length = b.entries.length
    && (a.entries.zip b.entries).all fun (x, y) => x.1 = y.1 && x.2.equals y.2

end Assignment

/-! ### Solutions -/

/-- The result of a solver run. A column that is not listed has the value zero. -/
structure Solution where
  values : Assignment
  objective : Binary64
  status : Status
  rowCount : Nat
  columnCount : Nat
  nonzeroCount : Nat
  deriving DecidableEq

namespace Solution

/-- The solution before any run. -/
def none : Solution := ⟨.empty, .zero, .unknown, 0, 0, 0⟩

instance : Inhabited Solution := ⟨none⟩

/-- The solution with the value of one column set. -/
def assign (s : Solution) (name : String) (value : Binary64) : Solution :=
  { s with values := s.values.put name value }

/-- The value of a column, zero if it is not listed, which the journal then says. -/
def columnValue (s : Solution) (name : String) : Logged Binary64 :=
  match s.values.get? name with
  | some value => .silent value
  | Option.none =>
    ⟨.zero, [.debug s!"no value reported for column '{name}', defaulting to 0.0"]⟩

/-- Whether two solutions agree, numbers being compared as numbers. -/
def equals (s t : Solution) : Bool :=
  s.values.equals t.values && s.objective.equals t.objective && s.status = t.status
    && s.rowCount = t.rowCount && s.columnCount = t.columnCount && s.nonzeroCount = t.nonzeroCount

/-! ### The kept form -/

/-- A text behind as many blanks as it lacks of the given width. -/
def padLeft (width : Nat) (s : List Char) : List Char :=
  List.replicate (width - s.length) ' ' ++ s

/-- The line of the table for one column. -/
def activityChars (e : String × Binary64) : List Char :=
  padLeft 10 e.1.toList ++ ' ' :: padLeft 10 e.2.chars ++ ['\n']

/-- The lines before the values: counts, status, objective, and the heading of the table. -/
def headingChars (s : Solution) : List Char :=
  "Rows:       ".toList ++ (Decimal.digitChars s.rowCount) ++ ['\n']
    ++ "Columns:    ".toList ++ (Decimal.digitChars s.columnCount) ++ ['\n']
    ++ "Non-zeros:  ".toList ++ (Decimal.digitChars s.nonzeroCount) ++ ['\n']
    ++ "Status:     ".toList ++ s.status.name.toList ++ ['\n']
    ++ "Objective:  ".toList ++ s.objective.chars ++ ['\n']
    ++ ['\n']
    ++ "Column      Activity\n".toList

/-- The text in which a solution is kept. -/
def reportChars (s : Solution) : List Char :=
  s.headingChars ++ s.values.entries.flatMap activityChars

/-- The text in which a solution is kept, as a string. -/
def report (s : Solution) : String := String.ofList s.reportChars

end Solution

end LinearProgram
