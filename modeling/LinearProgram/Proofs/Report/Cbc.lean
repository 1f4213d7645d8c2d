import LinearProgram.Proofs.Report.Account
import LinearProgram.Proofs.Text.Lower
import LinearProgram.Report.Cbc
import Mathlib.Data.List.TakeWhile

/-!
What is accepted as a report of cbc, and what is read from it.

* `headed`, `IsHeaded`: the first line that is not blank, and the lines behind it.
* `outcomes`, `statusOf`: the statuses, by the words that a header begins with.
* `SaysObjective`, `GivesObjective`: where a header gives the objective; `objective?_eq_some_iff`: the place that is
  looked up in the lower-case header is the first one, and it is the same in the header itself.
* `listed?`, `columns`: the columns behind the header.
* `known`, `Accepts`: what is known behind some lines, and which lines are accepted; `step_eq_ok_iff`: a line leads to
  what is known behind it exactly if it is accepted.
* `account`: the account of the reader.
* `read_grammar`: **a text is accepted exactly if it has a header that gives an objective and spells its columns**, and
  what is read is what these say.
-/

namespace LinearProgram

namespace CbcReport

/-! ### The header -/

/-- A report from its first line that is not blank. -/
def headed (lines : List (List String)) : List (List String) := lines.dropWhile List.isEmpty

/-- The first line that is not blank, and the lines behind it. -/
def IsHeaded (lines : List (List String)) (header : List String) (rest : List (List String)) : Prop :=
  ∃ blanks, lines = blanks ++ header :: rest ∧ header ≠ [] ∧ ∀ fields ∈ blanks, fields = []

lemma headed_concat (lines : List (List String)) (fields : List String) :
    headed (lines ++ [fields]) =
      match headed lines with
      | [] => if fields.isEmpty then [] else [fields]
      | header :: rest => header :: (rest ++ [fields]) := by
  rw [headed, List.dropWhile_append, ← headed]
  cases headed lines with
  | nil => cases fields <;> rfl
  | cons header rest => rfl

lemma headed_eq_cons_iff {lines : List (List String)} {header : List String} {rest : List (List String)} :
    headed lines = header :: rest ↔ IsHeaded lines header rest := by
  constructor
  · intro h
    have hblank : ∀ fields ∈ lines.takeWhile List.isEmpty, fields = [] := fun fields hmem =>
      List.isEmpty_iff.mp (List.mem_takeWhile_imp hmem)
    have hheader := List.head?_dropWhile_not List.isEmpty lines
    rw [← headed, h, List.head?_cons] at hheader
    refine ⟨lines.takeWhile List.isEmpty, ?_, by simpa using hheader, hblank⟩
    rw [← h, headed, List.takeWhile_append_dropWhile]
  · rintro ⟨blanks, rfl, hheader, hblank⟩
    rw [headed, List.dropWhile_append_of_pos fun fields hmem => List.isEmpty_iff.mpr (hblank fields hmem),
      List.dropWhile_cons_of_neg (by simpa using hheader)]

/-- The words for the statuses. A run that was stopped has found a solution. -/
def outcomes : List (List String × Status) :=
  [(["optimal"], .optimal), (["infeasible"], .infeasible), (["integer", "infeasible"], .infeasible),
    (["unbounded"], .unbounded), (["stopped"], .solutionFound)]

/-- The status that a header begins with, in any letter case. -/
def statusOf (header : List String) : Status := statusIn outcomes (header.map lower)

lemma cbcStatus_eq (header : List String) : cbcStatus header = statusOf header := by
  cases header with
  | nil => rfl
  | cons word words =>
      unfold cbcStatus
      simp only [statusOf, outcomes, List.map_cons, statusIn_cons_cons, List.isPrefixOf_nil_left, and_true,
        statusIn_nil, List.getElem?_cons_zero, Option.getD_some]
      split
      · rename_i h
        simp [h]
      · rename_i h
        simp [h]
      · rename_i h
        cases words <;> simp [h, @eq_comm _ "infeasible"]
      · rename_i h
        simp [h]
      · rename_i h
        simp [h]
      · rename_i hoptimal hinfeasible hinteger hunbounded hstopped
        rw [if_neg hoptimal, if_neg hinfeasible, if_neg fun h => hinteger h.1, if_neg hunbounded, if_neg hstopped]

/-- A word and the next one are `objective value`. -/
def SaysObjective (words : List String) (i : ℕ) : Prop := words[i]? = some "objective" ∧ words[i + 1]? = some "value"

/-- The objective that a header gives: the number behind the first `objective value`, in any letter case, or nothing
if the problem is infeasible. -/
inductive GivesObjective (header : List String) : Binary64 → Prop
  | number {i : ℕ} {x : Binary64} (here : SaysObjective (header.map lower) i)
      (first : ∀ j < i, ¬ SaysObjective (header.map lower) j) (number : number? header[i + 2]? = some x) :
      GivesObjective header x
  | nothing (none : ∀ i, ¬ SaysObjective (header.map lower) i) (infeasible : statusOf header = .infeasible) :
      GivesObjective header .zero

lemma objectivePlace?_cons (word : String) (words : List String) :
    objectivePlace? (word :: words)
      = if word = "objective" ∧ words[0]? = some "value" then some 2 else (objectivePlace? words).map (· + 1) := by
  cases words with
  | nil => simp [objectivePlace?]
  | cons next words => simp [objectivePlace?]

/-- The place that is looked up is two fields behind the first `objective value`. -/
lemma objectivePlace?_spec (words : List String) :
    match objectivePlace? words with
    | some place => ∃ i, place = i + 2 ∧ SaysObjective words i ∧ ∀ j < i, ¬ SaysObjective words j
    | none => ∀ i, ¬ SaysObjective words i := by
  induction words with
  | nil => simp [objectivePlace?, SaysObjective]
  | cons word words ih =>
      have hzero : SaysObjective (word :: words) 0 ↔ word = "objective" ∧ words[0]? = some "value" := by
        simp [SaysObjective]
      have hsucc (i : ℕ) : SaysObjective (word :: words) (i + 1) ↔ SaysObjective words i := by
        simp [SaysObjective]
      rw [objectivePlace?_cons]
      by_cases hhere : SaysObjective (word :: words) 0
      · rw [if_pos (hzero.mp hhere)]
        exact ⟨0, rfl, hhere, fun j hj => absurd hj (Nat.not_lt_zero j)⟩
      · rw [if_neg fun h => hhere (hzero.mpr h)]
        cases hplace : objectivePlace? words with
        | none =>
            rw [hplace] at ih
            intro i
            cases i with
            | zero => exact hhere
            | succ i => exact fun h => ih i ((hsucc i).mp h)
        | some place =>
            rw [hplace] at ih
            obtain ⟨i, rfl, hi, hfirst⟩ := ih
            refine ⟨i + 1, rfl, (hsucc i).mpr hi, fun j hj => ?_⟩
            cases j with
            | zero => exact hhere
            | succ j => exact fun h => hfirst j (by omega) ((hsucc j).mp h)

/-- The objective that a header gives, looked up. -/
def objective? (header : List String) : Option Binary64 :=
  match objectivePlace? (header.map lower) with
  | some place => number? header[place]?
  | none => if statusOf header = .infeasible then some .zero else none

lemma objective?_eq_some_iff {header : List String} {x : Binary64} :
    objective? header = some x ↔ GivesObjective header x := by
  have hplace := objectivePlace?_spec (header.map lower)
  rw [objective?]
  constructor
  · intro h
    split at h
    · rename_i place hsome
      rw [hsome] at hplace
      obtain ⟨i, rfl, hhere, hfirst⟩ := hplace
      exact .number hhere hfirst h
    · rename_i hnone
      rw [hnone] at hplace
      split_ifs at h with hinfeasible
      obtain rfl := Option.some.inj h
      exact .nothing hplace hinfeasible
  · intro h
    cases h with
    | @number j _ hhere hfirst hnumber =>
        split
        · rename_i place hsome
          rw [hsome] at hplace
          obtain ⟨i, rfl, hi, hmin⟩ := hplace
          obtain rfl : i = j :=
            le_antisymm (not_lt.mp fun hlt => hmin j hlt hhere) (not_lt.mp fun hlt => hfirst i hlt hi)
          exact hnumber
        · rename_i hnone
          rw [hnone] at hplace
          exact absurd hhere (hplace j)
    | nothing hnothing hinfeasible =>
        split
        · rename_i place hsome
          rw [hsome] at hplace
          obtain ⟨i, -, hi, -⟩ := hplace
          exact absurd hi (hnothing i)
        · exact if_pos hinfeasible

/-! ### The columns -/

/-- What a line lists, if it has four fields without the mark of a violated bound. -/
def listed? (fields : List String) : Option (String × Option String) :=
  if 4 ≤ (cbcUnmarked fields).length then
    (cbcUnmarked fields)[1]?.map fun name => (name, (cbcUnmarked fields)[2]?)
  else none

/-- The columns that a report lists. -/
def columns : Table (List String) := fun _ fields => listed? fields

/-- A line lists a column exactly if it has the form that is read. -/
lemma listed?_eq_some_iff {fields : List String} {name : String} {field : Option String} :
    listed? fields = some (name, field)
      ↔ ∃ index value cost rest, cbcUnmarked fields = index :: name :: value :: cost :: rest ∧ field = some value := by
  rw [listed?]
  generalize cbcUnmarked fields = words
  constructor
  · intro h
    split_ifs at h with hlength
    match words, hlength, h with
    | index :: other :: value :: cost :: rest, _, h =>
        obtain ⟨rfl, rfl⟩ := Prod.mk.inj (Option.some.inj h)
        exact ⟨index, value, cost, rest, rfl, rfl⟩
  · rintro ⟨index, value, cost, rest, rfl, rfl⟩
    exact if_pos (by simp)

/-- A line that lists a column sets its value. -/
lemma cbcColumn_of_listed {fields : List String} {name : String} {field : Option String}
    (h : listed? fields = some (name, field)) {s t : Solution} :
    cbcColumn s fields = .ok t ↔ ∃ x, number? field = some x ∧ s.assign name x = t := by
  obtain ⟨index, value, cost, rest, hwords, rfl⟩ := listed?_eq_some_iff.mp h
  unfold cbcColumn
  rw [hwords, Except.bind_eq_ok]
  simp only [realField_eq_ok_iff, Except.ok.injEq, pure, Except.pure]
  rfl

/-- A line that lists no column changes nothing. -/
lemma cbcColumn_of_not_listed {fields : List String} (h : listed? fields = none) (s : Solution) :
    cbcColumn s fields = .ok s := by
  unfold cbcColumn
  split
  · rename_i index name value cost rest hwords
    rw [listed?_eq_some_iff.mpr ⟨index, value, cost, rest, hwords, rfl⟩] at h
    cases h
  · rfl

/-! ### The account -/

/-- The solution that a header gives, with the values of its columns. -/
def solutionOf (header : List String) (rest : List (List String)) : Solution where
  values := (columns.listing rest).values
  objective := (objective? header).getD .zero
  status := statusOf header
  rowCount := 0
  columnCount := 0
  nonzeroCount := 0

/-- What is known behind some lines. -/
def known (lines : List (List String)) : Option Solution :=
  match headed lines with
  | [] => none
  | header :: rest => some (solutionOf header rest)

/-- Whether a line is accepted behind some others: a header that gives an objective, and then columns that are
spelled. -/
def Accepts (lines : List (List String)) (fields : List String) : Prop :=
  match headed lines with
  | [] => fields = [] ∨ (objective? fields).isSome
  | _ :: rest => columns.Spells rest fields

/-- A header that is accepted starts a solution, and no other does. -/
lemma cbcHeader_eq_ok_iff {text : String} {s : Solution} :
    cbcHeader text = .ok s ↔ (objective? (fields text)).isSome ∧ s = solutionOf (fields text) [] := by
  rw [cbcHeader, fields_lower, cbcStatus_eq, solutionOf, objective?]
  cases objectivePlace? ((fields text).map lower) with
  | some place =>
      change (realField (fields text) place >>= fun x =>
        .ok { Solution.none with status := statusOf (fields text), objective := x }) = .ok s ↔ _
      simp only [Except.bind_eq_ok, realField_eq_ok_iff]
      cases number? (fields text)[place]? with
      | none => simp
      | some x =>
          simp [eq_comm]
          rfl
  | none =>
      by_cases hinfeasible : statusOf (fields text) = .infeasible
      · simp [hinfeasible, eq_comm]
        rfl
      · simp [hinfeasible]

/-- A column that is spelled is added to the solution, and no other is. -/
lemma cbcColumn_eq_ok_iff {header fields : List String} {rest : List (List String)} {s : Solution} :
    cbcColumn (solutionOf header rest) fields = .ok s
      ↔ columns.Spells rest fields ∧ s = solutionOf header (rest ++ [fields]) := by
  cases hlisted : listed? fields with
  | none =>
      have hlists : columns rest fields = none := hlisted
      have hspells : columns.Spells rest fields := Table.spells_of_none hlists
      rw [cbcColumn_of_not_listed hlisted, solutionOf, solutionOf, Table.values_concat_of_none hlists]
      simp [hspells, @eq_comm _ s]
  | some e =>
      obtain ⟨name, field⟩ := e
      have hlists : columns rest fields = some (name, field) := hlisted
      rw [cbcColumn_of_listed hlisted, Table.spells_iff_of_some hlists]
      cases hx : number? field with
      | none => simp
      | some x =>
          rw [solutionOf, solutionOf, Table.values_concat_of_some hlists hx]
          simp [@eq_comm _ s]
          rfl

/-- A blank line is accepted and changes nothing. -/
lemma accepts_nil (lines : List (List String)) : Accepts lines [] ∧ known (lines ++ [[]]) = known lines := by
  rw [Accepts, known, known, headed_concat]
  cases headed lines with
  | nil => exact ⟨.inl rfl, rfl⟩
  | cons header rest =>
      have hlists : columns rest [] = none := rfl
      refine ⟨Table.spells_of_none hlists, ?_⟩
      dsimp only
      rw [solutionOf, solutionOf, Table.values_concat_of_none hlists]

/-- A line leads to what is known behind it if it is accepted, and no other line does. -/
lemma step_eq_ok_iff {lines : List (List String)} {text : String} {progress : Progress (Option Solution)} :
    cbcReader.step (known lines) text = .ok progress
      ↔ Accepts lines (fields text) ∧ progress = .more (known (lines ++ [fields text])) := by
  change (if (fields text).isEmpty then Except.ok (Progress.more (known lines)) else _) = _ ↔ _
  by_cases hblank : fields text = []
  · obtain ⟨haccepts, hsame⟩ := accepts_nil lines
    rw [hblank, hsame, if_pos List.isEmpty_nil]
    simp [haccepts, @eq_comm _ progress]
  · rw [if_neg (by simpa using hblank), Accepts, known, known, headed_concat]
    cases headed lines with
    | nil =>
        simp [Except.map_eq_ok, cbcHeader_eq_ok_iff, hblank, @eq_comm _ progress]
    | cons header rest =>
        simp [Except.map_eq_ok, cbcColumn_eq_ok_iff, @eq_comm _ progress]

/-- **What cbc's reader knows behind some lines**: the first that is not blank has to give an objective, and the columns
behind it have to be spelled. -/
def account : cbcReader.Account (List String) where
  view := fields
  known := known
  Good := Accepts
  ends _ := false
  start := rfl
  more h _ := step_eq_ok_iff.mpr ⟨h, rfl⟩
  done _ hends := by cases hends
  bad {before line} h := by
    cases hstep : cbcReader.step (known before) line with
    | error fault => exact ⟨fault, rfl⟩
    | ok progress => exact absurd (step_eq_ok_iff.mp hstep).1 h

/-- The lines of a report are accepted exactly if its header gives an objective and its columns are spelled. -/
lemma accepts_lines_iff (lines : List (List String)) :
    (∀ e ∈ withBefore lines, Accepts e.1 e.2)
      ↔ match headed lines with
        | [] => True
        | header :: rest => (objective? header).isSome ∧ (columns.listing rest).IsSpelled := by
  induction lines using List.reverseRecOn with
  | nil => simp [withBefore, headed]
  | append_singleton lines fields ih =>
      rw [withBefore_concat, List.forall_mem_append, List.forall_mem_singleton, ih, headed_concat, Accepts]
      cases headed lines with
      | nil =>
          by_cases hblank : fields = []
          · simp [hblank]
          · simp [hblank, Table.listing, withBefore, Listing.IsSpelled]
      | cons header rest => simp only [Table.isSpelled_listing_concat, and_assoc]

/-- **What a report that is accepted says, and which one is.** -/
lemma read_eq_ok_iff {text : String} {s : Solution} :
    (cbcReader.read (Utf8.encode text)).value = .ok s
      ↔ ∃ header rest, IsHeaded (fieldLines text) header rest ∧ (objective? header).isSome
        ∧ (columns.listing rest).IsSpelled ∧ s = solutionOf header rest := by
  rw [account.read_encode_eq_ok_iff fun _ => rfl]
  simp only [account, fieldLines, accepts_lines_iff, known, ← headed_eq_cons_iff]
  cases headed ((textLines text).map fields) with
  | nil => simp [cbcReader]
  | cons header rest =>
      constructor
      · rintro ⟨⟨hobjective, hspelled⟩, hfinish⟩
        exact ⟨header, rest, rfl, hobjective, hspelled, (Except.ok.inj hfinish).symm⟩
      · rintro ⟨_, _, hheaded, hobjective, hspelled, rfl⟩
        obtain ⟨rfl, rfl⟩ := List.cons.inj hheaded
        exact ⟨⟨hobjective, hspelled⟩, rfl⟩

/-- **A text is accepted exactly if it has a header that gives an objective and spells its columns**, and what is read
is what these say. -/
theorem read_grammar (text : String) :
    ((∃ s, (cbcReader.read (Utf8.encode text)).value = .ok s)
      ↔ ∃ header rest, IsHeaded (fieldLines text) header rest ∧ (∃ x, GivesObjective header x)
        ∧ (columns.listing rest).IsSpelled)
    ∧ ∀ s, (cbcReader.read (Utf8.encode text)).value = .ok s →
      ∃ header rest, IsHeaded (fieldLines text) header rest ∧ s.status = statusOf header
        ∧ GivesObjective header s.objective ∧ s.rowCount = 0 ∧ s.columnCount = 0 ∧ s.nonzeroCount = 0
        ∧ ∀ name, s.values.get? name = (columns.listing rest).last? name := by
  have hgives (header : List String) : (∃ x, GivesObjective header x) ↔ (objective? header).isSome := by
    simp only [Option.isSome_iff_exists, objective?_eq_some_iff]
  simp only [read_eq_ok_iff, hgives]
  refine ⟨⟨?_, ?_⟩, ?_⟩
  · rintro ⟨s, header, rest, hheaded, hobjective, hspelled, -⟩
    exact ⟨header, rest, hheaded, hobjective, hspelled⟩
  · rintro ⟨header, rest, hheaded, hobjective, hspelled⟩
    exact ⟨_, header, rest, hheaded, hobjective, hspelled, rfl⟩
  · rintro s ⟨header, rest, hheaded, hobjective, hspelled, rfl⟩
    obtain ⟨x, hx⟩ := Option.isSome_iff_exists.mp hobjective
    have hsame : (solutionOf header rest).objective = x := by rw [solutionOf, hx, Option.getD_some]
    refine ⟨header, rest, hheaded, rfl, ?_, rfl, rfl, rfl, fun name => Listing.get?_values hspelled name⟩
    rw [hsame]
    exact objective?_eq_some_iff.mp hx

/-- A report of a run that was stopped, with two lines for one column. -/
def stopped : String := "\nStopped Objective VALUE 7\n** 1 x 2 0\n1 x 3 0\n"

def stoppedSolution : Solution where
  values := ⟨[("x", .ofInt 3)], by decide⟩
  objective := .ofInt 7
  status := .solutionFound
  rowCount := 0
  columnCount := 0
  nonzeroCount := 0

theorem read_grammar_stopped :
    (cbcReader.read (Utf8.encode stopped)).value = .ok stoppedSolution
      ∧ ∃ header rest, IsHeaded (fieldLines stopped) header rest ∧ stoppedSolution.status = statusOf header
        ∧ GivesObjective header stoppedSolution.objective ∧ (columns.listing rest).IsSpelled
        ∧ ∀ name, stoppedSolution.values.get? name = (columns.listing rest).last? name := by
  have hread : (cbcReader.read (Utf8.encode stopped)).value = .ok stoppedSolution := by decide +kernel
  obtain ⟨header, rest, hheaded, -, hspelled⟩ := (read_grammar stopped).1.mp ⟨_, hread⟩
  obtain ⟨header', rest', hheaded', hstatus, hobjective, -, -, -, hvalues⟩ := (read_grammar stopped).2 _ hread
  obtain ⟨rfl, rfl⟩ := List.cons.inj ((headed_eq_cons_iff.mpr hheaded').symm.trans (headed_eq_cons_iff.mpr hheaded))
  exact ⟨hread, header', rest', hheaded, hstatus, hobjective, hspelled, hvalues⟩

end CbcReport

end LinearProgram
