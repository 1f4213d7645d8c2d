import LinearProgram.Proofs.Report.Readable
import LinearProgram.Proofs.Text.Lines

/-!
Where a refused report is to blame.

A reader goes through the lines of a report one by one, and what it makes of the first lines depends on nothing behind
them. So a refused field is in the line at which the reading has stopped, and all lines before it have been read without
a fault. That a report is truncated is found at its end, but for the header of cbc, which can show it already.

* `FieldFault.message_ne_truncated`: the wordings of the two kinds of faults differ.
* `ReportReader.stateAfter?`, `ReportReader.readFrom_append`: a run over lines of text, and **what comes behind it**.
* `ReportReader.Outcome`, `ReportReader.outcome`: the four ways in which a reading can end;
  `ReportReader.refused_or_ended`: those in which a report is refused.
* `ReportReader.PointsAt`, `ReportReader.pointsAt_of_badField`: **a refused field points at the first line that is to
  blame.**
* `ReportReader.truncated_cases`, `ReportReader.log_of_refused`: truncated reports, and the warning for a refused one.
* `ReportForm`, `ReportForm.reader`: the five forms of reports; `ReportForm.step_truncated`: which of their lines show
  that a report is truncated.
* `ReportForm.read_refused`: **where the reports of all forms are to blame.**
-/

namespace LinearProgram

/-! ### Wordings -/

/-- A fault of a field is not worded like a truncated report. -/
lemma FieldFault.message_ne_truncated (fault : FieldFault) (what : String) :
    fault.message ≠ s!"truncated report: {what}" := by
  intro h
  have hhead := congrArg (fun s => s.toList.head?) h
  cases fault <;> simp [message, toString] at hhead

/-- What a truncated report lacks can be read from its wording. -/
lemma truncated_inj {what other : String} (h : s!"truncated report: {what}" = s!"truncated report: {other}") :
    what = other := by
  simpa [toString] using h

namespace ReportReader

variable {σ : Type} {r : ReportReader σ}

/-! ### Runs over lines of text -/

/-- The state after some lines of text, if none of them is refused and none of them ends the reading. -/
def stateAfter? (r : ReportReader σ) : σ → List String → Option σ
  | state, [] => some state
  | state, line :: lines =>
    match r.step state line with
    | .ok (.more next) => r.stateAfter? next lines
    | _ => none

/-- **What is read behind some lines depends on them only by the state after them.** -/
lemma readFrom_append {state next : σ} {texts : List String} (hrun : r.stateAfter? state texts = some next)
    (number : ℕ) (lines : List Line) :
    r.readFrom number state (texts.map .text ++ lines) = r.readFrom (number + texts.length) next lines := by
  induction texts generalizing number state with
  | nil =>
      obtain rfl := Option.some.inj hrun
      rfl
  | cons text texts ih =>
      rw [stateAfter?] at hrun
      split at hrun
      · rename_i after hstep
        rw [List.map_cons, List.cons_append, readFrom, hstep, List.length_cons, Nat.add_comm texts.length,
          ← Nat.add_assoc]
        exact ih hrun (number + 1)
      · cases hrun

/-- How the reading of some lines can end. -/
inductive Outcome (r : ReportReader σ) (number : ℕ) (state : σ) (lines : List Line) : Prop
  /-- A solution is found. -/
  | accepted (solution : Solution) (result : r.readFrom number state lines = .ok solution)
  /-- A line is not text. -/
  | garbled (result : r.readFrom number state lines = .error .garbled)
  /-- A line is refused. -/
  | refused (texts : List String) (line : String) (rest : List Line) (next : σ) (fault : LineFault)
      (split : lines = texts.map .text ++ .text line :: rest) (run : r.stateAfter? state texts = some next)
      (step : r.step next line = .error fault)
  /-- The end is refused. -/
  | ended (texts : List String) (next : σ) (what : String) (all : lines = texts.map .text)
      (run : r.stateAfter? state texts = some next) (finish : r.finish next = .error what)

/-- **Every reading ends in one of these ways.** -/
lemma outcome (r : ReportReader σ) (number : ℕ) (state : σ) (lines : List Line) : r.Outcome number state lines := by
  induction lines generalizing number state with
  | nil =>
      cases hfinish : r.finish state with
      | error what => exact .ended [] state what rfl rfl hfinish
      | ok solution =>
          refine .accepted solution ?_
          rw [readFrom, hfinish]
          rfl
  | cons line lines ih =>
      cases line with
      | garbled => exact .garbled rfl
      | text line =>
          cases hstep : r.step state line with
          | error fault => exact .refused [] line lines state fault rfl rfl hstep
          | ok progress =>
              cases progress with
              | done solution =>
                  refine .accepted solution ?_
                  rw [readFrom, hstep]
              | more next =>
                  have hread : r.readFrom number state (.text line :: lines) = r.readFrom (number + 1) next lines := by
                    rw [readFrom, hstep]
                  have hrun : ∀ {texts}, r.stateAfter? state (line :: texts) = r.stateAfter? next texts := by
                    intro texts
                    rw [stateAfter?, hstep]
                  rcases ih (number + 1) next with
                    ⟨solution, result⟩ | ⟨result⟩ | ⟨texts, bad, rest, last, fault, rfl, run, step⟩
                      | ⟨texts, last, what, rfl, run, finish⟩
                  · exact .accepted solution (hread.trans result)
                  · exact .garbled (hread.trans result)
                  · exact .refused (line :: texts) bad rest last fault rfl (hrun.trans run) step
                  · exact .ended (line :: texts) last what rfl (hrun.trans run) finish

section Refusals

variable {bytes : List UInt8} {texts : List String} {next : σ}

/-- The reading of a report with a line that is refused. -/
lemma read_of_refused {line : String} {rest : List Line} {fault : LineFault}
    (hlines : fileLines bytes = texts.map .text ++ .text line :: rest) (hrun : r.stateAfter? r.start texts = some next)
    (hstep : r.step next line = .error fault) :
    r.read bytes = ⟨.error ((ReportFault.ofLine (texts.length + 1) line fault).toError r.solver),
      (ReportFault.ofLine (texts.length + 1) line fault).entries r.solver⟩ := by
  have hread : r.readLines (fileLines bytes) = .error (.ofLine (texts.length + 1) line fault) := by
    rw [readLines, hlines, readFrom_append hrun, readFrom, hstep, Nat.zero_add]
  rw [read, hread]

/-- The reading of a report whose lines have all been read. -/
lemma read_of_run (hlines : fileLines bytes = texts.map .text) (hrun : r.stateAfter? r.start texts = some next) :
    r.read bytes = match r.finish next with
      | .ok solution => .silent (.ok solution)
      | .error what => ⟨.error ((ReportFault.truncated texts.length what).toError r.solver),
          (ReportFault.truncated texts.length what).entries r.solver⟩ := by
  have hread : r.readLines (fileLines bytes) = (r.finish next).mapError (.truncated texts.length) := by
    have happend := readFrom_append hrun 0 []
    rw [List.append_nil, Nat.zero_add] at happend
    rw [readLines, hlines, happend, readFrom]
  rw [read, hread]
  cases r.finish next <;> rfl

/-- A report is refused in one of its lines or at its end. -/
lemma refused_or_ended {solver line reason : String} {number : ℕ}
    (h : (r.read bytes).value = .error (.parse solver number line reason)) :
    (∃ texts bad rest next fault, fileLines bytes = texts.map .text ++ .text bad :: rest
        ∧ r.stateAfter? r.start texts = some next ∧ r.step next bad = .error fault)
      ∨ ∃ texts next what, fileLines bytes = texts.map .text
        ∧ r.stateAfter? r.start texts = some next ∧ r.finish next = .error what := by
  rcases r.outcome 0 r.start (fileLines bytes) with
    ⟨solution, result⟩ | ⟨result⟩ | ⟨texts, bad, rest, next, fault, split, run, step⟩
      | ⟨texts, next, what, all, run, finish⟩
  · rw [read, readLines, result] at h
    cases h
  · rw [read, readLines, result] at h
    cases h
  · exact .inl ⟨texts, bad, rest, next, fault, split, run, step⟩
  · exact .inr ⟨texts, next, what, all, run, finish⟩

/-! ### Fields -/

/-- A refused field points at the line that is to blame: it is the line of that number, nothing behind it matters, and
before it there is nothing to blame. -/
structure PointsAt (r : ReportReader σ) (bytes : List UInt8) (number : ℕ) (line : String) : Prop where
  positive : 0 < number
  line : (fileLines bytes)[number - 1]? = some (.text line)
  same : ∀ other, (fileLines other).take number = (fileLines bytes).take number → r.read other = r.read bytes
  cut : ∃ cut, cut <+: bytes ∧ fileLines cut = (fileLines bytes).take (number - 1)
  first : ∀ cut, fileLines cut = (fileLines bytes).take (number - 1) →
    ∀ solver n l (fault : FieldFault), (r.read cut).value ≠ .error (.parse solver n l fault.message)

/-- A report is not refused for a field if all its lines have been read. -/
lemma read_ne_badField (hlines : fileLines bytes = texts.map .text) (hrun : r.stateAfter? r.start texts = some next)
    (solver : String) (n : ℕ) (l : String) (fault : FieldFault) :
    (r.read bytes).value ≠ .error (.parse solver n l fault.message) := by
  rw [read_of_run hlines hrun]
  intro h
  split at h
  · cases h
  · obtain ⟨-, -, -, hreason⟩ := Error.parse.inj (Except.error.inj h)
    exact fault.message_ne_truncated _ hreason.symm

/-- **A refused field points at the first line that is to blame.** -/
lemma pointsAt_of_badField {solver line : String} {number : ℕ} {fault : FieldFault}
    (h : (r.read bytes).value = .error (.parse solver number line fault.message)) : r.PointsAt bytes number line := by
  rcases refused_or_ended h with
    ⟨texts, bad, rest, next, fault', split, run, step⟩ | ⟨texts, next, what, all, run, -⟩
  · have hread := read_of_refused split run step
    rw [hread] at h
    cases fault' with
    | truncated what =>
        obtain ⟨-, -, -, hreason⟩ := Error.parse.inj (Except.error.inj h)
        exact absurd hreason.symm (fault.message_ne_truncated what)
    | field fault' =>
        obtain ⟨-, rfl, rfl, -⟩ := Error.parse.inj (Except.error.inj h)
        have hbefore : (fileLines bytes).take (texts.length + 1 - 1) = texts.map .text := by
          rw [split, Nat.add_sub_cancel, List.take_left' (List.length_map _)]
        refine ⟨Nat.succ_pos _, ?_, fun other hother => ?_, exists_fileLines_take bytes _, fun cut hcut => ?_⟩
        · rw [split, Nat.add_sub_cancel, List.getElem?_append_right (List.length_map _).le, List.length_map,
            Nat.sub_self, List.getElem?_cons_zero]
        · -- the other report begins with the same lines, so the same line is refused
          have htake : (fileLines other).take (texts.length + 1) = texts.map .text ++ [.text bad] := by
            rw [hother, split, List.take_append, List.length_map, Nat.add_sub_cancel_left, List.take_of_length_le]
            · rfl
            · rw [List.length_map]
              exact Nat.le_succ _
          have hsplit : fileLines other
              = texts.map .text ++ .text bad :: (fileLines other).drop (texts.length + 1) := by
            rw [← List.singleton_append, ← List.append_assoc, ← htake, List.take_append_drop]
          rw [read_of_refused hsplit run step, hread]
        · exact read_ne_badField (hcut.trans hbefore) run
  · exact absurd h (read_ne_badField all run solver number line fault)

/-! ### Truncated reports -/

/-- That a report is truncated is found at its end, or by a line that shows it. -/
lemma truncated_cases {solver line what : String} {number : ℕ}
    (h : (r.read bytes).value = .error (.parse solver number line s!"truncated report: {what}")) :
    line = "" ∧ ((number = (fileLines bytes).length ∧ ∃ next, r.finish next = .error what)
      ∨ ∃ texts header rest next, fileLines bytes = texts.map .text ++ .text header :: rest
        ∧ r.stateAfter? r.start texts = some next ∧ r.step next header = .error (.truncated what)
        ∧ number = texts.length + 1) := by
  rcases refused_or_ended h with
    ⟨texts, bad, rest, next, fault, split, run, step⟩ | ⟨texts, next, what', all, run, finish⟩
  · rw [read_of_refused split run step] at h
    cases fault with
    | field fault =>
        obtain ⟨-, -, -, hreason⟩ := Error.parse.inj (Except.error.inj h)
        exact absurd hreason (fault.message_ne_truncated what)
    | truncated what' =>
        obtain ⟨-, rfl, rfl, hreason⟩ := Error.parse.inj (Except.error.inj h)
        obtain rfl := truncated_inj hreason
        exact ⟨rfl, .inr ⟨texts, bad, rest, next, split, run, step, rfl⟩⟩
  · rw [read_of_run all run, finish] at h
    obtain ⟨-, rfl, rfl, hreason⟩ := Error.parse.inj (Except.error.inj h)
    obtain rfl := truncated_inj hreason
    refine ⟨rfl, .inl ⟨?_, next, finish⟩⟩
    rw [all, List.length_map]

/-! ### Warnings -/

/-- The warning for a report that is refused in a line. -/
def warning (solver : String) (number : ℕ) (line : String) (fault : FieldFault) : Entry :=
  .warn s!"{solver}: failed to extract value from line {number} '{line}': {fault.message}"

/-- The warning for a report that is truncated. -/
def endWarning (solver : String) (number : ℕ) (what : String) : Entry :=
  .warn s!"{solver}: solution report ends after line {number}: {what}"

/-- **One warning goes with a refused report.** It names the solver and the number of the line. -/
lemma log_of_refused {solver line reason : String} {number : ℕ}
    (h : (r.read bytes).value = .error (.parse solver number line reason)) :
    solver = r.solver
      ∧ ((∃ fault : FieldFault, reason = fault.message
            ∧ (r.read bytes).entries = [warning solver number line fault])
        ∨ ∃ what, reason = s!"truncated report: {what}"
          ∧ (r.read bytes).entries = [endWarning solver number what]) := by
  cases hread : r.readLines (fileLines bytes) with
  | ok solution =>
      rw [read, hread] at h
      cases h
  | error fault =>
      rw [read, hread] at h ⊢
      cases fault with
      | badField n l fault =>
          obtain ⟨rfl, rfl, rfl, rfl⟩ := Error.parse.inj (Except.error.inj h)
          exact ⟨rfl, .inl ⟨fault, rfl, rfl⟩⟩
      | truncated n what =>
          obtain ⟨rfl, rfl, rfl, rfl⟩ := Error.parse.inj (Except.error.inj h)
          exact ⟨rfl, .inr ⟨what, rfl, rfl⟩⟩
      | garbled => cases h

/-- Nothing is said about a report that is accepted. -/
lemma log_of_accepted {solution : Solution} (h : (r.read bytes).value = .ok solution) :
    (r.read bytes).entries = [] := by
  cases hread : r.readLines (fileLines bytes) with
  | ok s => rw [read, hread]; rfl
  | error fault =>
      rw [read, hread] at h
      cases h

end Refusals

end ReportReader

/-! ### Lines that are refused for their fields only -/

/-- What is refused for a field, if it is refused at all. -/
def OnlyFields {α : Type} (x : Except LineFault α) : Prop := ∀ what, x ≠ .error (.truncated what)

section OnlyFields

variable {α β : Type}

lemma onlyFields_ok (a : α) : OnlyFields (.ok a : Except LineFault α) := by
  rintro what ⟨⟩

lemma onlyFields_readField (form : String → Except String α) (fields : List String) (index : ℕ) :
    OnlyFields (readField form fields index) := by
  intro what h
  rw [readField] at h
  split at h
  · cases h
  · split at h <;> cases h

lemma OnlyFields.bind {x : Except LineFault α} (hx : OnlyFields x) {f : α → Except LineFault β}
    (hf : ∀ a, OnlyFields (f a)) : OnlyFields (x >>= f) := by
  intro what h
  cases x with
  | ok a => exact hf a what h
  | error fault =>
      obtain rfl := Except.error.inj h
      exact hx what rfl

lemma OnlyFields.map {x : Except LineFault α} (hx : OnlyFields x) (f : α → β) : OnlyFields (x.map f) := by
  intro what h
  cases x with
  | ok a => cases h
  | error fault =>
      obtain rfl := Except.error.inj h
      exact hx what rfl

/-- A field that is read, and a state that is made of it. -/
lemma onlyFields_field (form : String → Except String α) (fields : List String) (index : ℕ) (f : α → β) :
    OnlyFields (do return f (← readField form fields index)) :=
  (onlyFields_readField form fields index).bind fun a => onlyFields_ok (f a)

end OnlyFields

lemma GlpkState.onlyFields_line (s : GlpkState) (fields : List String) : OnlyFields (s.line fields) := by
  cases fields with
  | nil => exact onlyFields_ok s
  | cons keyword rest =>
      rw [line]
      split
      · unfold header
        split
        · exact onlyFields_field _ _ _ _
        · exact onlyFields_field _ _ _ _
        · exact onlyFields_field _ _ _ _
        · exact onlyFields_ok _
        · split
          · exact onlyFields_field _ _ _ _
          · exact onlyFields_ok _
        · exact onlyFields_ok _
      · unfold body
        simp only
        split
        · split
          · exact onlyFields_field _ _ _ _
          · exact onlyFields_ok _
        · exact onlyFields_ok _

lemma cbcColumn_onlyFields (solution : Solution) (fields : List String) : OnlyFields (cbcColumn solution fields) := by
  unfold cbcColumn
  split
  · exact onlyFields_field _ _ _ _
  · exact onlyFields_ok _

lemma clpHeader_onlyFields (text : String) : OnlyFields (clpHeader text) := by
  unfold clpHeader
  simp only
  split
  · exact onlyFields_ok _
  · split
    · split
      · exact onlyFields_field _ _ _ _
      · exact onlyFields_ok _
    · exact onlyFields_ok _

lemma clpLine_onlyFields (solution : Solution) (text : String) : OnlyFields (clpLine solution text) := by
  unfold clpLine
  simp only
  split
  · exact onlyFields_ok _
  · split
    · exact onlyFields_field _ _ _ _
    · split
      · split
        · exact onlyFields_field _ _ _ _
        · exact onlyFields_ok _
      · exact onlyFields_ok _

lemma ScipState.onlyFields_line (s : ScipState) (text : String) : OnlyFields (s.line text) := by
  unfold line
  simp only
  split
  · exact onlyFields_ok _
  · refine OnlyFields.map ?_ _
    unfold other
    split
    · exact onlyFields_ok _
    · split
      · exact onlyFields_field _ _ _ _
      · split
        · exact onlyFields_ok _
        · split
          · exact onlyFields_ok _
          · split
            · exact onlyFields_field _ _ _ _
            · exact onlyFields_ok _

lemma CanonicalState.onlyFields_line (s : CanonicalState) (fields : List String) : OnlyFields (s.line fields) := by
  cases fields with
  | nil => exact onlyFields_ok s
  | cons keyword rest =>
      rw [line]
      split
      · exact onlyFields_field _ _ _ _
      · unfold header
        split
        · exact onlyFields_field _ _ _ _
        · exact onlyFields_field _ _ _ _
        · exact onlyFields_field _ _ _ _
        · exact onlyFields_field _ _ _ _
        · exact onlyFields_field _ _ _ _
        · exact onlyFields_ok _
        · exact onlyFields_ok _

lemma glpkReader_onlyFields (s : GlpkState) (text : String) : OnlyFields (glpkReader.step s text) :=
  (s.onlyFields_line (fields text)).map Progress.more

lemma clpReader_onlyFields (s : Option Solution) (text : String) : OnlyFields (clpReader.step s text) := by
  cases s with
  | none =>
      simp only [clpReader]
      exact clpHeader_onlyFields text
  | some solution =>
      simp only [clpReader]
      exact (clpLine_onlyFields solution text).map _

lemma scipReader_onlyFields (s : ScipState) (text : String) : OnlyFields (scipReader.step s text) := by
  simp only [scipReader]
  exact s.onlyFields_line text

lemma canonicalReader_onlyFields (s : CanonicalState) (text : String) : OnlyFields (canonicalReader.step s text) :=
  (s.onlyFields_line (fields text)).map Progress.more

/-! ### The header of cbc -/

/-- What the header of cbc can lack. -/
def noObjective : String := "no objective value in the status line"

/-- Only a header that is not blank shows that a report of cbc is truncated. -/
lemma cbcReader_step_truncated {state : Option Solution} {text what : String}
    (h : cbcReader.step state text = .error (.truncated what)) :
    state = none ∧ fields text ≠ [] ∧ what = noObjective := by
  change (if (fields text).isEmpty then _ else _) = _ at h
  split at h
  · cases h
  · rename_i hblank
    have hfields : fields text ≠ [] := by simpa using hblank
    split at h
    · refine ⟨rfl, hfields, ?_⟩
      unfold cbcHeader at h
      generalize objectivePlace? (fields (lower text)) = place at h
      simp only at h
      split at h
      · exact absurd h ((onlyFields_field _ _ _ _).map _ what)
      · split at h
        · cases h
        · exact (LineFault.truncated.inj (Except.error.inj h)).symm
    · exact absurd h ((cbcColumn_onlyFields _ _).map _ what)

/-- Before the header of cbc all lines are blank. -/
lemma cbcReader_stateAfter?_none {state : Option Solution} {texts : List String}
    (h : cbcReader.stateAfter? state texts = some none) : state = none ∧ ∀ l ∈ texts, fields l = [] := by
  induction texts generalizing state with
  | nil => exact ⟨Option.some.inj h, by simp⟩
  | cons text texts ih =>
      rw [ReportReader.stateAfter?] at h
      split at h
      · rename_i next hstep
        obtain ⟨rfl, hblank⟩ := ih h
        change (if (fields text).isEmpty then _ else _) = _ at hstep
        split at hstep
        · rename_i hempty
          obtain rfl := Progress.more.inj (Except.ok.inj hstep)
          refine ⟨rfl, fun l hl => ?_⟩
          rcases List.mem_cons.mp hl with rfl | hl
          · simpa using hempty
          · exact hblank l hl
        · -- a line with a field leaves a solution behind
          split at hstep
          · obtain ⟨solution, -, hmore⟩ := Except.map_eq_ok.mp hstep
            cases hmore
          · obtain ⟨solution, -, hmore⟩ := Except.map_eq_ok.mp hstep
            cases hmore
      · cases h

/-- The header of a report is its first line that is not blank. -/
def IsHeader (bytes : List UInt8) (number : ℕ) : Prop :=
  ∃ (blank : List String) (header : String) (rest : List Line),
    fileLines bytes = blank.map .text ++ .text header :: rest
    ∧ (∀ l ∈ blank, fields l = []) ∧ fields header ≠ [] ∧ number = blank.length + 1

/-! ### All forms of reports -/

/-- The forms of reports: those of the programs, and the one in which solutions are kept. -/
inductive ReportForm where
  | glpk
  | cbc
  | clp
  | scip
  | kept
  deriving DecidableEq

namespace ReportForm

/-- What the reader of a form knows. -/
def State : ReportForm → Type
  | glpk => GlpkState
  | cbc => Option Solution
  | clp => Option Solution
  | scip => ScipState
  | kept => CanonicalState

/-- The reader of a form. -/
def reader : (form : ReportForm) → ReportReader form.State
  | glpk => glpkReader
  | cbc => cbcReader
  | clp => clpReader
  | scip => scipReader
  | kept => canonicalReader

/-- The end of a report does not lack what a header does. -/
lemma finish_ne_noObjective (form : ReportForm) (state : form.State) :
    form.reader.finish state ≠ .error noObjective := by
  intro h
  cases form with
  | glpk =>
      obtain ⟨solution, inHeader, inColumns⟩ : GlpkState := state
      cases inHeader with
      | true => exact absurd (Except.error.inj h) (by decide)
      | false => cases h
  | cbc =>
      cases state with
      | none => exact absurd (Except.error.inj h) (by decide)
      | some solution => cases h
  | clp =>
      cases state with
      | none => exact absurd (Except.error.inj h) (by decide)
      | some solution => cases h
  | scip =>
      obtain ⟨solution, seenStatus, inListing⟩ : ScipState := state
      cases seenStatus with
      | true => cases h
      | false => exact absurd (Except.error.inj h) (by decide)
  | kept =>
      obtain ⟨solution, seenStatus, inTable⟩ : CanonicalState := state
      cases hend : seenStatus && inTable with
      | true =>
          have hok : (CanonicalState.mk solution seenStatus inTable).finish = .ok solution := by
            rw [CanonicalState.finish, hend, if_pos rfl]
          cases hok.symm.trans h
      | false =>
          have herror : (CanonicalState.mk solution seenStatus inTable).finish
              = .error "missing status or column table" := by
            rw [CanonicalState.finish, hend, if_neg Bool.false_ne_true]
          exact absurd (Except.error.inj (herror.symm.trans h)) (by decide)

/-- **Only the header of cbc shows before the end that a report is truncated.** -/
lemma step_truncated (form : ReportForm) {texts : List String} {state : form.State} {line what : String}
    (hrun : form.reader.stateAfter? form.reader.start texts = some state)
    (hstep : form.reader.step state line = .error (.truncated what)) :
    form = .cbc ∧ what = noObjective ∧ (∀ l ∈ texts, fields l = []) ∧ fields line ≠ [] := by
  cases form with
  | glpk => exact absurd hstep (glpkReader_onlyFields _ _ what)
  | cbc =>
      obtain ⟨rfl, hfields, rfl⟩ := cbcReader_step_truncated hstep
      exact ⟨rfl, rfl, (cbcReader_stateAfter?_none hrun).2, hfields⟩
  | clp => exact absurd hstep (clpReader_onlyFields _ _ what)
  | scip => exact absurd hstep (scipReader_onlyFields _ _ what)
  | kept => exact absurd hstep (canonicalReader_onlyFields _ _ what)

/-- **Where a refused report is to blame.** A refused field points at the first line that is to blame, whatever stands
behind it. A truncated report points at its last line, or at the header of cbc if that lacks the objective. One warning
goes with a refused report, which names the solver and the line, and none with an accepted one. -/
theorem read_refused (form : ReportForm) (bytes : List UInt8) :
    (∀ {solver number line} {fault : FieldFault},
        (form.reader.read bytes).value = .error (.parse solver number line fault.message) →
          form.reader.PointsAt bytes number line)
      ∧ (∀ {solver number line what},
          (form.reader.read bytes).value = .error (.parse solver number line s!"truncated report: {what}") →
            line = "" ∧ (what ≠ noObjective → number = (fileLines bytes).length)
              ∧ (what = noObjective → form = .cbc ∧ IsHeader bytes number))
      ∧ (∀ {solver number line reason},
          (form.reader.read bytes).value = .error (.parse solver number line reason) → solver = form.reader.solver
            ∧ ((∃ fault : FieldFault, reason = fault.message
                  ∧ (form.reader.read bytes).entries = [ReportReader.warning solver number line fault])
              ∨ ∃ what, reason = s!"truncated report: {what}"
                  ∧ (form.reader.read bytes).entries = [ReportReader.endWarning solver number what]))
      ∧ ∀ {solution}, (form.reader.read bytes).value = .ok solution → (form.reader.read bytes).entries = [] := by
  refine ⟨fun h => ReportReader.pointsAt_of_badField h, fun {solver number line what} h => ?_,
    fun h => ReportReader.log_of_refused h, fun h => ReportReader.log_of_accepted h⟩
  obtain ⟨rfl, ⟨hnumber, next, hfinish⟩ | ⟨texts, header, rest, next, hsplit, hrun, hstep, rfl⟩⟩ :=
    ReportReader.truncated_cases h
  · refine ⟨rfl, fun _ => hnumber, ?_⟩
    rintro rfl
    exact absurd hfinish (form.finish_ne_noObjective next)
  · obtain ⟨hform, rfl, hblank, hfields⟩ := form.step_truncated hrun hstep
    exact ⟨rfl, fun hne => absurd rfl hne, fun _ => ⟨hform, texts, header, rest, hsplit, hblank, hfields, rfl⟩⟩

/-- A report of cbc whose third line is to blame. -/
def misprinted : List UInt8 := Utf8.encode "Optimal - objective value 7\n\n0 x0 seven 1\n1 x1 2 0\n"

theorem read_refused_misprinted :
    (cbcReader.read (Utf8.encode "Optimal - objective value 7\n\n0 x0 seven 1")).value
        = .error (.parse "Cbc" 3 "0 x0 seven 1" "field 2 'seven': invalid float literal")
      ∧ (cbcReader.read (Utf8.encode "Optimal - objective value 7\n\n0 x0 seven 1")).entries.length = 1 := by
  have hvalue : (ReportForm.cbc.reader.read misprinted).value = .error (.parse "Cbc" 3 "0 x0 seven 1"
      (FieldFault.malformed 2 "seven" "invalid float literal").message) := by
    decide +kernel
  obtain ⟨hpoints, -, hlog, -⟩ := read_refused .cbc misprinted
  have hsame : cbcReader.read (Utf8.encode "Optimal - objective value 7\n\n0 x0 seven 1") = cbcReader.read misprinted :=
    (hpoints hvalue).same _ (by decide +kernel)
  rw [hsame]
  refine ⟨hvalue, ?_⟩
  obtain ⟨-, ⟨fault, -, hentries⟩ | ⟨what, -, hentries⟩⟩ := hlog hvalue
  · exact congrArg List.length hentries
  · exact congrArg List.length hentries

end ReportForm

end LinearProgram
