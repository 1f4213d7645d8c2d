import LinearProgram.Proofs.Number.Digits
import LinearProgram.Report.Canonical
import LinearProgram.Solver.Program

/-!
What every reader of reports keeps to.

A name is a field of a line, so it is a word; a count has been read as a count, so it is not too large. A reader
keeps to this in every state, whatever the lines are.

* `Solution.IsReadable`: a solution whose names are words and whose counts can be counted.
* `Yields`: whatever a computation yields has a property, step by step.
* `ReportReader.Keeps`: a property of the states that every line keeps, and what it gives in the end.
* `ReportReader.Keeps.read`: **a property that every line keeps holds of what is read.**
* `canonicalReader_keeps`, `glpkReader_keeps`, `cbcReader_keeps`, `clpReader_keeps`, `scipReader_keeps`: every
  reader keeps its solution readable.
* `Solution.IsRead.isReadable`: **every solution that is read from a report is readable.**
-/

namespace LinearProgram

/-! ### Readable solutions -/

/-- A solution that can be read back: its names are words, and its counts are not too large. -/
structure Solution.IsReadable (s : Solution) : Prop where
  names : ∀ e ∈ s.values.entries, IsWord e.1.toList
  rowCount : s.rowCount ≤ maxSize
  columnCount : s.columnCount ≤ maxSize
  nonzeroCount : s.nonzeroCount ≤ maxSize

lemma Solution.isReadable_none : Solution.none.IsReadable :=
  ⟨fun _ h => absurd h List.not_mem_nil, Nat.zero_le _, Nat.zero_le _, Nat.zero_le _⟩

/-- The value of a word keeps a solution readable. -/
lemma Solution.IsReadable.assign {s : Solution} (h : s.IsReadable) {name : String} (hname : IsWord name.toList)
    (value : Binary64) : (s.assign name value).IsReadable := by
  refine ⟨fun e he => ?_, h.rowCount, h.columnCount, h.nonzeroCount⟩
  rcases fst_mem_putSorted he with heq | he
  · rw [heq]
    exact hname
  · exact h.names e he

/-! ### Fields -/

/-- A field of a line is a word. -/
lemma isWord_of_mem_fields {text w : String} (h : w ∈ fields text) : IsWord w.toList := by
  obtain ⟨v, hv, rfl⟩ := List.mem_map.mp h
  rw [String.toList_ofList]
  exact isWord_of_mem_fieldsOf hv

lemma Except.bind_eq_ok {ε α β : Type} {x : Except ε α} {f : α → Except ε β} {b : β} :
    (x >>= f) = .ok b ↔ ∃ a, x = .ok a ∧ f a = .ok b := by
  cases x with
  | error e => exact ⟨fun h => absurd h (by simp [bind, Except.bind]), fun ⟨a, h, _⟩ => absurd h (by simp)⟩
  | ok a => exact ⟨fun h => ⟨a, rfl, h⟩, fun ⟨_, h, hf⟩ => by obtain rfl := Except.ok.inj h; exact hf⟩

lemma Except.map_eq_ok {ε α β : Type} {f : α → β} {x : Except ε α} {b : β} :
    x.map f = .ok b ↔ ∃ a, x = .ok a ∧ f a = b := by
  cases x <;> simp [Except.map]

lemma readDigits_le {largest n m : ℕ} {ds : List Char} (hn : n ≤ largest) (h : readDigits largest n ds = .ok m) :
    m ≤ largest := by
  induction ds generalizing n with
  | nil =>
      obtain rfl := Except.ok.inj h
      exact hn
  | cons c cs ih =>
      rw [readDigits] at h
      split at h
      · split at h
        · rename_i hle
          exact ih hle h
        · exact absurd h (by simp)
      · exact absurd h (by simp)

/-- A count is not too large. -/
lemma countField_le {fields : List String} {index n : ℕ} (h : countField fields index = .ok n) : n ≤ maxSize := by
  have hread : ∃ field, readNatural maxSize field = .ok n := by
    rw [countField, readField] at h
    split at h
    · exact absurd h (by simp)
    · rename_i field _
      split at h
      · rename_i m hm
        obtain rfl := Except.ok.inj h
        refine ⟨field, ?_⟩
        rw [countForm] at hm
        cases hfield : readNatural maxSize field with
        | error e => rw [hfield] at hm; exact absurd hm (by simp [Except.mapError])
        | ok k => rw [hfield] at hm; exact congrArg Except.ok (Except.ok.inj hm)
      · exact absurd h (by simp)
  obtain ⟨field, hfield⟩ := hread
  rw [readNatural] at hfield
  unfold readNaturalChars at hfield
  split at hfield
  · exact absurd hfield (by simp)
  · exact absurd hfield (by simp)
  · exact readDigits_le (Nat.zero_le _) hfield
  · exact readDigits_le (Nat.zero_le _) hfield

/-! ### What computations yield -/

/-- Whatever a computation yields has a property; it may also fail. -/
def Yields {ε α : Type} (P : α → Prop) (x : Except ε α) : Prop := ∀ a, x = .ok a → P a

section Yields

variable {ε α β : Type} {P : β → Prop} {Q : α → Prop} {x : Except ε α}

lemma yields_ok {b : β} (h : P b) : Yields P (.ok b : Except ε β) := by
  rintro _ ⟨⟩
  exact h

lemma yields_error (e : ε) : Yields P (.error e : Except ε β) := nofun

lemma Yields.bind {f : α → Except ε β} (hx : Yields Q x) (hf : ∀ a, Q a → Yields P (f a)) : Yields P (x >>= f) := by
  intro b h
  obtain ⟨a, ha, hb⟩ := Except.bind_eq_ok.mp h
  exact hf a (hx a ha) b hb

/-- Nothing need be known of what is computed first. -/
lemma yields_bind {f : α → Except ε β} (hf : ∀ a, Yields P (f a)) : Yields P (x >>= f) := by
  intro b h
  obtain ⟨a, -, hb⟩ := Except.bind_eq_ok.mp h
  exact hf a b hb

lemma Yields.map {f : α → β} (hx : Yields (fun a => P (f a)) x) : Yields P (x.map f) := by
  intro b h
  obtain ⟨a, ha, rfl⟩ := Except.map_eq_ok.mp h
  exact hx a ha

end Yields

lemma yields_countField (fields : List String) (index : ℕ) : Yields (· ≤ maxSize) (countField fields index) :=
  fun _ => countField_le

/-! ### Runs of a reader -/

/-- A property of the states of a reader that every line keeps, with what it gives where reading ends. -/
structure ReportReader.Keeps {σ : Type} (r : ReportReader σ) (P : σ → Prop) (Q : Solution → Prop) : Prop where
  start : P r.start
  more : ∀ {state line next}, P state → r.step state line = .ok (.more next) → P next
  done : ∀ {state line s}, P state → r.step state line = .ok (.done s) → Q s
  finish : ∀ {state s}, P state → r.finish state = .ok s → Q s

/-- What a line leads to has a property: the next state, or the solution with which reading ends. -/
def Progress.LeadsTo {σ : Type} (P : σ → Prop) (Q : Solution → Prop) : Progress σ → Prop
  | .more next => P next
  | .done s => Q s

namespace ReportReader

variable {σ : Type} {r : ReportReader σ} {P : σ → Prop} {Q : Solution → Prop}

lemma Keeps.of_yields (hstart : P r.start)
    (hstep : ∀ state line, P state → Yields (Progress.LeadsTo P Q) (r.step state line))
    (hfinish : ∀ state, P state → Yields Q (r.finish state)) : r.Keeps P Q where
  start := hstart
  more hstate h := hstep _ _ hstate _ h
  done hstate h := hstep _ _ hstate _ h
  finish hstate h := hfinish _ hstate _ h

lemma Keeps.readFrom (h : r.Keeps P Q) {lines : List Line} {number : ℕ} {state : σ} (hstate : P state)
    {s : Solution} (hs : r.readFrom number state lines = .ok s) : Q s := by
  induction lines generalizing number state with
  | nil =>
      rw [ReportReader.readFrom] at hs
      cases hfinish : r.finish state with
      | error reason => rw [hfinish] at hs; exact absurd hs (by simp [Except.mapError])
      | ok t =>
          rw [hfinish] at hs
          obtain rfl := Except.ok.inj hs
          exact h.finish hstate hfinish
  | cons line lines ih =>
      cases line with
      | garbled => exact absurd hs (by simp [ReportReader.readFrom])
      | text line =>
          rw [ReportReader.readFrom] at hs
          split at hs
          · exact absurd hs (by simp)
          · rename_i hstep
            obtain rfl := Except.ok.inj hs
            exact h.done hstate hstep
          · rename_i hstep
            exact ih (h.more hstate hstep) hs

/-- **A property that every line keeps holds of what is read.** -/
lemma Keeps.read (h : r.Keeps P Q) {bytes : List UInt8} {s : Solution} (hs : (r.read bytes).value = .ok s) :
    Q s := by
  rw [ReportReader.read] at hs
  split at hs
  · rename_i t ht
    obtain rfl := Except.ok.inj hs
    exact h.readFrom h.start ht
  · exact absurd hs (by simp)

end ReportReader

/-! ### Kept solutions -/

namespace CanonicalState

variable {s : CanonicalState}

lemma yields_header (hs : s.solution.IsReadable) (keyword : String) (fields : List String) :
    Yields (fun t => t.solution.IsReadable) (s.header keyword fields) := by
  unfold header
  split
  · exact (yields_countField fields 1).bind fun n hn => yields_ok { hs with rowCount := hn }
  · exact (yields_countField fields 1).bind fun n hn => yields_ok { hs with columnCount := hn }
  · exact (yields_countField fields 1).bind fun n hn => yields_ok { hs with nonzeroCount := hn }
  · exact yields_bind fun status => yields_ok { hs with }
  · exact yields_bind fun objective => yields_ok { hs with }
  · exact yields_ok hs
  · exact yields_ok hs

lemma yields_line (hs : s.solution.IsReadable) {fields : List String} (hfields : ∀ w ∈ fields, IsWord w.toList) :
    Yields (fun t => t.solution.IsReadable) (s.line fields) := by
  cases fields with
  | nil => exact yields_ok hs
  | cons keyword rest =>
      rw [line]
      split_ifs
      · exact yields_bind fun value => yields_ok (hs.assign (hfields keyword List.mem_cons_self) value)
      · exact yields_header hs _ _

lemma yields_finish (hs : s.solution.IsReadable) : Yields Solution.IsReadable s.finish := by
  rw [finish]
  split_ifs
  · exact yields_ok hs
  · exact yields_error _

end CanonicalState

lemma canonicalReader_keeps : canonicalReader.Keeps (fun s => s.solution.IsReadable) Solution.IsReadable :=
  .of_yields Solution.isReadable_none
    (fun _ _ hstate => .map (CanonicalState.yields_line hstate fun _ hw => isWord_of_mem_fields hw))
    fun _ hstate => CanonicalState.yields_finish hstate

/-! ### Reports of glpsol -/

namespace GlpkState

variable {s : GlpkState}

lemma yields_header (hs : s.solution.IsReadable) (keyword : String) (fields : List String) :
    Yields (fun t => t.solution.IsReadable) (s.header keyword fields) := by
  unfold header
  split
  · exact (yields_countField fields 1).bind fun n hn => yields_ok { hs with rowCount := hn }
  · exact (yields_countField fields 1).bind fun n hn => yields_ok { hs with columnCount := hn }
  · exact (yields_countField fields 1).bind fun n hn => yields_ok { hs with nonzeroCount := hn }
  · exact yields_ok { hs with }
  · split_ifs
    · exact yields_bind fun objective => yields_ok { hs with }
    · exact yields_ok hs
  · exact yields_ok hs

lemma yields_body (hs : s.solution.IsReadable) {fields : List String} (hfields : ∀ w ∈ fields, IsWord w.toList) :
    Yields (fun t => t.solution.IsReadable) (s.body fields) := by
  unfold body
  simp only
  split
  · rename_i first name _ _ _
    split_ifs
    · exact yields_bind fun value => yields_ok (hs.assign (hfields name (by simp)) value)
    · exact yields_ok hs
  · exact yields_ok hs

lemma yields_line (hs : s.solution.IsReadable) {fields : List String} (hfields : ∀ w ∈ fields, IsWord w.toList) :
    Yields (fun t => t.solution.IsReadable) (s.line fields) := by
  cases fields with
  | nil => exact yields_ok hs
  | cons keyword rest =>
      rw [line]
      split_ifs
      · exact yields_header hs _ _
      · exact yields_body hs hfields

lemma yields_finish (hs : s.solution.IsReadable) : Yields Solution.IsReadable s.finish := by
  rw [finish]
  split_ifs
  · exact yields_error _
  · exact yields_ok hs

end GlpkState

lemma glpkReader_keeps : glpkReader.Keeps (fun s => s.solution.IsReadable) Solution.IsReadable :=
  .of_yields Solution.isReadable_none
    (fun _ _ hstate => .map (GlpkState.yields_line hstate fun _ hw => isWord_of_mem_fields hw))
    fun _ hstate => GlpkState.yields_finish hstate

/-! ### Reports of cbc -/

/-- The solution of a reader that has none before the header is readable once there is one. -/
def IsReadableOnceThere (state : Option Solution) : Prop := ∀ s ∈ state, s.IsReadable

lemma isReadableOnceThere_none : IsReadableOnceThere none := fun _ h => absurd h (by simp)

lemma isReadableOnceThere_some {s : Solution} (hs : s.IsReadable) : IsReadableOnceThere (some s) := by
  rintro _ ⟨⟩
  exact hs

lemma yields_cbcHeader (text : String) : Yields Solution.IsReadable (cbcHeader text) := by
  unfold cbcHeader
  generalize objectivePlace? (fields (lower text)) = place
  generalize cbcStatus (fields text) = status
  simp only
  split
  · exact yields_bind fun objective => yields_ok { Solution.isReadable_none with }
  · split_ifs
    · exact yields_ok { Solution.isReadable_none with }
    · exact yields_error _

/-- The mark of a violated bound is the only field that a column loses. -/
lemma mem_of_mem_cbcUnmarked {fields : List String} {w : String} (h : w ∈ cbcUnmarked fields) : w ∈ fields := by
  unfold cbcUnmarked at h
  split at h
  · exact List.mem_cons_of_mem _ h
  · exact h

lemma yields_cbcColumn {s : Solution} (hs : s.IsReadable) {fields : List String}
    (hfields : ∀ w ∈ fields, IsWord w.toList) : Yields Solution.IsReadable (cbcColumn s fields) := by
  unfold cbcColumn
  split
  · rename_i index name value cost rest hline
    have hname : IsWord name.toList := hfields name (mem_of_mem_cbcUnmarked (by rw [hline]; simp))
    exact yields_bind fun value => yields_ok (hs.assign hname value)
  · exact yields_ok hs

lemma cbcReader_keeps : cbcReader.Keeps IsReadableOnceThere Solution.IsReadable := by
  refine .of_yields isReadableOnceThere_none (fun state line hstate => ?_) fun state hstate => ?_
  · change Yields _ (if (fields line).isEmpty then _ else _)
    split_ifs
    · exact yields_ok hstate
    · cases state with
      | none => exact .map fun s hs => isReadableOnceThere_some (yields_cbcHeader line s hs)
      | some s =>
          refine .map fun t ht => isReadableOnceThere_some ?_
          exact yields_cbcColumn (hstate s rfl) (fun _ hw => isWord_of_mem_fields hw) t ht
  · cases state with
    | none => exact yields_error _
    | some s => exact yields_ok (hstate s rfl)

/-! ### Reports of clp -/

lemma yields_clpHeader (text : String) :
    Yields (Progress.LeadsTo IsReadableOnceThere Solution.IsReadable) (clpHeader text) := by
  unfold clpHeader
  generalize splitAtHyphen (lower text).toList = parts
  obtain ⟨before, after⟩ := parts
  simp only
  generalize clpStatus (String.ofList (trim before)) = status
  split_ifs
  · exact yields_ok (P := Progress.LeadsTo _ _) { Solution.isReadable_none with }
  · split
    · split_ifs
      · exact yields_bind fun objective => yields_ok (isReadableOnceThere_some { Solution.isReadable_none with })
      · exact yields_ok (isReadableOnceThere_some { Solution.isReadable_none with })
    · exact yields_ok (isReadableOnceThere_some { Solution.isReadable_none with })

lemma yields_clpLine {s : Solution} (hs : s.IsReadable) (text : String) :
    Yields Solution.IsReadable (clpLine s text) := by
  have hfields : ∀ w ∈ fields text, IsWord w.toList := fun w hw => isWord_of_mem_fields hw
  unfold clpLine
  generalize fields text = fs at hfields
  simp only
  split_ifs
  · exact yields_ok hs
  · exact yields_bind fun objective => yields_ok { hs with }
  · split
    · rename_i name _ _ _ _
      split_ifs
      · exact yields_bind fun value => yields_ok (hs.assign (hfields name (by simp)) value)
      · exact yields_ok hs
    · exact yields_ok hs

lemma clpReader_keeps : clpReader.Keeps IsReadableOnceThere Solution.IsReadable := by
  refine .of_yields isReadableOnceThere_none (fun state line hstate => ?_) fun state hstate => ?_
  · simp only [clpReader]
    cases state with
    | none => exact yields_clpHeader line
    | some s => exact .map fun t ht => isReadableOnceThere_some (yields_clpLine (hstate s rfl) line t ht)
  · simp only [clpReader]
    cases state with
    | none => exact yields_error _
    | some s => exact yields_ok (hstate s rfl)

/-! ### Logs of scip -/

namespace ScipState

variable {s : ScipState}

/-- A status changes nothing else in the solution. -/
lemma leadsTo_status (hs : s.solution.IsReadable) (text : String) :
    Progress.LeadsTo (fun t => t.solution.IsReadable) Solution.IsReadable (s.status text) := by
  unfold status
  split_ifs
  · exact { hs with }
  · exact { hs with }
  · exact { hs with }

lemma yields_other (hs : s.solution.IsReadable) (text : String) {fields : List String}
    (hfields : ∀ w ∈ fields, IsWord w.toList) : Yields (fun t => t.solution.IsReadable) (s.other text fields) := by
  unfold other
  split
  · exact yields_ok hs
  · rename_i name _
    split_ifs
    · exact yields_bind fun objective => yields_ok { hs with }
    · exact yields_ok hs
    · exact yields_ok hs
    · exact yields_bind fun value => yields_ok (hs.assign (hfields name List.mem_cons_self) value)
    · exact yields_ok hs

lemma yields_line (hs : s.solution.IsReadable) (text : String) :
    Yields (Progress.LeadsTo (fun t => t.solution.IsReadable) Solution.IsReadable) (s.line text) := by
  rw [line]
  split_ifs
  · exact yields_ok (leadsTo_status hs _)
  · exact .map (yields_other hs _ fun _ hw => isWord_of_mem_fields hw)

lemma yields_finish (hs : s.solution.IsReadable) : Yields Solution.IsReadable s.finish := by
  rw [finish]
  split_ifs
  · exact yields_ok hs
  · exact yields_error _

end ScipState

lemma scipReader_keeps : scipReader.Keeps (fun s => s.solution.IsReadable) Solution.IsReadable := by
  refine .of_yields Solution.isReadable_none (fun state line hstate => ?_) fun state hstate => ?_
  · simp only [scipReader]
    exact ScipState.yields_line hstate line
  · simp only [scipReader]
    exact ScipState.yields_finish hstate

/-! ### All reports -/

/-- A solution that is read from a report, a kept one or that of a program. -/
inductive Solution.IsRead (s : Solution) : Prop
  | kept (bytes : List UInt8) (h : (canonicalReader.read bytes).value = .ok s) : s.IsRead
  | reported (program : Program) (bytes : List UInt8) (h : (program.readReport bytes).value = .ok s) : s.IsRead

/-- **Every solution that is read from a report is readable.** -/
lemma Solution.IsRead.isReadable {s : Solution} (h : s.IsRead) : s.IsReadable := by
  cases h with
  | kept bytes h => exact canonicalReader_keeps.read h
  | reported program bytes h =>
      cases program with
      | glpk command seconds => exact glpkReader_keeps.read h
      | cbc command seconds threads => exact cbcReader_keeps.read h
      | clp command => exact clpReader_keeps.read h
      | scip command => exact scipReader_keeps.read h

end LinearProgram
