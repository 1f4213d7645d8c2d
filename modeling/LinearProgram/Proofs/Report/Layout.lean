import LinearProgram.Proofs.Report.Account
import LinearProgram.Proofs.Text.Lower

/-!
How a report is laid out.

The readers of glpsol's reports, of cbc's and of kept ones take a line by its fields and pass over blank lines, so
indentation, gaps, line ends and blank lines do not matter to them. They only change the place at which a fault is
found. The other two readers look at how a line begins.

* `ReportReader.ReadsFields`: a reader that takes lines by their fields; `ReportReader.ReadsFields.verdict_eq`: it
  makes the same of lines with the same fields, blank ones aside.
* `tokenLines`: the lines of a text by their fields, without blank ones.
* `ReportForm.read_tokens`: **two texts that differ in their layout only are read alike.**
-/

namespace LinearProgram

namespace ReportReader

variable {σ : Type} {r : ReportReader σ}

/-! ### Readers of fields -/

/-- A reader takes every line by its fields, and passes over blank ones. -/
structure ReadsFields (r : ReportReader σ) : Prop where
  congr : ∀ {state line other}, fields line = fields other → r.step state line = r.step state other
  blank : ∀ {state line}, fields line = [] → r.step state line = .ok (.more state)

namespace ReadsFields

/-- Blank lines do not matter. -/
lemma verdict_filter (hr : r.ReadsFields) (state : σ) (texts : List String) :
    r.verdict state (texts.filter fun text => !(fields text).isEmpty) = r.verdict state texts := by
  induction texts generalizing state with
  | nil => rfl
  | cons text texts ih =>
      by_cases hblank : fields text = []
      · rw [List.filter_cons_of_neg (by simp [hblank]), ih, verdict, hr.blank hblank]
      · rw [List.filter_cons_of_pos (by simpa using hblank), verdict, verdict]
        cases r.step state text with
        | error fault => rfl
        | ok progress =>
            cases progress with
            | done s => rfl
            | more next => exact ih next

/-- Lines with the same fields are read alike. -/
lemma verdict_congr (hr : r.ReadsFields) (state : σ) {texts others : List String}
    (h : texts.map fields = others.map fields) : r.verdict state texts = r.verdict state others := by
  induction texts generalizing state others with
  | nil =>
      obtain rfl : others = [] := List.map_eq_nil_iff.mp h.symm
      rfl
  | cons text texts ih =>
      cases others with
      | nil => cases h
      | cons other others =>
          obtain ⟨hline, hrest⟩ := List.cons.inj h
          rw [verdict, verdict, hr.congr hline]
          cases r.step state other with
          | error fault => rfl
          | ok progress =>
              cases progress with
              | done s => rfl
              | more next => exact ih next hrest

/-- **Lines with the same fields are read alike, whatever blank lines stand between them.** -/
lemma verdict_eq (hr : r.ReadsFields) (state : σ) {texts others : List String}
    (h : (texts.map fields).filter (fun line => !line.isEmpty) = (others.map fields).filter fun line => !line.isEmpty) :
    r.verdict state texts = r.verdict state others := by
  rw [List.filter_map, List.filter_map] at h
  rw [← hr.verdict_filter state texts, ← hr.verdict_filter state others]
  exact hr.verdict_congr state h

end ReadsFields

end ReportReader

/-! ### The readers that take lines by their fields -/

lemma glpkReader_readsFields : glpkReader.ReadsFields where
  congr {state line other} h := by
    change (state.line (fields line)).map Progress.more = (state.line (fields other)).map Progress.more
    rw [h]
  blank {state line} h := by
    change (state.line (fields line)).map Progress.more = _
    rw [h]
    rfl

lemma canonicalReader_readsFields : canonicalReader.ReadsFields where
  congr {state line other} h := by
    change (state.line (fields line)).map Progress.more = (state.line (fields other)).map Progress.more
    rw [h]
  blank {state line} h := by
    change (state.line (fields line)).map Progress.more = _
    rw [h]
    rfl

/-- The header of cbc is told from its fields, though the place of the objective is looked up in lower case. -/
lemma cbcHeader_congr {text other : String} (h : fields text = fields other) : cbcHeader text = cbcHeader other := by
  rw [cbcHeader, cbcHeader, fields_lower, fields_lower, h]

lemma cbcReader_readsFields : cbcReader.ReadsFields where
  congr {state line other} h := by
    simp only [cbcReader, h, cbcHeader_congr h]
  blank {state line} h := by
    simp only [cbcReader, h, List.isEmpty_nil, if_true]

/-! ### Layouts -/

/-- The lines of a text by their fields, without the blank ones. -/
def tokenLines (text : String) : List (List String) := (fieldLines text).filter fun line => !line.isEmpty

/-- Two texts are read alike, but for the place of a fault: as the same solution, or as reports that are refused for the
same reason. -/
inductive SameButPlace : Except Error Solution → Except Error Solution → Prop
  | accepted (s : Solution) : SameButPlace (.ok s) (.ok s)
  | refused (solver reason : String) (number number' : ℕ) (line line' : String) :
      SameButPlace (.error (.parse solver number line reason)) (.error (.parse solver number' line' reason))

namespace ReportForm

/-- **Two texts that differ in their layout only are read alike.** -/
theorem read_tokens {form : ReportForm} (hform : form = .glpk ∨ form = .cbc ∨ form = .kept) {text other : String}
    (h : tokenLines text = tokenLines other) :
    SameButPlace (form.reader.read (Utf8.encode text)).value (form.reader.read (Utf8.encode other)).value := by
  have hfields : form.reader.ReadsFields := by
    rcases hform with rfl | rfl | rfl
    · exact glpkReader_readsFields
    · exact cbcReader_readsFields
    · exact canonicalReader_readsFields
  have hsame := hfields.verdict_eq form.reader.start h
  cases hverdict : form.reader.verdict form.reader.start (textLines text) with
  | ok s =>
      rw [ReportReader.read_of_verdict_ok (fileLines_encode_text text) hverdict,
        ReportReader.read_of_verdict_ok (fileLines_encode_text other) (hsame.symm.trans hverdict)]
      exact .accepted s
  | error fault =>
      obtain ⟨number, line, hread⟩ := ReportReader.read_of_verdict_error (fileLines_encode_text text) hverdict
      obtain ⟨number', line', hread'⟩ :=
        ReportReader.read_of_verdict_error (fileLines_encode_text other) (hsame.symm.trans hverdict)
      rw [hread, hread']
      exact .refused _ _ _ _ _ _

/-- A report of cbc, and the same one laid out in another way. -/
def tidy : String := "Optimal - objective value 7\n0 x0 2 1\n"

def loose : String := "\n  Optimal -\tobjective  value 7 \r\n\r\n0 x0  2 1"

/-- What the two say. -/
def tidySolution : Solution :=
  { Solution.none with values := .put .empty "x0" (.ofInt 2), objective := .ofInt 7, status := .optimal }

theorem read_tokens_loose :
    tokenLines tidy = tokenLines loose
      ∧ (cbcReader.read (Utf8.encode loose)).value = .ok tidySolution
      ∧ ∃ number line reason, (glpkReader.read (Utf8.encode loose)).value = .error (.parse "Glpk" number line reason) := by
  have htokens : tokenLines tidy = tokenLines loose := by decide +kernel
  have hcbc : (ReportForm.cbc.reader.read (Utf8.encode tidy)).value = .ok tidySolution := by decide +kernel
  have hglpk : (ReportForm.glpk.reader.read (Utf8.encode tidy)).value
      = .error (.parse "Glpk" 2 "" "truncated report: header incomplete") := by
    decide +kernel
  refine ⟨htokens, ?_, ?_⟩
  · have hsame := @read_tokens .cbc (.inr (.inl rfl)) _ _ htokens
    rw [hcbc] at hsame
    generalize hother : (ReportForm.cbc.reader.read (Utf8.encode loose)).value = other at hsame
    cases hsame
    exact hother
  · have hsame := @read_tokens .glpk (.inl rfl) _ _ htokens
    rw [hglpk] at hsame
    generalize hother : (ReportForm.glpk.reader.read (Utf8.encode loose)).value = other at hsame
    cases hsame
    exact ⟨_, _, _, hother⟩

end ReportForm

end LinearProgram
