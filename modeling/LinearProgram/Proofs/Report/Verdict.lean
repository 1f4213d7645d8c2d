import Mathlib.Tactic
import LinearProgram.Report.Reader

/-!
What a reader makes of a text, but for the places of its faults.

* `LineFault.reason`: the wording of what is wrong with a line.
* `ReportReader.verdict`, `ReportReader.conclude`: what a reader makes of some lines of text, and of those behind a
  line: a solution, or what is wrong.
* `ReportReader.read_of_verdict_ok`, `ReportReader.read_of_verdict_error`: **what is read follows from the verdict.**
* `ReportReader.read_of_toOption_eq_some`, `ReportReader.read_of_toOption_eq_none`: the same without the fault.
* `ReportReader.exists_parse_of_texts`: a text that is not accepted is refused for what it says.
-/

namespace LinearProgram

/-- The wording of what is wrong with a line. -/
def LineFault.reason : LineFault → String
  | field fault => fault.message
  | truncated what => s!"truncated report: {what}"

lemma ReportFault.toError_ofLine (solver : String) (number : ℕ) (line : String) (fault : LineFault) :
    ∃ shown, (ofLine number line fault).toError solver = .parse solver number shown fault.reason := by
  cases fault with
  | field fault => exact ⟨line, rfl⟩
  | truncated what => exact ⟨"", rfl⟩

namespace ReportReader

variable {σ : Type} {r : ReportReader σ}

/-- What a reader makes of some lines of text: a solution, or what is wrong, wherever that is. -/
def verdict (r : ReportReader σ) : σ → List String → Except LineFault Solution
  | state, [] => (r.finish state).mapError .truncated
  | state, line :: lines =>
    match r.step state line with
    | .error fault => .error fault
    | .ok (.done solution) => .ok solution
    | .ok (.more next) => r.verdict next lines

/-- What a reader makes of some lines behind one that has done something to it. -/
def conclude (r : ReportReader σ) (lines : List String) : Progress σ → Except LineFault Solution
  | .more next => r.verdict next lines
  | .done solution => .ok solution

lemma verdict_cons (state : σ) (line : String) (lines : List String) :
    r.verdict state (line :: lines) = r.step state line >>= r.conclude lines := by
  rw [verdict]
  cases r.step state line with
  | error fault => rfl
  | ok progress => cases progress <;> rfl

lemma readFrom_of_verdict (number : ℕ) (state : σ) (texts : List String) :
    match r.verdict state texts with
    | .ok s => r.readFrom number state (texts.map .text) = .ok s
    | .error fault => ∃ n line, r.readFrom number state (texts.map .text) = .error (.ofLine n line fault) := by
  induction texts generalizing number state with
  | nil =>
      rw [verdict, List.map_nil, readFrom]
      cases r.finish state with
      | ok s => rfl
      | error what => exact ⟨number, "", rfl⟩
  | cons text texts ih =>
      rw [verdict, List.map_cons, readFrom]
      cases r.step state text with
      | error fault => exact ⟨number + 1, text, rfl⟩
      | ok progress =>
          cases progress with
          | done s => rfl
          | more next => exact ih (number + 1) next

lemma value_read (r : ReportReader σ) (bytes : List UInt8) :
    (r.read bytes).value = (r.readLines (fileLines bytes)).mapError fun fault => fault.toError r.solver := by
  rw [read]
  cases r.readLines (fileLines bytes) <;> rfl

section Texts

variable {bytes : List UInt8} {texts : List String} (hlines : fileLines bytes = texts.map .text)
include hlines

/-- **A report with a solution for its verdict is read as that.** -/
lemma read_of_verdict_ok {s : Solution} (h : r.verdict r.start texts = .ok s) : (r.read bytes).value = .ok s := by
  have hread := r.readFrom_of_verdict 0 r.start texts
  rw [h, ← hlines] at hread
  rw [value_read, readLines, hread]
  rfl

/-- **A report with a fault for its verdict is refused for that.** -/
lemma read_of_verdict_error {fault : LineFault} (h : r.verdict r.start texts = .error fault) :
    ∃ number line, (r.read bytes).value = .error (.parse r.solver number line fault.reason) := by
  have hread := r.readFrom_of_verdict 0 r.start texts
  rw [h] at hread
  obtain ⟨number, line, hfrom⟩ := hread
  obtain ⟨shown, hshown⟩ := ReportFault.toError_ofLine r.solver number line fault
  refine ⟨number, shown, ?_⟩
  rw [value_read, readLines, hlines, hfrom]
  exact congrArg Except.error hshown

/-- A report is read as the solution that comes out. -/
lemma read_of_toOption_eq_some {s : Solution} (h : (r.verdict r.start texts).toOption = some s) :
    (r.read bytes).value = .ok s := by
  cases hverdict : r.verdict r.start texts with
  | ok t =>
      rw [hverdict] at h
      obtain rfl : t = s := Option.some.inj h
      exact read_of_verdict_ok hlines hverdict
  | error fault =>
      rw [hverdict] at h
      cases h

/-- A report from which no solution comes out is refused for what it says. -/
lemma read_of_toOption_eq_none (h : (r.verdict r.start texts).toOption = none) :
    ∃ number line reason, (r.read bytes).value = .error (.parse r.solver number line reason) := by
  cases hverdict : r.verdict r.start texts with
  | ok s =>
      rw [hverdict] at h
      cases h
  | error fault =>
      obtain ⟨number, line, hread⟩ := read_of_verdict_error hlines hverdict
      exact ⟨number, line, fault.reason, hread⟩

/-- **A text that is not accepted is refused for what it says.** -/
lemma exists_parse_of_texts (h : ∀ s, (r.read bytes).value ≠ .ok s) :
    ∃ number line reason, (r.read bytes).value = .error (.parse r.solver number line reason) := by
  cases hout : (r.verdict r.start texts).toOption with
  | some s => exact absurd (read_of_toOption_eq_some hlines hout) (h s)
  | none => exact read_of_toOption_eq_none hlines hout

end Texts

end ReportReader

end LinearProgram
