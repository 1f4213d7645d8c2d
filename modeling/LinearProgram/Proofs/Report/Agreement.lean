import LinearProgram.Proofs.Report.Cbc
import LinearProgram.Proofs.Report.Clp

/-!
Reports that cbc and clp both write.

An optimal report of cbc is one of clp in its newer layout, and either reader may be given the report of the other
program. The two look for the objective in different ways, but find the same word, and from then on they do the same
with every line that both of them know.

* `IsCommonHeader`, `IsCommonLine`: the lines of such reports.
* `cbcReader_header`, `clpReader_header`: both read the number at the end of the header.
* `step_of_common`, `readFrom_of_common`: **both do the same with every further line.**
* `Agree`, `read_common`: **the two read the same solution, or refuse the same line.**
-/

namespace LinearProgram

lemma cbcReader_start : cbcReader.start = none := rfl

namespace CommonReport

open ClpReport

/-! ### The lines -/

/-- A header: an optimal solution and its objective, with the words in any letter case. -/
inductive IsCommonHeader (number : String) : String → Prop
  | words {optimal objective value : String} (hnumber : IsWord number.toList) (hoptimal : lower optimal = "optimal")
      (hobjective : lower objective = "objective") (hvalue : lower value = "value") :
      IsCommonHeader number (optimal ++ " - " ++ objective ++ " " ++ value ++ " " ++ number)

/-- A further line: a blank one, one with few words, or one that lists a column whose name begins with `x`. -/
inductive IsCommonLine (line : String) : Prop
  | blank (h : fields line = [])
  | few (short : (fields line).length ≤ 3) (start : beginsWith line "Objective value" = false)
  | column {index name value cost : String} {rest : List String}
      (h : fields line = index :: name :: value :: cost :: rest) (unmarked : index ≠ "**")
      (named : beginsWith name "x" = true) (start : beginsWith line "Objective value" = false)

/-! ### The header -/

section Header

variable {number header : String} (h : IsCommonHeader number header)
include h

lemma isWord_number : IsWord number.toList := by
  cases h
  assumption

/-- A header is a full header of clp's in another letter case. -/
lemma lower_header : lower header = lower (fullHeader "Optimal" number) := by
  have hlower (optimal objective value : String) :
      lower (optimal ++ " - " ++ objective ++ " " ++ value ++ " " ++ number)
        = lower optimal ++ " " ++ lower "-" ++ " " ++ lower objective ++ " " ++ lower value ++ " " ++ lower number := by
    have hhyphen : optimal ++ " - " ++ objective = optimal ++ " " ++ "-" ++ " " ++ objective := by
      simp [← String.toList_inj]
    rw [lower_append_blank, lower_append_blank, hhyphen, lower_append_blank, lower_append_blank]
  have hfull : fullHeader "Optimal" number = "Optimal" ++ " - " ++ "objective" ++ " " ++ "value" ++ " " ++ number := rfl
  have hwords : lower "Optimal" = "optimal" ∧ lower "objective" = "objective" ∧ lower "value" = "value" := by
    decide +kernel
  cases h with
  | words hnumber hoptimal hobjective hvalue =>
      rw [hfull, hlower, hlower, hoptimal, hobjective, hvalue, hwords.1, hwords.2.1, hwords.2.2]

/-- The words of a header, in lower case. -/
lemma map_lower_fields : (fields header).map lower = ["optimal", "-", "objective", "value", lower number] := by
  have hlower : (fields "Optimal" ++ ["-", "objective", "value"]).map lower = ["optimal", "-", "objective", "value"] := by
    decide +kernel
  calc (fields header).map lower
      = (fields (fullHeader "Optimal" number)).map lower := by rw [← fields_lower, lower_header h, fields_lower]
    _ = (fields "Optimal" ++ ["-", "objective", "value"] ++ [number]).map lower := by
        rw [fields_fullHeader _ (isWord_number h), List.append_assoc]
        rfl
    _ = ["optimal", "-", "objective", "value", lower number] := by
        rw [List.map_append, hlower]
        rfl

/-- The fifth word of a header is the number. -/
lemma number?_header : number? (fields header)[4]? = number? (some number) := by
  have hfifth : (fields header)[4]?.map lower = (some number).map lower := by
    rw [← List.getElem?_map, map_lower_fields h]
    rfl
  rw [← number?_map_lower, hfifth, number?_map_lower]

/-- What both readers know behind a header. -/
def started (objective : Binary64) : Progress (Option Solution) := .more (some { onlyStatus .optimal with objective })

/-- Cbc finds the number behind the words `objective value`. -/
lemma cbcHeader_of_common :
    cbcHeader header = realField (fields header) 4 >>= fun objective => .ok { onlyStatus .optimal with objective } := by
  have hwords := map_lower_fields h
  have hstatus : cbcStatus (fields header) = .optimal := by
    rw [CbcReport.cbcStatus_eq, CbcReport.statusOf, hwords]
    rfl
  have hplace : objectivePlace? (fields (lower header)) = some 4 := by
    rw [fields_lower, hwords]
    simp [objectivePlace?]
  rw [cbcHeader, hstatus, hplace]
  rfl

lemma cbcReader_header : cbcReader.step none header = (realField (fields header) 4).map started := by
  have hblank : (fields header).isEmpty = false := by
    rw [← List.isEmpty_map (f := lower), map_lower_fields h]
    rfl
  have hstep : cbcReader.step none header
      = if (fields header).isEmpty then .ok (.more none) else (cbcHeader header).map (.more ∘ some) := by
    rw [cbcReader]
  rw [hstep, hblank, cbcHeader_of_common h]
  cases realField (fields header) 4 <;> rfl

/-- Clp finds it as the third word behind the hyphen. -/
lemma clpReader_header :
    clpReader.step none header = (realField (["objective", "value", number].map lower) 2).map started := by
  have hsame : clpHeader header = clpHeader (fullHeader "Optimal" number) := by rw [clpHeader, clpHeader, lower_header h]
  have hstatus : namedStatus "Optimal" = .optimal := by decide +kernel
  rw [step_none, hsame, clpHeader_fullHeader, hstatus, wordsBehind_fullHeader (by decide) (isWord_number h),
    if_neg (by decide)]
  cases realField (["objective", "value", number].map lower) 2 <;> rfl

end Header

/-! ### Further lines -/

/-- A line with few words is no column of cbc's. -/
lemma cbcColumn_of_short {words : List String} (h : words.length ≤ 3) (s : Solution) : cbcColumn s words = .ok s := by
  refine CbcReport.cbcColumn_of_not_listed (if_neg ?_) s
  have hunmarked : (cbcUnmarked words).length ≤ words.length := by
    unfold cbcUnmarked
    split <;> simp
  omega

/-- A line with few words is nothing to clp, either, if it is not about the objective. -/
lemma clpLine_of_short {line : String} (h : (fields line).length ≤ 3)
    (hstart : beginsWith line "Objective value" = false) (s : Solution) : clpLine s line = .ok s := by
  rw [clpLine, hstart]
  generalize fields line = words at h
  rcases words with _ | ⟨_, _ | ⟨_, _ | ⟨_, _ | ⟨_, words⟩⟩⟩⟩
  · rfl
  · rfl
  · rfl
  · rfl
  · simp only [List.length_cons] at h
    omega

/-- **Both readers take a line that both of them know for the same.** -/
lemma cbcColumn_eq_clpLine {line : String} (h : IsCommonLine line) (s : Solution) :
    cbcColumn s (fields line) = clpLine s line := by
  cases h with
  | blank hblank =>
      rw [clpLine, hblank]
      rfl
  | few hshort hstart => rw [cbcColumn_of_short hshort, clpLine_of_short hshort hstart]
  | @column index name value cost rest hfields hunmarked hnamed hstart =>
      have hcolumn : cbcUnmarked (index :: name :: value :: cost :: rest) = index :: name :: value :: cost :: rest := by
        unfold cbcUnmarked
        split
        · simp_all
        · rfl
      rw [clpLine, hstart, hfields, cbcColumn, hcolumn]
      exact (if_pos hnamed).symm

/-- **Both readers do the same with such a line.** -/
lemma step_of_common {line : String} (h : IsCommonLine line) (s : Solution) :
    cbcReader.step (some s) line = clpReader.step (some s) line := by
  have hcbc : cbcReader.step (some s) line
      = if (fields line).isEmpty then .ok (.more (some s)) else (cbcColumn s (fields line)).map (.more ∘ some) := by
    rw [cbcReader]
  rw [hcbc, step_some, ← cbcColumn_eq_clpLine h]
  split_ifs with hblank
  · rw [List.isEmpty_iff.mp hblank]
    rfl
  · rfl

/-- **Behind the header, both readers read the same.** -/
lemma readFrom_of_common {rest : List String} (h : ∀ line ∈ rest, IsCommonLine line) (number : ℕ) (s : Solution) :
    cbcReader.readFrom number (some s) (rest.map .text) = clpReader.readFrom number (some s) (rest.map .text) := by
  induction rest generalizing number s with
  | nil => rfl
  | cons line rest ih =>
      obtain ⟨hline, hrest⟩ := List.forall_mem_cons.mp h
      rw [List.map_cons, ReportReader.readFrom, ReportReader.readFrom, step_of_common hline, step_some]
      cases clpLine s line with
      | error fault => rfl
      | ok t => exact ih hrest (number + 1) t

/-! ### Reports -/

/-- Cbc's and clp's readers agree: on a solution, or on the place at which the report is refused. -/
inductive Agree : Except Error Solution → Except Error Solution → Prop
  | accepted (s : Solution) : Agree (.ok s) (.ok s)
  | refused (place : ℕ) (line reason reason' : String) :
      Agree (.error (.parse "Cbc" place line reason)) (.error (.parse "Clp" place line reason'))

namespace Agree

variable {reading : Except Error Solution}

lemma eq_ok {s : Solution} (h : Agree (.ok s) reading) : reading = .ok s := by
  cases h
  rfl

lemma eq_error {place : ℕ} {line reason : String} (h : Agree (.error (.parse "Cbc" place line reason)) reading) :
    ∃ reason', reading = .error (.parse "Clp" place line reason') := by
  cases h
  exact ⟨_, rfl⟩

end Agree

/-- The readers agree on a text if they read the same from its lines. -/
lemma agree_of_readLines {bytes : List UInt8} {texts : List String} (hlines : fileLines bytes = texts.map .text)
    (h : cbcReader.readLines (fileLines bytes) = clpReader.readLines (fileLines bytes)) :
    Agree (cbcReader.read bytes).value (clpReader.read bytes).value := by
  have hcbc := cbcReader.value_read bytes
  have hclp := clpReader.value_read bytes
  cases hread : clpReader.readLines (fileLines bytes) with
  | ok s =>
      rw [hcbc, hclp, h, hread]
      exact .accepted s
  | error fault =>
      rw [h, hread] at hcbc
      rw [hread] at hclp
      have hparse := ReportReader.exists_parse_of_texts hlines fun s hok => by
        rw [hclp] at hok
        cases hok
      cases fault with
      | badField number line fault =>
          rw [hcbc, hclp]
          exact .refused _ _ _ _
      | truncated number reason =>
          rw [hcbc, hclp]
          exact .refused _ _ _ _
      | garbled =>
          obtain ⟨number, line, reason, hother⟩ := hparse
          rw [hclp] at hother
          cases hother

/-- **The two read the same solution, or refuse the same line.** -/
theorem read_common {number header : String} (hheader : IsCommonHeader number header) {rest : List String}
    (hrest : ∀ line ∈ rest, IsCommonLine line) {text : String} (htext : textLines text = header :: rest) :
    Agree (cbcReader.read (Utf8.encode text)).value (clpReader.read (Utf8.encode text)).value := by
  have hlines : fileLines (Utf8.encode text) = (header :: rest).map .text := by rw [fileLines_encode_text, htext]
  have hcbc := cbcReader_header hheader
  have hclp := clpReader_header hheader
  have hnumber : number? (fields header)[4]? = number? (["objective", "value", number].map lower)[2]? := by
    rw [number?_header hheader, List.getElem?_map, number?_map_lower]
    rfl
  cases hfield : realField (fields header) 4 with
  | ok x =>
      -- both readers start with the same number, and everything behind the header is the same to them
      have hfield' : realField (["objective", "value", number].map lower) 2 = .ok x :=
        realField_eq_ok_iff.mpr (hnumber.symm.trans (realField_eq_ok_iff.mp hfield))
      refine agree_of_readLines hlines ?_
      rw [hlines, List.map_cons, ReportReader.readLines, ReportReader.readLines, ReportReader.readFrom,
        ReportReader.readFrom, cbcReader_start, clpReader_start, hcbc, hclp, hfield, hfield']
      exact readFrom_of_common hrest 1 _
  | error fault =>
      cases hfield' : realField (["objective", "value", number].map lower) 2 with
      | ok x =>
          rw [realField_eq_ok_iff.mpr (hnumber.trans (realField_eq_ok_iff.mp hfield'))] at hfield
          cases hfield
      | error fault' =>
          obtain ⟨f, rfl⟩ := exists_of_readField_error hfield
          obtain ⟨f', rfl⟩ := exists_of_readField_error hfield'
          rw [ReportReader.value_read, ReportReader.value_read, hlines, List.map_cons, ReportReader.readLines,
            ReportReader.readLines, ReportReader.readFrom, ReportReader.readFrom, cbcReader_start, clpReader_start, hcbc,
            hclp, hfield, hfield']
          exact .refused 1 header _ _

/-- A report that both programs may write, and one in which a value is misprinted. -/
def common : String := "OPTIMAL - objective Value 7E0\n\n0 x0 2 1\nend of report\n"

def misprintedValue : String := "Optimal - objective value 7\n0 x0 two 1\n"

theorem read_common_misprintedValue :
    (clpReader.read (Utf8.encode common)).value = .ok (sample .optimal)
      ∧ ∃ reason, (clpReader.read (Utf8.encode misprintedValue)).value = .error (.parse "Clp" 2 "0 x0 two 1" reason) := by
  constructor
  · have hheader : IsCommonHeader "7E0" "OPTIMAL - objective Value 7E0" :=
      @IsCommonHeader.words "7E0" "OPTIMAL" "objective" "Value" (by decide) (by decide +kernel) (by decide +kernel)
        (by decide +kernel)
    have hrest : ∀ line ∈ ["", "0 x0 2 1", "end of report"], IsCommonLine line := by
      refine List.forall_mem_cons.mpr ⟨.blank rfl, List.forall_mem_cons.mpr ⟨?_, List.forall_mem_singleton.mpr ?_⟩⟩
      · exact .column (by decide +kernel : fields "0 x0 2 1" = ["0", "x0", "2", "1"]) (by decide) rfl rfl
      · exact .few (by decide +kernel) rfl
    have hcbc : (cbcReader.read (Utf8.encode common)).value = .ok (sample .optimal) := by decide +kernel
    have hagree := @read_common _ _ hheader _ hrest common (by decide +kernel)
    rw [hcbc] at hagree
    exact hagree.eq_ok
  · have hheader : IsCommonHeader "7" "Optimal - objective value 7" :=
      @IsCommonHeader.words "7" "Optimal" "objective" "value" (by decide) (by decide +kernel) (by decide +kernel)
        (by decide +kernel)
    have hrest : ∀ line ∈ ["0 x0 two 1"], IsCommonLine line :=
      List.forall_mem_singleton.mpr
        (.column (by decide +kernel : fields "0 x0 two 1" = ["0", "x0", "two", "1"]) (by decide) rfl rfl)
    have hcbc : (cbcReader.read (Utf8.encode misprintedValue)).value
        = .error (.parse "Cbc" 2 "0 x0 two 1" "field 2 'two': invalid float literal") := by
      decide +kernel
    have hagree := @read_common _ _ hheader _ hrest misprintedValue (by decide +kernel)
    rw [hcbc] at hagree
    exact hagree.eq_error

end CommonReport

end LinearProgram
