import LinearProgram.Proofs.Number.LetterCase
import LinearProgram.Proofs.Report.Account

/-!
The two layouts of clp's reports.

The older layout has the status on the first line and the objective on the second, the newer one has both on the first
line, with a hyphen between them. The first line is cut at its first hyphen, which in the newer layout is the one in
front of the objective only if the status has none. So the newer layout is read like the older one with the third word
behind the first hyphen in place of the objective, and that is the objective unless the status has a hyphen of its own.

* `splitAtHyphen_lowerAfter`: a text is cut at the same hyphen in lower case.
* `olderLines`, `newerLines`: the two layouts.
* `outcome`, `toOption_verdict_older`, `toOption_verdict_newer`: what each layout is read as.
* `ReadAlike`, `layouts_alike`: **when the two layouts are read alike, and what is read otherwise.**
* `not_readAlike_ctrlC`: a status with a hyphen is refused in the newer layout.
-/

namespace LinearProgram

/-- A number is read alike in lower case. -/
lemma number?_map_lower (field : Option String) : number? (field.map lower) = number? field := by
  cases field with
  | none => rfl
  | some text => exact Binary64.toOption_read_lower text

namespace ClpReport

/-! ### Hyphens -/

lemma splitAtHyphen_of_notMem {s : List Char} (h : '-' ∉ s) : splitAtHyphen s = (s, none) := by
  have hkeep : ∀ c ∈ s, decide (c ≠ '-') = true := fun c hc => decide_eq_true (by rintro rfl; exact h hc)
  rw [splitAtHyphen, List.takeWhile_eq_self_iff.mpr hkeep, List.dropWhile_eq_nil_iff.mpr hkeep]

lemma splitAtHyphen_append {before : List Char} (h : '-' ∉ before) (behind : List Char) :
    splitAtHyphen (before ++ '-' :: behind) = (before, some behind) := by
  have hkeep : ∀ c ∈ before, decide (c ≠ '-') = true := fun c hc => decide_eq_true (by rintro rfl; exact h hc)
  rw [splitAtHyphen, List.takeWhile_append_of_pos hkeep, List.dropWhile_append_of_pos hkeep]
  simp

lemma keptOut_hyphen : KeptOut [(0x2D, 0x2D)] := by decide +kernel

lemma inRanges_hyphen {c : Char} : inRanges [(0x2D, 0x2D)] c.toNat = false ↔ c ≠ '-' := by
  have hcode : '-'.toNat = 0x2D := rfl
  rw [← Bool.not_eq_true, not_iff_not, inRanges_iff, ← Char.toNat_inj, hcode]
  constructor
  · rintro ⟨r, hr, hlow, hhigh⟩
    obtain rfl := List.mem_singleton.mp hr
    exact le_antisymm hhigh hlow
  · intro h
    exact ⟨(0x2D, 0x2D), List.mem_singleton_self _, h.ge, h.le⟩

/-- No lower-case form has a hyphen of its own. -/
lemma hyphen_notMem_lowerAfter {before s : List Char} (h : '-' ∉ s) : '-' ∉ lowerAfter before s := by
  intro hmem
  have hs : ∀ c ∈ s, inRanges [(0x2D, 0x2D)] c.toNat = false :=
    fun c hc => inRanges_hyphen.mpr (by rintro rfl; exact h hc)
  exact inRanges_hyphen.mp (keptOut_hyphen.lowerAfter rfl hs '-' hmem) rfl

/-- **A text is cut at the same hyphen in lower case.** -/
lemma splitAtHyphen_lowerAfter (s : List Char) :
    splitAtHyphen (lowerAfter [] s)
      = (lowerAfter [] (splitAtHyphen s).1, (splitAtHyphen s).2.map (lowerAfter [])) := by
  by_cases h : '-' ∈ s
  · obtain ⟨before, behind, rfl, hbefore⟩ := List.eq_append_cons_of_mem h
    rw [lowerAfter_append isSeparator_hyphen, splitAtHyphen_append hbefore,
      splitAtHyphen_append (hyphen_notMem_lowerAfter hbefore)]
    rfl
  · rw [splitAtHyphen_of_notMem h, splitAtHyphen_of_notMem (hyphen_notMem_lowerAfter h)]
    rfl

/-! ### Headers -/

/-- The status that a header names in front of its first hyphen. -/
def namedStatus (header : String) : Status :=
  clpStatus (String.ofList (trim (lowerAfter [] (splitAtHyphen header.toList).1)))

/-- The words of a header behind its first hyphen. -/
def wordsBehind (header : String) : List String :=
  (splitAtHyphen header.toList).2.elim [] fun rest => fields (String.ofList rest)

lemma isWord_of_mem_wordsBehind {header word : String} (h : word ∈ wordsBehind header) : IsWord word.toList := by
  rw [wordsBehind] at h
  cases hrest : (splitAtHyphen header.toList).2 with
  | none =>
      rw [hrest] at h
      cases h
  | some rest =>
      rw [hrest] at h
      exact isWord_of_mem_fields h

/-- The solution that a header starts if it names a status only. -/
def onlyStatus (status : Status) : Solution := { Solution.none with status }

lemma clpHeader_eq (header : String) :
    clpHeader header
      = if namedStatus header = .infeasible then .ok (.done (onlyStatus (namedStatus header)))
        else
          match (splitAtHyphen header.toList).2.map (lowerAfter []) with
          | some rest =>
            if containsChars "objective value".toList rest then
              realField (fields (String.ofList rest)) 2 >>= fun objective =>
                .ok (.more (some { onlyStatus (namedStatus header) with objective }))
            else .ok (.more (some (onlyStatus (namedStatus header))))
          | none => .ok (.more (some (onlyStatus (namedStatus header)))) := by
  rw [clpHeader, lower, String.toList_ofList, splitAtHyphen_lowerAfter, namedStatus]
  dsimp only
  generalize clpStatus (String.ofList (trim (lowerAfter [] (splitAtHyphen header.toList).1))) = status
  rfl

/-- **A header that does not speak of an objective gives the status.** -/
lemma clpHeader_plain {header : String} (h : contains (lower header) "objective value" = false) :
    clpHeader header
      = if namedStatus header = .infeasible then .ok (.done (onlyStatus (namedStatus header)))
        else .ok (.more (some (onlyStatus (namedStatus header)))) := by
  rw [clpHeader_eq]
  refine congrArg (ite _ _) ?_
  by_cases hmem : '-' ∈ header.toList
  · obtain ⟨before, rest, hsplit, hbefore⟩ := List.eq_append_cons_of_mem hmem
    rw [contains, lower, String.toList_ofList, String.toList_ofList, hsplit, lowerAfter_append isSeparator_hyphen] at h
    have hpart : lowerAfter [] rest <:+: lowerAfter [] before ++ '-' :: lowerAfter [] rest :=
      ((List.suffix_cons '-' _).trans (List.suffix_append _ _)).isInfix
    have hrest : ¬ containsChars "objective value".toList (lowerAfter [] rest) = true := fun hrest =>
      Bool.eq_false_iff.mp h (containsChars_iff.mpr ((containsChars_iff.mp hrest).trans hpart))
    rw [hsplit, splitAtHyphen_append hbefore]
    exact if_neg hrest
  · rw [splitAtHyphen_of_notMem hmem]
    rfl

/-- **A header that speaks of an objective behind its first hyphen gives the third word behind it, too.** -/
lemma clpHeader_objective {header : String} {before rest : List Char}
    (hsplit : splitAtHyphen header.toList = (before, some rest))
    (h : containsChars "objective value".toList (lowerAfter [] rest) = true) :
    clpHeader header
      = if namedStatus header = .infeasible then .ok (.done (onlyStatus (namedStatus header)))
        else realField ((wordsBehind header).map lower) 2 >>= fun objective =>
          .ok (.more (some { onlyStatus (namedStatus header) with objective })) := by
  have hfields : fields (String.ofList (lowerAfter [] rest)) = (wordsBehind header).map lower := by
    rw [wordsBehind, hsplit, Option.elim, ← fields_lower, lower, String.toList_ofList]
  rw [clpHeader_eq, hsplit, Option.map_some]
  refine congrArg (ite _ _) ?_
  rw [← hfields]
  exact if_pos h

/-! ### Layouts -/

/-- The header of the newer layout. -/
def fullHeader (status number : String) : String := status ++ " - objective value " ++ number

/-- The lines of a report in the older layout. -/
def olderLines (status number : String) (rest : List String) : List String :=
  status :: ("Objective value " ++ number) :: rest

/-- The lines of a report in the newer layout. -/
def newerLines (status number : String) (rest : List String) : List String := fullHeader status number :: rest

/-- Words with a blank in front of each. -/
def spaced (words : List (List Char)) : List Char := words.flatMap fun w => ' ' :: w

/-- The words of a full header behind the status and the hyphen. -/
def objectiveWords (number : String) : List (List Char) := ["objective".toList, "value".toList, number.toList]

lemma toList_fullHeader (status number : String) :
    (fullHeader status number).toList = status.toList ++ spaced (['-'] :: objectiveWords number) := by
  simp [fullHeader, spaced, objectiveWords]

lemma isWord_objectiveWords {number : String} (h : IsWord number.toList) :
    ∀ w ∈ ['-'] :: objectiveWords number, IsWord w := by
  have hhyphen : IsWord ['-'] := by decide
  have hobjective : IsWord "objective".toList := by decide
  have hvalue : IsWord "value".toList := by decide
  simp only [objectiveWords, List.forall_mem_cons]
  exact ⟨hhyphen, hobjective, hvalue, h, List.forall_mem_nil _⟩

lemma fields_fullHeader (status : String) {number : String} (hnumber : IsWord number.toList) :
    fields (fullHeader status number) = fields status ++ ["-", "objective", "value", number] := by
  rw [fields, toList_fullHeader, spaced, fieldsOf_append_words _ (isWord_objectiveWords hnumber), List.map_append]
  simp [fields, objectiveWords]

/-- The hyphen in front of the objective is the first one if the status has none. -/
lemma splitAtHyphen_fullHeader {status : String} (h : '-' ∉ status.toList) (number : String) :
    splitAtHyphen (fullHeader status number).toList = (status.toList ++ [' '], some (spaced (objectiveWords number))) := by
  have hhyphen : '-' ∉ status.toList ++ [' '] := by simp [h]
  rw [toList_fullHeader, ← splitAtHyphen_append hhyphen, List.append_assoc]
  rfl

/-- The hyphen of a status comes before the one in front of the objective. -/
lemma splitAtHyphen_fullHeader_of_eq {status : String} {before rest : List Char}
    (hstatus : status.toList = before ++ '-' :: rest) (hbefore : '-' ∉ before) (number : String) :
    splitAtHyphen (fullHeader status number).toList
      = (before, some (rest ++ spaced (['-'] :: objectiveWords number))) := by
  rw [toList_fullHeader, ← splitAtHyphen_append hbefore, hstatus, List.append_assoc]
  rfl

lemma namedStatus_fullHeader (status number : String) : namedStatus (fullHeader status number) = namedStatus status := by
  by_cases h : '-' ∈ status.toList
  · obtain ⟨before, rest, hstatus, hbefore⟩ := List.eq_append_cons_of_mem h
    rw [namedStatus, splitAtHyphen_fullHeader_of_eq hstatus hbefore, namedStatus, hstatus, splitAtHyphen_append hbefore]
  · have hblank : lowerAfter [] (status.toList ++ [' ']) = lowerAfter [] status.toList ++ [' '] :=
      lowerAfter_append (isSeparator_of_isBlank rfl) [] status.toList []
    rw [namedStatus, splitAtHyphen_fullHeader h, namedStatus, splitAtHyphen_of_notMem h, hblank, trim_append_blank rfl]

/-- The words behind the first hyphen of a full header, if the status has none. -/
lemma wordsBehind_fullHeader {status number : String} (h : '-' ∉ status.toList) (hnumber : IsWord number.toList) :
    wordsBehind (fullHeader status number) = ["objective", "value", number] := by
  have hfields : fieldsOf (spaced (objectiveWords number)) = objectiveWords number :=
    fieldsOf_append_words [] (List.forall_mem_cons.mp (isWord_objectiveWords hnumber)).2
  rw [wordsBehind, splitAtHyphen_fullHeader h, Option.elim, fields, String.toList_ofList, hfields]
  simp [objectiveWords]

/-- The words behind the first hyphen of a full header, if the status has one. -/
lemma wordsBehind_fullHeader_of_mem {status number : String} (h : '-' ∈ status.toList) (hnumber : IsWord number.toList) :
    wordsBehind (fullHeader status number) = wordsBehind status ++ ["-", "objective", "value", number] := by
  obtain ⟨before, rest, hstatus, hbefore⟩ := List.eq_append_cons_of_mem h
  rw [wordsBehind, splitAtHyphen_fullHeader_of_eq hstatus hbefore, wordsBehind, hstatus, splitAtHyphen_append hbefore,
    Option.elim, Option.elim, fields, fields, String.toList_ofList, String.toList_ofList, spaced,
    fieldsOf_append_words rest (isWord_objectiveWords hnumber), List.map_append]
  simp [objectiveWords]

/-- The words of a full header are there in lower case, too. -/
lemma containsChars_spaced (before : List Char) (number : String) :
    containsChars "objective value".toList (lowerAfter [] (before ++ spaced (objectiveWords number))) = true := by
  have hblank : IsSeparator ' ' := isSeparator_of_isBlank rfl
  have hspaced : before ++ spaced (objectiveWords number)
      = before ++ ' ' :: ("objective".toList ++ ' ' :: ("value".toList ++ ' ' :: number.toList)) := by
    simp [spaced, objectiveWords]
  have hlower : lowerAfter [] (before ++ spaced (objectiveWords number))
      = lowerAfter [] before ++ [' '] ++ "objective value".toList ++ ' ' :: lowerAfter [] number.toList := by
    rw [hspaced, lowerAfter_append hblank, lowerAfter_append hblank, lowerAfter_append hblank]
    simp only [List.append_assoc]
    rfl
  rw [hlower]
  exact containsChars_iff.mpr (List.infix_append _ _ _)

/-- **A full header gives the status and the third word behind the first hyphen.** -/
lemma clpHeader_fullHeader (status number : String) :
    clpHeader (fullHeader status number)
      = if namedStatus status = .infeasible then .ok (.done (onlyStatus (namedStatus status)))
        else realField ((wordsBehind (fullHeader status number)).map lower) 2 >>= fun objective =>
          .ok (.more (some { onlyStatus (namedStatus status) with objective })) := by
  rw [← namedStatus_fullHeader status number]
  by_cases h : '-' ∈ status.toList
  · obtain ⟨before, rest, hstatus, hbefore⟩ := List.eq_append_cons_of_mem h
    have hspaced : rest ++ spaced (['-'] :: objectiveWords number)
        = rest ++ [' ', '-'] ++ spaced (objectiveWords number) := by
      simp [spaced]
    refine clpHeader_objective (splitAtHyphen_fullHeader_of_eq hstatus hbefore number) ?_
    rw [hspaced]
    exact containsChars_spaced _ number
  · exact clpHeader_objective (splitAtHyphen_fullHeader h number) (containsChars_spaced [] number)

/-- The line that gives the objective in the older layout. -/
lemma clpLine_objective (solution : Solution) {number : String} (hnumber : IsWord number.toList) :
    clpLine solution ("Objective value " ++ number)
      = realField ["Objective", "value", number] 2 >>= fun objective => .ok { solution with objective } := by
  have hchars : ("Objective value " ++ number).toList = "Objective value".toList ++ ' ' :: number.toList := by simp
  have hfields : fields ("Objective value " ++ number) = ["Objective", "value", number] := by
    have hwords : fieldsOf "Objective value".toList = ["Objective".toList, "value".toList] := by decide +kernel
    rw [fields, hchars, fieldsOf_append_cons rfl, hwords, fieldsOf_eq_singleton hnumber]
    simp
  have hbegins : beginsWith ("Objective value " ++ number) "Objective value" = true := by
    rw [beginsWith, hchars]
    exact List.isPrefixOf_iff_prefix.mpr (List.prefix_append _ _)
  rw [clpLine, hfields, hbegins]
  rfl

/-! ### What is read -/

lemma clpReader_start : clpReader.start = none := rfl

lemma step_none (header : String) : clpReader.step none header = clpHeader header := by rw [clpReader]

lemma step_some (solution : Solution) (text : String) :
    clpReader.step (some solution) text = (clpLine solution text).map (.more ∘ some) := by rw [clpReader]

/-- What a report is read as that names a status, gives the objective by a word, and has some more lines. -/
def outcome (status : Status) (word : Option String) (rest : List String) : Option Solution :=
  if status = .infeasible then some (onlyStatus status)
  else (number? word).bind fun objective => (clpReader.verdict (some { onlyStatus status with objective }) rest).toOption

/-- **In the newer layout, the objective is the third word behind the first hyphen.** -/
lemma toOption_verdict_newer (status number : String) (rest : List String) :
    (clpReader.verdict clpReader.start (newerLines status number rest)).toOption
      = outcome (namedStatus status) (wordsBehind (fullHeader status number))[2]? rest := by
  rw [newerLines, ReportReader.verdict_cons, clpReader_start, step_none, clpHeader_fullHeader, outcome]
  split_ifs with hinfeasible
  · rfl
  · rw [bind_assoc, toOption_realField_bind, List.getElem?_map, number?_map_lower]
    rfl

/-- **In the older layout, the objective is what the second line says.** -/
lemma toOption_verdict_older {status number : String} (hstatus : contains (lower status) "objective value" = false)
    (hnumber : IsWord number.toList) (rest : List String) :
    (clpReader.verdict clpReader.start (olderLines status number rest)).toOption
      = outcome (namedStatus status) (some number) rest := by
  rw [olderLines, ReportReader.verdict_cons, clpReader_start, step_none, clpHeader_plain hstatus, outcome]
  split_ifs with hinfeasible
  · rfl
  · have hline : clpReader.step (some (onlyStatus (namedStatus status))) ("Objective value " ++ number)
        = realField ["Objective", "value", number] 2 >>= fun objective =>
          .ok (.more (some { onlyStatus (namedStatus status) with objective })) := by
      rw [step_some, clpLine_objective _ hnumber]
      cases realField ["Objective", "value", number] 2 <;> rfl
    have hmore : (Except.ok (.more (some (onlyStatus (namedStatus status)))) >>=
          clpReader.conclude (("Objective value " ++ number) :: rest))
        = clpReader.verdict (some (onlyStatus (namedStatus status))) (("Objective value " ++ number) :: rest) := rfl
    rw [hmore, ReportReader.verdict_cons, hline, bind_assoc, toOption_realField_bind]
    rfl

/-- Two readings are alike: the same solution, or two reports that are refused for what they say. -/
inductive ReadAlike : Except Error Solution → Except Error Solution → Prop
  | accepted (s : Solution) : ReadAlike (.ok s) (.ok s)
  | refused (solver solver' line line' reason reason' : String) (number number' : ℕ) :
      ReadAlike (.error (.parse solver number line reason)) (.error (.parse solver' number' line' reason'))

lemma ReadAlike.eq_ok {reading : Except Error Solution} {s : Solution} (h : ReadAlike reading (.ok s)) :
    reading = .ok s := by
  cases h
  rfl

/-- Two texts with the same outcome are read alike. -/
lemma readAlike_of_toOption_verdict {text other : String}
    (h : (clpReader.verdict clpReader.start (textLines text)).toOption
      = (clpReader.verdict clpReader.start (textLines other)).toOption) :
    ReadAlike (clpReader.read (Utf8.encode text)).value (clpReader.read (Utf8.encode other)).value := by
  have htext := fileLines_encode_text text
  have hother := fileLines_encode_text other
  cases hout : (clpReader.verdict clpReader.start (textLines text)).toOption with
  | some s =>
      rw [ReportReader.read_of_toOption_eq_some htext hout,
        ReportReader.read_of_toOption_eq_some hother (h.symm.trans hout)]
      exact .accepted s
  | none =>
      obtain ⟨number, line, reason, hread⟩ := ReportReader.read_of_toOption_eq_none htext hout
      obtain ⟨number', line', reason', hread'⟩ := ReportReader.read_of_toOption_eq_none hother (h.symm.trans hout)
      rw [hread, hread']
      exact .refused _ _ _ _ _ _ _ _

/-- The hyphen in front of the objective and the words behind it are no numbers. -/
lemma number?_third_of_few {words : List String} (h : words.length < 3) (number : String) :
    number? (words ++ ["-", "objective", "value", number])[2]? = none := by
  have hnone : number? (some "value") = none ∧ number? (some "objective") = none ∧ number? (some "-") = none := by
    decide +kernel
  rcases words with _ | ⟨_, _ | ⟨_, _ | ⟨_, words⟩⟩⟩
  · exact hnone.1
  · exact hnone.2.1
  · exact hnone.2.2
  · simp only [List.length_cons] at h
    omega

/-- **The newer layout is read like the older one with the third word behind the first hyphen in place of the
objective.** So the two layouts of a report are read alike if its status has no hyphen, and also if it says that the
problem is infeasible. A report whose status has a hyphen and at most two words behind it is refused in the newer
layout, unless it says that. -/
theorem layouts_alike {status number : String} (hstatus : contains (lower status) "objective value" = false)
    (hnumber : IsWord number.toList) {rest : List String} {newer : String}
    (hnewer : textLines newer = newerLines status number rest) :
    (∀ older, textLines older = olderLines status number rest →
      '-' ∉ status.toList ∨ namedStatus status = .infeasible →
      ReadAlike (clpReader.read (Utf8.encode newer)).value (clpReader.read (Utf8.encode older)).value)
    ∧ (∀ older word, textLines older = olderLines status word rest →
      (wordsBehind (fullHeader status number))[2]? = some word →
      ReadAlike (clpReader.read (Utf8.encode newer)).value (clpReader.read (Utf8.encode older)).value)
    ∧ ('-' ∈ status.toList → namedStatus status ≠ .infeasible → (wordsBehind status).length < 3 →
      ∃ place line reason, (clpReader.read (Utf8.encode newer)).value = .error (.parse "Clp" place line reason)) := by
  refine ⟨fun older holder hplain => ?_, fun older word holder hword => ?_, fun hmem hfeasible hfew => ?_⟩
  · refine readAlike_of_toOption_verdict ?_
    rw [hnewer, holder, toOption_verdict_newer, toOption_verdict_older hstatus hnumber]
    rcases hplain with hplain | hinfeasible
    · rw [wordsBehind_fullHeader hplain hnumber]
      rfl
    · rw [outcome, outcome, if_pos hinfeasible, if_pos hinfeasible]
  · have hisWord : IsWord word.toList := isWord_of_mem_wordsBehind (List.mem_of_getElem? hword)
    refine readAlike_of_toOption_verdict ?_
    rw [hnewer, holder, toOption_verdict_newer, toOption_verdict_older hstatus hisWord, hword]
  · refine ReportReader.read_of_toOption_eq_none (fileLines_encode_text newer) ?_
    rw [hnewer, toOption_verdict_newer, outcome, if_neg hfeasible, wordsBehind_fullHeader_of_mem hmem hnumber,
      number?_third_of_few hfew, Option.bind_none]

/-- A report whose status has a hyphen, in the older layout and in the newer one. -/
def olderCtrlC : String := "Stopped on ctrl-c\nObjective value 7\n0 x0 2 1\n"

def newerCtrlC : String := "Stopped on ctrl-c - objective value 7\n0 x0 2 1\n"

/-- The solution with the objective and the column of these reports. -/
def sample (status : Status) : Solution :=
  { Solution.none with values := .put .empty "x0" (.ofInt 2), objective := .ofInt 7, status }

/-- **The two layouts are not read alike if the status has a hyphen.** -/
theorem not_readAlike_ctrlC :
    contains (lower "Stopped on ctrl-c") "objective value" = false ∧ IsWord "7".toList
      ∧ textLines olderCtrlC = olderLines "Stopped on ctrl-c" "7" ["0 x0 2 1"]
      ∧ textLines newerCtrlC = newerLines "Stopped on ctrl-c" "7" ["0 x0 2 1"]
      ∧ ¬ ReadAlike (clpReader.read (Utf8.encode newerCtrlC)).value (clpReader.read (Utf8.encode olderCtrlC)).value := by
  refine ⟨by decide +kernel, by decide, by decide +kernel, by decide +kernel, fun halike => ?_⟩
  have holder : (clpReader.read (Utf8.encode olderCtrlC)).value = .ok (sample .unknown) := by decide +kernel
  have hnewer : (clpReader.read (Utf8.encode newerCtrlC)).value
      = .error (.parse "Clp" 1 "Stopped on ctrl-c - objective value 7" "field 2 'objective': invalid float literal") := by
    decide +kernel
  rw [holder, hnewer] at halike
  cases halike

/-- A report whose status has no hyphen, in the older layout and in the newer one. -/
def olderOptimal : String := "Optimal\nObjective value 7\n0 x0 2 1\n"

def newerOptimal : String := "Optimal - objective value 7\n0 x0 2 1\n"

theorem layouts_alike_optimal :
    (clpReader.read (Utf8.encode newerOptimal)).value = .ok (sample .optimal)
      ∧ ∃ place line reason, (clpReader.read (Utf8.encode newerCtrlC)).value = .error (.parse "Clp" place line reason) := by
  constructor
  · have holder : (clpReader.read (Utf8.encode olderOptimal)).value = .ok (sample .optimal) := by decide +kernel
    have hlayouts := @layouts_alike "Optimal" "7" (by decide +kernel) (by decide) ["0 x0 2 1"] newerOptimal
      (by decide +kernel)
    have halike := hlayouts.1 olderOptimal (by decide +kernel) (.inl (by decide))
    rw [holder] at halike
    exact halike.eq_ok
  · have hlayouts := @layouts_alike "Stopped on ctrl-c" "7" (by decide +kernel) (by decide) ["0 x0 2 1"] newerCtrlC
      (by decide +kernel)
    exact hlayouts.2.2 (by decide) (by decide +kernel) (by decide +kernel)

end ClpReport

end LinearProgram
