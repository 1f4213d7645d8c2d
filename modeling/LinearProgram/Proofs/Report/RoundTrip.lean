import LinearProgram.Proofs.Number.RoundTrip
import LinearProgram.Proofs.Report.Readable
import LinearProgram.Proofs.Text.Lines

/-!
The round trip of solutions through the text in which they are kept.

A kept text has seven lines up to the heading of its table, and a line for each value. Its fields are keywords,
numbers and names, none of which holds a blank, so each line puts back what was written with it, and the reader's
state behind any number of lines is known in advance.

* `Solution.reportLines`, `Solution.reportChars_eq`: the lines of a kept text.
* `Solution.stateAfter`: what the reader knows behind the first lines.
* `Solution.step_stateAfter`: **every line puts back what was written with it.**
* `ReportReader.readFrom_take`: what a reader makes of the first lines, if its states are known.
* `Solution.read_firstLines`: what is read from a kept text that is cut off behind any of its lines.
-/

namespace LinearProgram

/-! ### Lines of a kept text -/

/-- The lines up to the heading of the table. -/
def Solution.headingLines (s : Solution) : List (List Char) :=
  ["Rows:       ".toList ++ Decimal.digitChars s.rowCount,
   "Columns:    ".toList ++ Decimal.digitChars s.columnCount,
   "Non-zeros:  ".toList ++ Decimal.digitChars s.nonzeroCount,
   "Status:     ".toList ++ s.status.name.toList,
   "Objective:  ".toList ++ s.objective.chars,
   [],
   "Column      Activity".toList]

/-- The line of a value. -/
def activityLine (e : String × Binary64) : List Char :=
  Solution.padLeft 10 e.1.toList ++ ' ' :: Solution.padLeft 10 e.2.chars

/-- The lines of a kept text. -/
def Solution.reportLines (s : Solution) : List (List Char) :=
  s.headingLines ++ s.values.entries.map activityLine

/-- **A kept text is its lines, each with its end.** -/
lemma Solution.reportChars_eq (s : Solution) : s.reportChars = ended '\n' s.reportLines := by
  have hlast : "Column      Activity\n".toList = "Column      Activity".toList ++ ['\n'] := rfl
  have htable : s.values.entries.flatMap activityChars = ended '\n' (s.values.entries.map activityLine) := by
    rw [ended, List.flatMap_map]
    rfl
  have hheading : s.headingChars = ended '\n' s.headingLines := by
    unfold headingChars headingLines ended
    rw [hlast]
    simp only [List.flatMap_cons, List.flatMap_nil, List.nil_append, List.append_nil, List.append_assoc]
  rw [reportChars, reportLines, hheading, htable]
  exact List.flatMap_append.symm

/-! ### Fields of a kept text -/

/-- A word behind blanks is the one field. -/
lemma fieldsOf_padLeft {w : List Char} (hw : IsWord w) (width : ℕ) :
    fieldsOf (Solution.padLeft width w) = [w] := by
  rw [Solution.padLeft, fieldsOf_replicate_append rfl, fieldsOf_eq_singleton hw]

/-- **The fields of a line of a value are its name and its number.** -/
lemma fieldsOf_activityLine {e : String × Binary64} (he : IsWord e.1.toList) :
    fieldsOf (activityLine e) = [e.1.toList, e.2.chars] := by
  rw [activityLine, fieldsOf_append_cons rfl, fieldsOf_padLeft he, fieldsOf_padLeft e.2.isWord_chars]
  rfl

/-- The fields of a line of the heading: its keyword and what is written with it. -/
lemma fieldsOf_keyword {keyword w : List Char} (hkeyword : IsWord keyword) (hw : IsWord w) (blanks : ℕ) :
    fieldsOf (keyword ++ ' ' :: List.replicate blanks ' ' ++ w) = [keyword, w] := by
  rw [List.append_assoc, List.cons_append, fieldsOf_word_append hkeyword rfl, fieldsOf_replicate_append rfl,
    fieldsOf_eq_singleton hw]

lemma fields_ofList (l : List Char) : fields (String.ofList l) = (fieldsOf l).map String.ofList := by
  rw [fields, String.toList_ofList]

lemma Status.isWord_name (status : Status) : IsWord status.name.toList := by
  cases status <;> decide

/-- A status is known from its name. -/
lemma Status.ofName?_name (status : Status) : Status.ofName? status.name = some status := by
  cases status <;> decide

/-! ### Ends of lines -/

lemma IsWord.isLine {w : List Char} (h : IsWord w) : IsLine w :=
  ⟨fun hmem => absurd (h.solid _ hmem) (by decide), fun hmem => absurd (h.solid _ hmem) (by decide)⟩

lemma IsLine.append {l m : List Char} (hl : IsLine l) (hm : IsLine m) : IsLine (l ++ m) :=
  ⟨fun h => (List.mem_append.mp h).elim hl.feed hm.feed, fun h => (List.mem_append.mp h).elim hl.ret hm.ret⟩

lemma IsLine.padLeft {l : List Char} (hl : IsLine l) (width : ℕ) : IsLine (Solution.padLeft width l) := by
  refine IsLine.append ⟨fun h => ?_, fun h => ?_⟩ hl
  · exact absurd (List.eq_of_mem_replicate h) (by decide)
  · exact absurd (List.eq_of_mem_replicate h) (by decide)

lemma isLine_activityLine {e : String × Binary64} (he : IsWord e.1.toList) : IsLine (activityLine e) := by
  have hblank : IsLine [' '] := ⟨by decide, by decide⟩
  exact (he.isLine.padLeft 10).append (hblank.append (e.2.isWord_chars.isLine.padLeft 10))

/-- **No name, number or keyword ends a line.** -/
lemma Solution.isLine_of_mem_reportLines {s : Solution} (hs : s.IsReadable) :
    ∀ l ∈ s.reportLines, IsLine l := by
  intro l hl
  rcases List.mem_append.mp hl with hl | hl
  · have hliteral : ∀ {k : List Char}, '\n' ∉ k ∧ '\r' ∉ k → IsLine k := fun h => ⟨h.1, h.2⟩
    have hcount (n : ℕ) : IsLine (Decimal.digitChars n) := (Decimal.isWord_digitChars n).isLine
    simp only [headingLines, List.mem_cons, List.not_mem_nil, or_false] at hl
    rcases hl with rfl | rfl | rfl | rfl | rfl | rfl | rfl
    · exact (hliteral (by decide)).append (hcount s.rowCount)
    · exact (hliteral (by decide)).append (hcount s.columnCount)
    · exact (hliteral (by decide)).append (hcount s.nonzeroCount)
    · exact (hliteral (by decide)).append s.status.isWord_name.isLine
    · exact (hliteral (by decide)).append s.objective.isWord_chars.isLine
    · exact hliteral (by decide)
    · exact hliteral (by decide)
  · obtain ⟨e, he, rfl⟩ := List.mem_map.mp hl
    exact isLine_activityLine (hs.names e he)

/-! ### Fields that are read back -/

lemma countField_digitChars {n : ℕ} (hn : n ≤ maxSize) (keyword : String) :
    countField [keyword, String.ofList (Decimal.digitChars n)] 1 = .ok n := by
  have hread : countForm (String.ofList (Decimal.digitChars n)) = .ok n := by
    rw [countForm, readNatural, String.toList_ofList, readNaturalChars_digitChars hn]
    rfl
  simp only [countField, readField, List.getElem?_cons_succ, List.getElem?_cons_zero, hread]

lemma realField_chars {x : Binary64} (hx : x.isNan = false) (keyword : String) :
    realField [keyword, String.ofList x.chars] 1 = .ok x := by
  have hread : realForm (String.ofList x.chars) = .ok x := by
    rw [realForm, Binary64.read, String.toList_ofList, Binary64.readChars_chars hx]
    rfl
  simp only [realField, readField, List.getElem?_cons_succ, List.getElem?_cons_zero, hread]

lemma statusField_name (status : Status) (keyword : String) :
    readField statusForm [keyword, status.name] 1 = .ok status := by
  have hread : statusForm status.name = .ok status := by
    rw [statusForm, Status.ofName?_name]
  simp only [readField, List.getElem?_cons_succ, List.getElem?_cons_zero, hread]

/-! ### Values in order -/

/-- A name behind all others is set at the end. -/
lemma putSorted_of_lt {α : Type} {name : String} (value : α) {es : List (String × α)}
    (h : ∀ e ∈ es, e.1 < name) : putSorted name value es = es ++ [(name, value)] := by
  induction es with
  | nil => rfl
  | cons e es ih =>
      have he := h e List.mem_cons_self
      rw [putSorted, if_neg (String.lt_asymm he), if_neg (Ne.symm (Std.ne_of_lt he)),
        ih fun d hd => h d (List.mem_cons_of_mem e hd), List.cons_append]

/-- The first values in the order of their names. -/
def Assignment.take (a : Assignment) (k : ℕ) : Assignment :=
  ⟨a.entries.take k, a.sorted.sublist (List.take_sublist k a.entries)⟩

/-- The next value in the order of names is set behind the values before it. -/
lemma Assignment.put_take (a : Assignment) {k : ℕ} (hk : k < a.entries.length) :
    (a.take k).put a.entries[k].1 a.entries[k].2 = a.take (k + 1) := by
  have hbefore : ∀ e ∈ a.entries.take k, e.1 < a.entries[k].1 := by
    intro e he
    obtain ⟨i, hi, rfl⟩ := List.mem_take_iff_getElem.mp he
    exact List.pairwise_iff_getElem.mp a.sorted i k (by omega) hk (by omega)
  simp only [put, take, Assignment.mk.injEq]
  rw [putSorted_of_lt _ hbefore, List.take_succ_eq_append_getElem hk]

lemma Assignment.take_of_length_le {a : Assignment} {k : ℕ} (hk : a.entries.length ≤ k) : a.take k = a := by
  obtain ⟨entries, sorted⟩ := a
  simp only [take, Assignment.mk.injEq]
  exact List.take_of_length_le hk

/-! ### States of the reader -/

/-- What the reader knows behind the first lines of a kept text. -/
def Solution.stateAfter (s : Solution) (k : ℕ) : CanonicalState where
  solution :=
    { values := s.values.take (k - 7)
      objective := if 5 ≤ k then s.objective else .zero
      status := if 4 ≤ k then s.status else .unknown
      rowCount := if 1 ≤ k then s.rowCount else 0
      columnCount := if 2 ≤ k then s.columnCount else 0
      nonzeroCount := if 3 ≤ k then s.nonzeroCount else 0 }
  seenStatus := decide (4 ≤ k)
  inTable := decide (7 ≤ k)

/-- A solution without an indeterminate number. -/
structure Solution.IsNanFree (s : Solution) : Prop where
  objective : s.objective.isNan = false
  values : ∀ e ∈ s.values.entries, e.2.isNan = false

/-! ### Lines that are read back -/

/-- A line of the heading is read by its keyword. -/
lemma Solution.step_keyword {s : Solution} {i : ℕ} (hi : i < 7) (keyword : String) (blanks : ℕ)
    {start : String} {w : List Char} (hkeyword : IsWord keyword.toList) (hw : IsWord w)
    (hstart : start.toList = keyword.toList ++ ' ' :: List.replicate blanks ' ')
    (hheader : (s.stateAfter i).header keyword [keyword, String.ofList w] = .ok (s.stateAfter (i + 1))) :
    canonicalReader.step (s.stateAfter i) (String.ofList (start.toList ++ w))
      = .ok (.more (s.stateAfter (i + 1))) := by
  have hfields : fields (String.ofList (start.toList ++ w)) = [keyword, String.ofList w] := by
    rw [fields_ofList, hstart, fieldsOf_keyword hkeyword hw, List.map_cons, String.ofList_toList]
    rfl
  have hbefore : (s.stateAfter i).inTable = false := decide_eq_false (by omega)
  simp only [canonicalReader, hfields, CanonicalState.line, hbefore, Bool.false_eq_true, if_false, hheader]
  rfl

/-- **Every line of the heading puts back what was written with it.** -/
lemma Solution.step_heading {s : Solution} (hs : s.IsReadable) (hnan : s.IsNanFree) {i : ℕ} {l : List Char}
    (hl : s.headingLines[i]? = some l) :
    canonicalReader.step (s.stateAfter i) (String.ofList l) = .ok (.more (s.stateAfter (i + 1))) := by
  have hi : i < 7 := (List.getElem?_eq_some_iff.mp hl).1
  have hcount (n : ℕ) := Decimal.isWord_digitChars n
  interval_cases i <;> obtain rfl := Option.some.inj hl
  · refine step_keyword (by omega) "Rows:" 6 (by decide) (hcount s.rowCount) rfl ?_
    simp only [CanonicalState.header, countField_digitChars hs.rowCount]
    rfl
  · refine step_keyword (by omega) "Columns:" 3 (by decide) (hcount s.columnCount) rfl ?_
    simp only [CanonicalState.header, countField_digitChars hs.columnCount]
    rfl
  · refine step_keyword (by omega) "Non-zeros:" 1 (by decide) (hcount s.nonzeroCount) rfl ?_
    simp only [CanonicalState.header, countField_digitChars hs.nonzeroCount]
    rfl
  · refine step_keyword (by omega) "Status:" 4 (by decide) s.status.isWord_name rfl ?_
    simp only [CanonicalState.header, String.ofList_toList, statusField_name]
    rfl
  · refine step_keyword (by omega) "Objective:" 1 (by decide) s.objective.isWord_chars rfl ?_
    simp only [CanonicalState.header, realField_chars hnan.objective]
    rfl
  · -- a line without a field changes nothing
    rfl
  · have hsplit : "Column      Activity".toList = "Column      ".toList ++ "Activity".toList := rfl
    rw [hsplit]
    exact step_keyword (by omega) "Column" 5 (by decide) (by decide) rfl rfl

/-- **Every line of the table puts back the value that was written with it.** -/
lemma Solution.step_activity {s : Solution} (hs : s.IsReadable) (hnan : s.IsNanFree) {j : ℕ}
    (hj : j < s.values.entries.length) :
    canonicalReader.step (s.stateAfter (7 + j)) (String.ofList (activityLine s.values.entries[j]))
      = .ok (.more (s.stateAfter (7 + j + 1))) := by
  have hmem : s.values.entries[j] ∈ s.values.entries := List.getElem_mem hj
  have hfields : fields (String.ofList (activityLine s.values.entries[j]))
      = [s.values.entries[j].1, String.ofList s.values.entries[j].2.chars] := by
    rw [fields_ofList, fieldsOf_activityLine (hs.names _ hmem), List.map_cons, String.ofList_toList]
    rfl
  have htable : (s.stateAfter (7 + j)).inTable = true := decide_eq_true (by omega)
  have hnext : (s.stateAfter (7 + j)).solution.assign s.values.entries[j].1 s.values.entries[j].2
      = (s.stateAfter (7 + j + 1)).solution := by
    have hbefore : 7 + j - 7 = j := by omega
    have hbehind : 7 + j + 1 - 7 = j + 1 := by omega
    simp only [stateAfter, assign, hbefore, hbehind, s.values.put_take hj, Solution.mk.injEq, true_and]
    refine ⟨?_, ?_, ?_, ?_, ?_⟩ <;> rw [if_pos (by omega), if_pos (by omega)]
  simp only [canonicalReader, hfields, CanonicalState.line, htable, if_true,
    realField_chars (hnan.values _ hmem)]
  refine congrArg (fun state => Except.ok (Progress.more state)) ?_
  rw [CanonicalState.mk.injEq]
  exact ⟨hnext, (decide_eq_true (by omega)).trans (decide_eq_true (by omega)).symm,
    (decide_eq_true (by omega)).symm⟩

/-- **Every line puts back what was written with it.** -/
lemma Solution.step_stateAfter {s : Solution} (hs : s.IsReadable) (hnan : s.IsNanFree) {i : ℕ} {l : List Char}
    (hl : s.reportLines[i]? = some l) :
    canonicalReader.step (s.stateAfter i) (String.ofList l) = .ok (.more (s.stateAfter (i + 1))) := by
  have hlength : s.headingLines.length = 7 := rfl
  rcases Nat.lt_or_ge i 7 with hi | hi
  · rw [reportLines, List.getElem?_append_left (by omega)] at hl
    exact step_heading hs hnan hl
  · obtain ⟨j, rfl⟩ := Nat.exists_eq_add_of_le hi
    rw [reportLines, List.getElem?_append_right (by omega), hlength, Nat.add_sub_cancel_left,
      List.getElem?_map] at hl
    obtain ⟨e, he, rfl⟩ := Option.map_eq_some_iff.mp hl
    obtain ⟨hj, rfl⟩ := List.getElem?_eq_some_iff.mp he
    exact step_activity hs hnan hj

/-! ### Runs of the reader -/

/-- What a reader makes of lines that only change its state, if its states are known. -/
lemma ReportReader.readFrom_eq {σ : Type} {r : ReportReader σ} (states : ℕ → σ) {lines : List String} {n : ℕ}
    (h : ∀ {i line}, lines[i]? = some line → r.step (states (n + i)) line = .ok (.more (states (n + i + 1)))) :
    r.readFrom n (states n) (lines.map .text)
      = (r.finish (states (n + lines.length))).mapError (.truncated (n + lines.length)) := by
  induction lines generalizing n with
  | nil => rfl
  | cons line lines ih =>
      have hfirst : r.step (states n) line = .ok (.more (states (n + 1))) := h (i := 0) rfl
      have hrest := ih (n := n + 1) fun {i line} hi => by
        rw [Nat.add_right_comm n 1 i]
        exact h (i := i + 1) hi
      rw [List.map_cons, ReportReader.readFrom, hfirst]
      simp only
      rw [hrest, List.length_cons, Nat.add_right_comm n 1, Nat.add_assoc]

/-- **What is read from the first lines of a kept text.** The reader is where it was known to be. -/
lemma Solution.readLines_take {s : Solution} (hs : s.IsReadable) (hnan : s.IsNanFree) (k : ℕ) :
    canonicalReader.readLines (fileLines (Utf8.encodeChars (firstLines k s.reportChars)))
      = (s.stateAfter (min k s.reportLines.length)).finish.mapError
          (.truncated (min k s.reportLines.length)) := by
  have hlines := s.isLine_of_mem_reportLines hs
  have hsteps : ∀ {i line}, ((s.reportLines.take k).map String.ofList)[i]? = some line →
      canonicalReader.step (s.stateAfter (0 + i)) line = .ok (.more (s.stateAfter (0 + i + 1))) := by
    intro i line hi
    rw [List.getElem?_map] at hi
    obtain ⟨l, hl, rfl⟩ := Option.map_eq_some_iff.mp hi
    rw [Nat.zero_add]
    refine step_stateAfter hs hnan ?_
    rw [List.getElem?_take] at hl
    split at hl
    · exact hl
    · exact absurd hl (by simp)
  have hrun := ReportReader.readFrom_eq s.stateAfter hsteps
  rw [List.length_map, List.length_take, Nat.zero_add] at hrun
  rw [s.reportChars_eq, firstLines_ended fun l hl => (hlines l hl).feed,
    fileLines_encode fun l hl => hlines l (List.mem_of_mem_take hl), ReportReader.readLines]
  exact (congrArg _ (List.map_map.symm)).trans hrun

/-! ### The round trip -/

lemma Solution.length_reportLines (s : Solution) : s.reportLines.length = 7 + s.values.entries.length := by
  rw [reportLines, List.length_append, List.length_map]
  rfl

/-- A text that ends within the heading holds no solution. -/
lemma Solution.finish_stateAfter_of_lt (s : Solution) {k : ℕ} (hk : k < 7) :
    (s.stateAfter k).finish = .error "missing status or column table" := by
  have htable : (s.stateAfter k).inTable = false := decide_eq_false (by omega)
  rw [CanonicalState.finish, htable, Bool.and_false, if_neg Bool.false_ne_true]

/-- A text that ends within the table holds the solution up to there. -/
lemma Solution.finish_stateAfter (s : Solution) {k : ℕ} (hk : 7 ≤ k) :
    (s.stateAfter k).finish = .ok { s with values := s.values.take (k - 7) } := by
  have htable : (s.stateAfter k).inTable = true := decide_eq_true (by omega)
  have hstatus : (s.stateAfter k).seenStatus = true := decide_eq_true (by omega)
  rw [CanonicalState.finish, htable, hstatus, Bool.and_true, if_pos rfl, stateAfter]
  simp only [Except.ok.injEq, Solution.mk.injEq, true_and]
  refine ⟨?_, ?_, ?_, ?_, ?_⟩ <;> exact if_pos (by omega)

/-- **The round trip of solutions**: from the first lines of its kept text, a solution that was read from a
report is read back with the values whose lines are there, and a text that ends within the heading is refused
as truncated. From the whole text, the whole solution is read back. -/
theorem Solution.read_firstLines {s : Solution} (hs : s.IsRead) (hnan : s.IsNanFree) :
    (∀ k, (canonicalReader.read (Utf8.encodeChars (firstLines k s.reportChars))).value
        = if k < 7 then .error (.parse "solution report" k "" "truncated report: missing status or column table")
          else .ok { s with values := s.values.take (min (k - 7) s.values.entries.length) })
      ∧ (canonicalReader.read (Utf8.encode s.report)).value = .ok s := by
  have hread (k : ℕ) : (canonicalReader.read (Utf8.encodeChars (firstLines k s.reportChars))).value
      = if k < 7 then .error (.parse "solution report" k "" "truncated report: missing status or column table")
        else .ok { s with values := s.values.take (min (k - 7) s.values.entries.length) } := by
    have hlines := readLines_take hs.isReadable hnan k
    have hlength := s.length_reportLines
    rw [ReportReader.read, hlines]
    split_ifs with hk
    · rw [Nat.min_eq_left (by omega), s.finish_stateAfter_of_lt hk]
      rfl
    · have hrest : min k s.reportLines.length - 7 = min (k - 7) s.values.entries.length := by omega
      rw [s.finish_stateAfter (by omega), hrest]
      rfl
  refine ⟨hread, ?_⟩
  have hwhole : firstLines s.reportLines.length s.reportChars = s.reportChars := by
    have hfeed : ∀ l ∈ s.reportLines, '\n' ∉ l := fun l hl => (isLine_of_mem_reportLines hs.isReadable l hl).feed
    rw [s.reportChars_eq, firstLines_ended hfeed, List.take_length]
  have hlast := hread s.reportLines.length
  rw [hwhole, s.length_reportLines, if_neg (by omega), Nat.add_sub_cancel_left, Nat.min_self,
    Assignment.take_of_length_le (Nat.le_refl _)] at hlast
  rw [Utf8.encode, report, String.toList_ofList]
  exact hlast

/-- A solution of cbc in which two columns have the names of lines of the heading. -/
def awkward : Solution where
  values := ⟨[("Column", .ofInt 2), ("Status:", .ofInt (-1))], by decide⟩
  objective := .ofInt 7
  status := .optimal
  rowCount := 0
  columnCount := 0
  nonzeroCount := 0

lemma isRead_awkward : awkward.IsRead := by
  refine .reported (.cbc "cbc" none none) (Utf8.encode
    "Optimal - objective value 7\n      0 Status:                -1                       0\n** 1 Column 2 0\n") ?_
  decide +kernel

/-- Of the text of `awkward`, eight lines hold the value of the first column. -/
theorem Solution.read_firstLines_awkward :
    awkward.IsRead ∧ awkward.IsNanFree
      ∧ (canonicalReader.read (Utf8.encodeChars (firstLines 8 awkward.reportChars))).value
          = .ok { awkward with values := awkward.values.take 1 } := by
  have hnan : awkward.IsNanFree := ⟨by decide +kernel, by decide +kernel⟩
  exact ⟨isRead_awkward, hnan, (read_firstLines isRead_awkward hnan).1 8⟩

end LinearProgram
