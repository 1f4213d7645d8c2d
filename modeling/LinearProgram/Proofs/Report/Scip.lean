import LinearProgram.Proofs.Report.Account
import LinearProgram.Report.Scip

/-!
What is read from the log of a scip session.

Four keywords tell the lines that matter from the others, and no line begins with two of them. The listing of the best
solution can be begun and ended any number of times, and an infeasible status ends the log.

* `Keyword`, `Keyword.eq_of_begins`: **a line begins with one keyword at most.**
* `inListing`, `columns`: where the listing is read, and the columns in it.
* `lastStatus`, `lastBound`: what is given last.
* `known`, `Accepts`: what is known behind some lines, and which lines are accepted; `other_eq_ok_iff`: a line leads to
  what is known behind it exactly if it is accepted.
* `account`: the account of the reader; `relevant`: the part of a log that can matter.
* `read_sections`: **a log is read exactly by its sections.**
-/

namespace LinearProgram

namespace ScipLog

/-! ### Lines with a keyword -/

/-- A line without the blanks at its ends. -/
def trimmed (text : String) : String := String.ofList (trim text.toList)

/-- The blanks at the ends of a line belong to none of its fields. -/
lemma fields_trimmed (text : String) : fields (trimmed text) = fields text := by
  rw [fields, trimmed, String.toList_ofList, fieldsOf_trim, fields]

/-- What a line that matters begins with. -/
inductive Keyword where
  | status
  | bound
  | listing
  | statistics
  deriving DecidableEq

namespace Keyword

/-- The wording of a keyword. -/
def text : Keyword → String
  | status => "SCIP Status"
  | bound => "Primal Bound"
  | listing => "objective value"
  | statistics => "Statistics"

/-- Whether a line begins with a keyword, behind blanks. -/
def begins (k : Keyword) (line : String) : Bool := beginsWith (trimmed line) k.text

/-- No keyword begins with another. -/
lemma eq_of_text (k k' : Keyword) : k.text.toList <+: k'.text.toList → k = k' := by
  cases k <;> cases k' <;> simp [text]

/-- **A line begins with one keyword at most.** -/
lemma eq_of_begins {k k' : Keyword} {line : String} (h : k.begins line = true) (h' : k'.begins line = true) :
    k = k' := by
  have hk : k.text.toList <+: (trimmed line).toList := List.isPrefixOf_iff_prefix.mp h
  have hk' : k'.text.toList <+: (trimmed line).toList := List.isPrefixOf_iff_prefix.mp h'
  rcases List.prefix_or_prefix_of_prefix hk hk' with hpre | hpre
  · exact eq_of_text k k' hpre
  · exact (eq_of_text k' k hpre).symm

lemma begins_eq_false {k k' : Keyword} {line : String} (h : k.begins line = true) (hne : k' ≠ k) :
    k'.begins line = false :=
  Bool.eq_false_iff.mpr fun h' => hne (eq_of_begins h' h)

/-- A keyword begins with a sign that is not blank, and not with `x`. -/
lemma exists_text_eq (k : Keyword) : ∃ c cs, k.text.toList = c :: cs ∧ isBlank c = false ∧ c ≠ 'x' := by
  cases k
  · exact ⟨'S', _, by simp [text]; rfl, by decide, by decide⟩
  · exact ⟨'P', _, by simp [text]; rfl, by decide, by decide⟩
  · exact ⟨'o', _, by simp [text]; rfl, by decide, by decide⟩
  · exact ⟨'S', _, by simp [text]; rfl, by decide, by decide⟩

/-- A line with a keyword has a first field, which does not begin with `x`. -/
lemma exists_fields_of_begins {k : Keyword} {line : String} (h : k.begins line = true) :
    ∃ name rest, fields line = name :: rest ∧ beginsWith name "x" = false := by
  obtain ⟨c, cs, htext, hblank, hx⟩ := k.exists_text_eq
  obtain ⟨tail, hline⟩ : k.text.toList <+: (trimmed line).toList := List.isPrefixOf_iff_prefix.mp h
  rw [htext, List.cons_append] at hline
  obtain ⟨w, ws, hfields⟩ := exists_fieldsOf_cons hblank (cs ++ tail)
  refine ⟨String.ofList (c :: w), ws.map String.ofList, ?_, ?_⟩
  · rw [← fields_trimmed, fields, ← hline, hfields, List.map_cons]
  · simp [beginsWith, List.isPrefixOf_cons_cons, hx.symm]

end Keyword

/-! ### The listing of the best solution -/

/-- Whether a line begins or ends the listing of the best solution. -/
def isSwitch (line : String) : Bool := Keyword.listing.begins line || Keyword.statistics.begins line

/-- Whether the listing is read behind some lines. -/
def inListing (lines : List String) : Bool := (lastWith? isSwitch lines).any Keyword.listing.begins

/-- The columns that are listed: lines of the listing whose first field begins with `x`. -/
def columns : Table String := fun before line =>
  if inListing before ∧ (fields line)[0]?.any (beginsWith · "x") then
    (fields line)[0]?.map fun name => (name, (fields line)[1]?)
  else none

lemma inListing_concat (lines : List String) (line : String) :
    inListing (lines ++ [line]) = if isSwitch line then Keyword.listing.begins line else inListing lines := by
  rw [inListing, lastWith?_concat, inListing]
  split_ifs
  · rw [Option.any_some]
  · rfl

/-- A line with a keyword lists no column. -/
lemma columns_of_begins {k : Keyword} {line : String} (h : k.begins line = true) (before : List String) :
    columns before line = none := by
  obtain ⟨name, rest, hfields, hx⟩ := Keyword.exists_fields_of_begins h
  simp [columns, hfields, hx]

/-! ### What is known -/

/-- The status that a line gives. -/
def statusOf (line : String) : Status :=
  if contains (trimmed line) "optimal" then .optimal
  else if contains (trimmed line) "infeasible" then .infeasible
  else .unknown

/-- Whether a line ends the log: an infeasible problem has nothing else to say. -/
def endsLog (line : String) : Bool :=
  Keyword.status.begins line && contains (trimmed line) "infeasible" && !contains (trimmed line) "optimal"

/-- The number that a line gives as the primal bound. -/
def bound? (line : String) : Option Binary64 := number? (fields line)[3]?

/-- The status that is given last. -/
def lastStatus (lines : List String) : Status :=
  ((lastWith? Keyword.status.begins lines).map statusOf).getD .unknown

/-- The primal bound that is given last, zero if there is none. -/
def lastBound (lines : List String) : Binary64 := ((lastWith? Keyword.bound.begins lines).bind bound?).getD .zero

lemma lastStatus_concat (lines : List String) (line : String) :
    lastStatus (lines ++ [line]) = if Keyword.status.begins line then statusOf line else lastStatus lines := by
  rw [lastStatus, lastWith?_concat, lastStatus]
  split_ifs
  · rw [Option.map_some, Option.getD_some]
  · rfl

lemma lastBound_concat (lines : List String) (line : String) :
    lastBound (lines ++ [line]) = if Keyword.bound.begins line then (bound? line).getD .zero else lastBound lines := by
  rw [lastBound, lastWith?_concat, lastBound]
  split_ifs
  · rw [Option.bind_some]
  · rfl

/-- What is known behind some lines. -/
def known (lines : List String) : ScipState where
  solution :=
    { values := (columns.listing lines).values
      objective := lastBound lines
      status := lastStatus lines
      rowCount := 0
      columnCount := 0
      nonzeroCount := 0 }
  seenStatus := lines.any Keyword.status.begins
  inListing := inListing lines

/-- Whether a line is accepted behind some others: a primal bound has to be a number, and so has a value that is
listed. -/
structure Accepts (lines : List String) (line : String) : Prop where
  bound : Keyword.bound.begins line = true → (bound? line).isSome
  column : columns.Spells lines line

section Concat

variable {lines : List String} {line : String}

/-- A line that gives the status changes nothing else. -/
lemma known_concat_of_status (h : Keyword.status.begins line = true) :
    known (lines ++ [line])
      = { known lines with
          solution := { (known lines).solution with status := statusOf line }
          seenStatus := true } := by
  have hbound : Keyword.bound.begins line = false := Keyword.begins_eq_false h (by decide)
  have hlisting : Keyword.listing.begins line = false := Keyword.begins_eq_false h (by decide)
  have hstatistics : Keyword.statistics.begins line = false := Keyword.begins_eq_false h (by decide)
  simp [known, lastStatus_concat, lastBound_concat, inListing_concat, isSwitch,
    Table.values_concat_of_none (columns_of_begins h lines), h, hbound, hlisting, hstatistics]

/-- A line that gives the primal bound changes nothing else. -/
lemma known_concat_of_bound (h : Keyword.bound.begins line = true) {x : Binary64} (hx : bound? line = some x) :
    known (lines ++ [line])
      = { known lines with solution := { (known lines).solution with objective := x } } := by
  have hstatus : Keyword.status.begins line = false := Keyword.begins_eq_false h (by decide)
  have hlisting : Keyword.listing.begins line = false := Keyword.begins_eq_false h (by decide)
  have hstatistics : Keyword.statistics.begins line = false := Keyword.begins_eq_false h (by decide)
  simp [known, lastStatus_concat, lastBound_concat, inListing_concat, isSwitch,
    Table.values_concat_of_none (columns_of_begins h lines), h, hx, hstatus, hlisting, hstatistics]

/-- A line that begins or ends the listing changes nothing else. -/
lemma known_concat_of_switch (h : isSwitch line = true) :
    known (lines ++ [line]) = { known lines with inListing := Keyword.listing.begins line } := by
  obtain ⟨k, hk, hstatus, hbound⟩ : ∃ k : Keyword, k.begins line = true ∧ Keyword.status ≠ k ∧ Keyword.bound ≠ k := by
    rcases (Bool.or_eq_true _ _).mp h with hlisting | hstatistics
    · exact ⟨.listing, hlisting, by decide, by decide⟩
    · exact ⟨.statistics, hstatistics, by decide, by decide⟩
  simp [known, lastStatus_concat, lastBound_concat, inListing_concat,
    Table.values_concat_of_none (columns_of_begins hk lines), h, Keyword.begins_eq_false hk hstatus,
    Keyword.begins_eq_false hk hbound]

/-- A line without a keyword can only list a column. -/
lemma known_concat_of_other (hstatus : Keyword.status.begins line = false)
    (hbound : Keyword.bound.begins line = false) (hswitch : isSwitch line = false) :
    known (lines ++ [line])
      = { known lines with
          solution := { (known lines).solution with values := (columns.listing (lines ++ [line])).values } } := by
  simp [known, lastStatus_concat, lastBound_concat, inListing_concat, hstatus, hbound, hswitch]

/-- What a line that does not give the status is read for, by its keyword. -/
lemma other_cons (s : ScipState) (line name : String) (rest : List String) :
    s.other (trimmed line) (name :: rest) =
      if Keyword.bound.begins line then realField (name :: rest) 3 >>= fun x =>
        .ok { s with solution := { s.solution with objective := x } }
      else if Keyword.listing.begins line then .ok { s with inListing := true }
      else if Keyword.statistics.begins line then .ok { s with inListing := false }
      else if s.inListing && beginsWith name "x" then realField (name :: rest) 1 >>= fun x =>
        .ok { s with solution := s.solution.assign name x }
      else .ok s := rfl

/-- A line that gives the primal bound is read for it. -/
lemma other_of_bound (h : Keyword.bound.begins line = true) (s : ScipState) :
    s.other (trimmed line) (fields line) = realField (fields line) 3 >>= fun x =>
      .ok { s with solution := { s.solution with objective := x } } := by
  obtain ⟨name, rest, hfields, -⟩ := Keyword.exists_fields_of_begins h
  rw [hfields, other_cons, if_pos h]

/-- A line that begins or ends the listing is read for no field. -/
lemma other_of_switch (h : isSwitch line = true) (s : ScipState) :
    s.other (trimmed line) (fields line) = .ok { s with inListing := Keyword.listing.begins line } := by
  obtain ⟨k, hk, hbound⟩ : ∃ k : Keyword, k.begins line = true ∧ Keyword.bound ≠ k := by
    rcases (Bool.or_eq_true _ _).mp h with hlisting | hstatistics
    · exact ⟨.listing, hlisting, by decide⟩
    · exact ⟨.statistics, hstatistics, by decide⟩
  obtain ⟨name, rest, hfields, -⟩ := Keyword.exists_fields_of_begins hk
  rw [hfields, other_cons, Keyword.begins_eq_false hk hbound, if_neg Bool.false_ne_true]
  cases hlisting : Keyword.listing.begins line with
  | true => rfl
  | false =>
      have hstatistics : Keyword.statistics.begins line = true := by simpa [isSwitch, hlisting] using h
      rw [if_neg Bool.false_ne_true, if_pos hstatistics]

/-- A line without a keyword is read for the column that it lists. -/
lemma other_of_listed (hbound : Keyword.bound.begins line = false) (hswitch : isSwitch line = false) {name : String}
    {field : Option String} (h : columns lines line = some (name, field)) :
    (known lines).other (trimmed line) (fields line) = (realField (fields line) 1 >>= fun x =>
        .ok { known lines with solution := (known lines).solution.assign name x })
      ∧ field = (fields line)[1]? := by
  obtain ⟨hlisting, hstatistics⟩ := Bool.or_eq_false_iff.mp hswitch
  obtain ⟨⟨hin, hname⟩, hentry⟩ := Option.ite_none_right_eq_some.mp h
  cases hfields : fields line with
  | nil =>
      rw [hfields] at hentry
      cases hentry
  | cons first rest =>
      rw [hfields] at hname hentry
      obtain ⟨rfl, rfl⟩ := Prod.mk.inj (Option.some.inj hentry)
      have hcolumn : ((known lines).inListing && beginsWith first "x") = true := (Bool.and_eq_true _ _).mpr ⟨hin, hname⟩
      rw [other_cons, hbound, if_neg Bool.false_ne_true, hlisting, if_neg Bool.false_ne_true, hstatistics,
        if_neg Bool.false_ne_true, if_pos hcolumn]
      exact ⟨rfl, rfl⟩

/-- A line without a keyword that lists no column is read for no field. -/
lemma other_of_not_listed (hbound : Keyword.bound.begins line = false) (hswitch : isSwitch line = false)
    (h : columns lines line = none) : (known lines).other (trimmed line) (fields line) = .ok (known lines) := by
  obtain ⟨hlisting, hstatistics⟩ := Bool.or_eq_false_iff.mp hswitch
  cases hfields : fields line with
  | nil => rfl
  | cons first rest =>
      have hcolumn : ¬ ((known lines).inListing && beginsWith first "x") = true := fun hx => by
        obtain ⟨hin, hname⟩ := (Bool.and_eq_true _ _).mp hx
        rw [columns, hfields, if_pos ⟨hin, hname⟩] at h
        cases h
      rw [other_cons, hbound, if_neg Bool.false_ne_true, hlisting, if_neg Bool.false_ne_true, hstatistics,
        if_neg Bool.false_ne_true, if_neg hcolumn]

/-- Where no bound is given, only a column can be refused. -/
lemma accepts_iff_of_not_bound (hbound : Keyword.bound.begins line = false) :
    Accepts lines line ↔ columns.Spells lines line :=
  ⟨fun h => h.column, fun h => ⟨fun hbegins => absurd (hbound.symm.trans hbegins) (by decide), h⟩⟩

lemma other_eq_ok_iff_of_bound (hbound : Keyword.bound.begins line = true) {t : ScipState} :
    (known lines).other (trimmed line) (fields line) = .ok t ↔ Accepts lines line ∧ t = known (lines ++ [line]) := by
  rw [other_of_bound hbound, Except.bind_eq_ok]
  simp only [realField_eq_ok_iff]
  constructor
  · rintro ⟨x, hx, ht⟩
    have hspells : columns.Spells lines line := Table.spells_of_none (columns_of_begins hbound lines)
    refine ⟨⟨fun _ => Option.isSome_iff_exists.mpr ⟨x, hx⟩, hspells⟩, ?_⟩
    rw [known_concat_of_bound hbound hx, Except.ok.inj ht]
  · rintro ⟨haccepts, rfl⟩
    obtain ⟨x, hx⟩ := Option.isSome_iff_exists.mp (haccepts.bound hbound)
    exact ⟨x, hx, by rw [known_concat_of_bound hbound hx]⟩

lemma other_eq_ok_iff_of_switch (hbound : Keyword.bound.begins line = false) (hswitch : isSwitch line = true)
    {t : ScipState} :
    (known lines).other (trimmed line) (fields line) = .ok t ↔ Accepts lines line ∧ t = known (lines ++ [line]) := by
  have hspells : columns.Spells lines line := by
    rcases (Bool.or_eq_true _ _).mp hswitch with hlisting | hstatistics
    · exact Table.spells_of_none (columns_of_begins hlisting lines)
    · exact Table.spells_of_none (columns_of_begins hstatistics lines)
  rw [other_of_switch hswitch, known_concat_of_switch hswitch, accepts_iff_of_not_bound hbound]
  simp [hspells, @eq_comm _ t]

lemma other_eq_ok_iff_of_column (hstatus : Keyword.status.begins line = false)
    (hbound : Keyword.bound.begins line = false) (hswitch : isSwitch line = false) {t : ScipState} :
    (known lines).other (trimmed line) (fields line) = .ok t ↔ Accepts lines line ∧ t = known (lines ++ [line]) := by
  rw [known_concat_of_other hstatus hbound hswitch, accepts_iff_of_not_bound hbound]
  cases hlists : columns lines line with
  | none =>
      rw [other_of_not_listed hbound hswitch hlists, Table.values_concat_of_none hlists]
      simp [Table.spells_of_none hlists, @eq_comm _ t]
      rfl
  | some e =>
      obtain ⟨hread, hfield⟩ := other_of_listed hbound hswitch hlists
      rw [hread, Except.bind_eq_ok, Table.spells_iff_of_some hlists]
      simp only [realField_eq_ok_iff, ← hfield]
      constructor
      · rintro ⟨x, hx, ht⟩
        rw [Table.values_concat_of_some hlists hx]
        exact ⟨Option.isSome_iff_exists.mpr ⟨x, hx⟩, (Except.ok.inj ht).symm⟩
      · rintro ⟨hspelled, rfl⟩
        obtain ⟨x, hx⟩ := Option.isSome_iff_exists.mp hspelled
        rw [Table.values_concat_of_some hlists hx]
        exact ⟨x, hx, rfl⟩

/-- **A line without the status leads to what is known behind it if it is accepted**, and no other line does. -/
lemma other_eq_ok_iff (hstatus : Keyword.status.begins line = false) {t : ScipState} :
    (known lines).other (trimmed line) (fields line) = .ok t ↔ Accepts lines line ∧ t = known (lines ++ [line]) := by
  cases hbound : Keyword.bound.begins line with
  | true => exact other_eq_ok_iff_of_bound hbound
  | false =>
      cases hswitch : isSwitch line with
      | true => exact other_eq_ok_iff_of_switch hbound hswitch
      | false => exact other_eq_ok_iff_of_column hstatus hbound hswitch

/-- A line that gives the status is accepted. -/
lemma accepts_of_status (h : Keyword.status.begins line = true) : Accepts lines line where
  bound hbound := nomatch (Keyword.begins_eq_false h (by decide)).symm.trans hbound
  column := Table.spells_of_none (columns_of_begins h lines)

/-- A line that gives the status leads to what is known behind it, if it does not end the log. -/
lemma status_of_not_endsLog (h : Keyword.status.begins line = true) (hends : endsLog line = false) :
    (known lines).status (trimmed line) = .more (known (lines ++ [line])) := by
  rw [known_concat_of_status h, statusOf, ScipState.status]
  cases hoptimal : contains (trimmed line) "optimal" with
  | true => rfl
  | false =>
      have hinfeasible : contains (trimmed line) "infeasible" = false := by simpa [endsLog, h, hoptimal] using hends
      rw [hinfeasible]
      rfl

/-- A line that ends the log gives what is known behind it. -/
lemma status_of_endsLog (hends : endsLog line = true) :
    (known lines).status (trimmed line) = .done (known (lines ++ [line])).solution
      ∧ (known (lines ++ [line])).finish = .ok (known (lines ++ [line])).solution := by
  obtain ⟨⟨hstatus, hinfeasible⟩, hoptimal⟩ :
      (Keyword.status.begins line = true ∧ contains (trimmed line) "infeasible" = true)
        ∧ contains (trimmed line) "optimal" = false := by
    simpa [endsLog] using hends
  rw [known_concat_of_status hstatus, statusOf, ScipState.status, hoptimal, hinfeasible]
  exact ⟨rfl, rfl⟩

end Concat

/-! ### The account -/

section Line

variable {lines : List String} {text : String}

lemma line_of_status (h : Keyword.status.begins text = true) (s : ScipState) :
    s.line text = .ok (s.status (trimmed text)) := by
  have hbegins : beginsWith (String.ofList (trim text.toList)) "SCIP Status" = true := h
  unfold ScipState.line
  dsimp only
  rw [if_pos hbegins, trimmed]

lemma line_of_other (h : Keyword.status.begins text = false) (s : ScipState) :
    s.line text = (s.other (trimmed text) (fields text)).map .more := by
  have hbegins : ¬ beginsWith (String.ofList (trim text.toList)) "SCIP Status" = true := Bool.eq_false_iff.mp h
  unfold ScipState.line
  dsimp only
  rw [if_neg hbegins, ← fields_trimmed text, trimmed]

/-- A line that is accepted leads to what is known behind it, if it does not end the log. -/
lemma line_of_accepts (h : Accepts lines text) (hends : endsLog text = false) :
    (known lines).line text = .ok (.more (known (lines ++ [text]))) := by
  cases hstatus : Keyword.status.begins text with
  | true => rw [line_of_status hstatus, status_of_not_endsLog hstatus hends]
  | false =>
      rw [line_of_other hstatus, (other_eq_ok_iff hstatus).mpr ⟨h, rfl⟩]
      rfl

/-- A line that ends the log gives what is known behind it. -/
lemma line_of_endsLog (hends : endsLog text = true) :
    (known lines).line text = .ok (.done (known (lines ++ [text])).solution)
      ∧ (known (lines ++ [text])).finish = .ok (known (lines ++ [text])).solution := by
  have hstatus : Keyword.status.begins text = true := by
    simp only [endsLog, Bool.and_eq_true] at hends
    exact hends.1.1
  rw [line_of_status hstatus, (status_of_endsLog hends).1]
  exact ⟨rfl, (status_of_endsLog hends).2⟩

/-- Whatever a line is read for is accepted. -/
lemma accepts_of_line {progress : Progress ScipState} (h : (known lines).line text = .ok progress) :
    Accepts lines text := by
  cases hstatus : Keyword.status.begins text with
  | true => exact accepts_of_status hstatus
  | false =>
      rw [line_of_other hstatus] at h
      obtain ⟨t, ht, -⟩ := Except.map_eq_ok.mp h
      exact ((other_eq_ok_iff hstatus).mp ht).1

end Line

lemma step_scipReader : scipReader.step = ScipState.line := by rw [scipReader]

lemma finish_scipReader : scipReader.finish = ScipState.finish := by rw [scipReader]

/-- **What scip's reader knows behind some lines**: it accepts those whose primal bound is a number and whose listed
value is one, and an infeasible status ends the log. -/
def account : scipReader.Account String where
  view line := line
  known := known
  Good := Accepts
  ends := endsLog
  start := rfl
  more h hends := by
    rw [step_scipReader]
    exact line_of_accepts h hends
  done _ hends := by
    rw [step_scipReader, finish_scipReader]
    exact ⟨_, line_of_endsLog hends⟩
  bad {before line} h := by
    rw [step_scipReader]
    cases hline : (known before).line line with
    | error fault => exact ⟨fault, rfl⟩
    | ok progress => exact absurd (accepts_of_line hline) h

/-- Whether a line of a file ends the log. -/
def endsAt : Line → Bool
  | .text text => endsLog text
  | .garbled => false

/-- The part of a log that can matter: up to the line that ends it, or all of it if none does. -/
def relevant (lines : List Line) : List Line := upTo endsAt lines

/-- The lines of a log are accepted exactly if its primal bounds are numbers and its columns are spelled. -/
lemma accepts_lines_iff (lines : List String) :
    (∀ e ∈ withBefore lines, Accepts e.1 e.2)
      ↔ (∀ line ∈ lines, Keyword.bound.begins line = true → (bound? line).isSome)
        ∧ (columns.listing lines).IsSpelled := by
  induction lines using List.reverseRecOn with
  | nil => simp [withBefore, Table.listing, Listing.IsSpelled]
  | append_singleton lines line ih =>
      have haccepts : Accepts lines line
          ↔ (Keyword.bound.begins line = true → (bound? line).isSome) ∧ columns.Spells lines line :=
        ⟨fun h => ⟨h.bound, h.column⟩, fun h => ⟨h.1, h.2⟩⟩
      rw [withBefore_concat, List.forall_mem_append, List.forall_mem_singleton, ih, haccepts, and_and_and_comm,
        List.forall_mem_append, List.forall_mem_singleton, Table.isSpelled_listing_concat]

/-- What is known in the end is a solution if the status has been given. -/
lemma finish_known_eq_ok_iff {lines : List String} {s : Solution} :
    (known lines).finish = .ok s
      ↔ (∃ line ∈ lines, Keyword.status.begins line = true) ∧ s = (known lines).solution := by
  rw [ScipState.finish, show (known lines).seenStatus = lines.any Keyword.status.begins from rfl, ← List.any_eq_true]
  cases lines.any Keyword.status.begins <;> simp [eq_comm]

lemma relevant_account : account.relevant = relevant := by
  have hends : account.endsAt = endsAt := by
    funext line
    cases line with
    | text text => rw [ReportReader.Account.endsAt, endsAt, account]
    | garbled => rfl
  funext lines
  rw [ReportReader.Account.relevant, hends, relevant]

/-- **What a log that is accepted says, and which one is.** -/
lemma read_eq_ok_iff {bytes : List UInt8} {texts : List String}
    (hrelevant : relevant (fileLines bytes) = texts.map .text) {s : Solution} :
    (scipReader.read bytes).value = .ok s
      ↔ ((∀ line ∈ texts, Keyword.bound.begins line = true → (bound? line).isSome)
          ∧ (columns.listing texts).IsSpelled)
        ∧ (∃ line ∈ texts, Keyword.status.begins line = true)
        ∧ s = (known texts).solution := by
  rw [← relevant_account] at hrelevant
  have hview : texts.map account.view = texts := List.map_id' texts
  have hlines : scipReader.readLines (fileLines bytes) = .ok s ↔ _ := account.readLines_eq_ok_iff hrelevant
  rw [hview] at hlines
  have hgood : (∀ e ∈ withBefore texts, account.Good e.1 e.2) ↔ _ := accepts_lines_iff texts
  rw [ReportReader.read_eq_ok_iff, hlines, hgood, finish_scipReader, show account.known = known from rfl,
    finish_known_eq_ok_iff]

/-- **A log is read exactly by its sections.** Only its relevant part matters: it is accepted if that gives a status,
all its primal bounds are numbers and all values in its listings are; and then the last status, the last primal bound
and the last value of each name are read. -/
theorem read_sections {bytes : List UInt8} {texts : List String}
    (hrelevant : relevant (fileLines bytes) = texts.map .text) :
    ((∃ s, (scipReader.read bytes).value = .ok s)
      ↔ (∃ line ∈ texts, Keyword.status.begins line = true)
        ∧ (∀ line ∈ texts, Keyword.bound.begins line = true → (bound? line).isSome)
        ∧ (columns.listing texts).IsSpelled)
    ∧ (∀ s, (scipReader.read bytes).value = .ok s →
      (∃ line, lastWith? Keyword.status.begins texts = some line ∧ s.status = statusOf line)
        ∧ (lastWith? Keyword.bound.begins texts).elim (s.objective = .zero)
          (fun line => bound? line = some s.objective)
        ∧ ∀ name, s.values.get? name = (columns.listing texts).last? name)
    ∧ ∀ other, relevant (fileLines other) = relevant (fileLines bytes) →
      scipReader.read other = scipReader.read bytes := by
  refine ⟨⟨?_, ?_⟩, fun s hs => ?_, fun other hother => ?_⟩
  · rintro ⟨s, hs⟩
    obtain ⟨⟨hbounds, hspelled⟩, hstatus, -⟩ := (read_eq_ok_iff hrelevant).mp hs
    exact ⟨hstatus, hbounds, hspelled⟩
  · rintro ⟨hstatus, hbounds, hspelled⟩
    exact ⟨_, (read_eq_ok_iff hrelevant).mpr ⟨⟨hbounds, hspelled⟩, hstatus, rfl⟩⟩
  · obtain ⟨⟨hbounds, hspelled⟩, hstatus, rfl⟩ := (read_eq_ok_iff hrelevant).mp hs
    refine ⟨?_, ?_, Listing.get?_values hspelled⟩
    · cases hlast : lastWith? Keyword.status.begins texts with
      | none =>
          obtain ⟨line, hmem, hline⟩ := hstatus
          exact nomatch (lastWith?_eq_none_iff.mp hlast line hmem).symm.trans hline
      | some line =>
          refine ⟨line, rfl, ?_⟩
          rw [known, lastStatus, hlast, Option.map_some, Option.getD_some]
    · cases hlast : lastWith? Keyword.bound.begins texts with
      | none =>
          rw [known, lastBound, hlast, Option.bind_none, Option.getD_none, Option.elim_none]
      | some line =>
          obtain ⟨hmem, hline⟩ := mem_of_lastWith? hlast
          obtain ⟨x, hx⟩ := Option.isSome_iff_exists.mp (hbounds line hmem hline)
          rw [known, lastBound, hlast, Option.bind_some, hx, Option.getD_some, Option.elim_some, hx]
  · rw [← relevant_account] at hother
    exact account.read_congr hother

/-- The lines of a log that an infeasible status ends. -/
def infeasibleLines : List String := ["objective value", "x 2", "SCIP Status infeasible"]

/-- Such a log, with a line behind it that is not UTF-8. -/
def infeasibleLog : List UInt8 := Utf8.encode "objective value\nx 2\nSCIP Status infeasible\n" ++ [0xFF, 0x0A]

theorem read_sections_infeasibleLog :
    relevant (fileLines infeasibleLog) = infeasibleLines.map .text
      ∧ (∃ s, (scipReader.read infeasibleLog).value = .ok s ∧ s.values.get? "x" = some (.ofInt 2))
      ∧ scipReader.read (infeasibleLog ++ [0x78, 0x0A]) = scipReader.read infeasibleLog := by
  have hrelevant : relevant (fileLines infeasibleLog) = infeasibleLines.map .text := by decide +kernel
  have hother : relevant (fileLines (infeasibleLog ++ [0x78, 0x0A])) = relevant (fileLines infeasibleLog) := by
    decide +kernel
  have hspelled : (columns.listing infeasibleLines).IsSpelled := by
    rw [Listing.IsSpelled]
    decide +kernel
  have hvalue : (columns.listing infeasibleLines).last? "x" = some (.ofInt 2) := by decide +kernel
  obtain ⟨haccepted, hsays, hsame⟩ := read_sections hrelevant
  obtain ⟨s, hs⟩ := haccepted.mpr ⟨by decide +kernel, by decide +kernel, hspelled⟩
  obtain ⟨-, -, hvalues⟩ := hsays s hs
  exact ⟨hrelevant, ⟨s, hs, (hvalues "x").trans hvalue⟩, hsame _ hother⟩

end ScipLog

end LinearProgram
