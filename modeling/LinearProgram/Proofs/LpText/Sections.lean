import Mathlib.Data.List.DropRight
import Mathlib.Data.List.SplitBy
import LinearProgram.Proofs.LpText.Wrapping

/-!
The sections of a text, looked at from outside.

A section begins behind the last line that is its heading, so that nothing in the title can pass for one, and it ends at
the first empty line. Everything inside of a section stands behind the indent and one more blank, which no heading
does. In the section of constraints a row begins with a label, its name with a colon; a row that is broken goes on with
the sign of a term, which is no label.

* `sectionLines`, `rowsIn`: the lines of a section, and the rows that they make up.
* `continues_of_mem_tail`, `Constraint.isRow_lines`: **the lines of a constraint make up a row.**
* `Document.exists_linesOf_chars`: the lines of a document.
* `Document.sectionLines_ranges`, `Document.rowsIn_sectionLines`: **what its sections hold.**
-/

namespace LinearProgram

/-! ### Lines of a text -/

/-- A line is cut off the text behind it. -/
lemma linesOf_line_append (indent content s : List Char) :
    linesOf (lineChars indent content ++ s) = linesOf (indent ++ content) ++ linesOf s := by
  rw [lineChars, List.append_assoc, List.singleton_append, linesOf, pieces_append_cons (by simp)]
  rfl

/-- A line for each member of a list is cut off the text behind them. -/
lemma linesOf_lines_append {α : Type} (as : List α) (content : α → List Char) (indent s : List Char) :
    linesOf (as.flatMap (fun a => lineChars indent (content a)) ++ s)
      = (as.flatMap fun a => linesOf (indent ++ content a)) ++ linesOf s := by
  induction as with
  | nil => rfl
  | cons a as ih =>
      rw [List.flatMap_cons, List.append_assoc, linesOf_line_append, ih, List.flatMap_cons, List.append_assoc]

lemma linesOf_cons_newline (s : List Char) : linesOf ('\n' :: s) = [] :: linesOf s :=
  pieces_cons_of_cut (by simp) s

/-- Texts without a break are one line each. -/
lemma flatMap_linesOf {α : Type} {as : List α} {content : α → List Char} (h : ∀ a ∈ as, '\n' ∉ content a) :
    as.flatMap (fun a => linesOf (content a)) = as.map content := by
  rw [List.map_eq_flatMap]
  exact List.flatMap_congr fun a ha => linesOf_eq_singleton (h a ha)

lemma newline_notMem_indent {width : ℕ} {content : List Char} (h : '\n' ∉ content) :
    '\n' ∉ List.replicate width ' ' ++ content := fun hmem =>
  (List.mem_append.mp hmem).elim (newline_notMem_replicate width) h

lemma newline_notMem_spaced {ws : List String} (h : ∀ w ∈ ws, IsWord w.toList) : '\n' ∉ spaced ws := by
  intro hmem
  obtain ⟨w, hw, hc⟩ := List.mem_flatMap.mp hmem
  rcases List.mem_cons.mp hc with hc | hc
  · exact absurd hc (by decide)
  · exact newline_notMem_of_solid (h w hw).solid hc

lemma newline_notMem_relation (r : Relation) : '\n' ∉ r.chars := by
  rw [r.chars_eq]
  exact newline_notMem_spaced fun w hw => isWord_of_mem_relation hw

/-! ### Sections and rows, from outside -/

/-- The lines of a section: those behind the last line that is its heading, up to the next empty line. -/
def sectionLines (heading s : List Char) : List (List Char) :=
  ((linesOf s).rtakeWhile fun l => l ≠ heading).takeWhile fun l => l ≠ []

lemma sectionLines_eq {heading s : List Char} {before ls after : List (List Char)}
    (h : linesOf s = before ++ heading :: (ls ++ [] :: after)) (hls : [] ∉ ls)
    (hheading : heading ∉ ls ++ [] :: after) : sectionLines heading s = ls := by
  have hbehind : (linesOf s).rtakeWhile (fun l => l ≠ heading) = ls ++ [] :: after := by
    rw [h, List.rtakeWhile, List.reverse_append, List.reverse_cons, List.append_assoc, List.takeWhile_append_of_pos]
    · simp
    · intro l hl
      exact decide_eq_true fun heq => hheading (heq ▸ List.mem_reverse.mp hl)
  rw [sectionLines, hbehind, List.takeWhile_append_of_pos]
  · simp
  · intro l hl
    exact decide_eq_true fun heq => hls (heq ▸ hl)

/-- A line that begins with a label: its first word ends with a colon. -/
def isLabelled (l : List Char) : Bool := (fieldsOf l).head?.any fun w => w.getLast? = some ':'

/-- The rows in some lines: a row is a labelled line with all lines up to the next one. -/
def rowsIn (ls : List (List Char)) : List (List (List Char)) := ls.splitBy fun _ l => !isLabelled l

/-- Lines that make up one row: the first one is labelled, and no other. -/
def IsRow (ls : List (List Char)) : Prop :=
  ∃ first later, ls = first :: later ∧ isLabelled first = true ∧ ∀ l ∈ later, isLabelled l = false

/-- Rows behind one another are told from each other. -/
lemma rowsIn_flatten {rows : List (List (List Char))} (h : ∀ ls ∈ rows, IsRow ls) : rowsIn rows.flatten = rows := by
  refine List.splitBy_flatten ?_ ?_ ?_
  · intro hnil
    obtain ⟨first, later, hls, -⟩ := h [] hnil
    cases hls
  · intro ls hls
    obtain ⟨first, later, rfl, -, hlater⟩ := h ls hls
    clear hls
    induction later generalizing first with
    | nil => exact List.isChain_singleton first
    | cons l later ih =>
        obtain ⟨hl, hrest⟩ := List.forall_mem_cons.mp hlater
        exact List.isChain_cons_cons.mpr ⟨by simp [hl], ih l hrest⟩
  · refine List.Pairwise.isChain (List.pairwise_of_forall_mem_list fun ls hls ms hms => ?_)
    obtain ⟨first, later, rfl, -⟩ := h ls hls
    obtain ⟨first', later', rfl, hlabel, -⟩ := h ms hms
    exact ⟨List.cons_ne_nil _ _, List.cons_ne_nil _ _, by simp [hlabel]⟩

/-! ### The lines of a constraint -/

/-- A line that goes on with a sum: behind the indent it begins with the sign of a term. -/
def Continues (width : ℕ) (l : List Char) : Prop :=
  ∃ negative r, l = List.replicate width ' ' ++ ' ' :: ((Reading.signWord negative).toList ++ ' ' :: r)

/-- A line that goes on with a sum has no label. -/
lemma Continues.not_isLabelled {width : ℕ} {l : List Char} (h : Continues width l) : isLabelled l = false := by
  obtain ⟨negative, r, rfl⟩ := h
  rw [isLabelled, fieldsOf_replicate_append rfl, fieldsOf_cons_blank rfl,
    fieldsOf_word_append (isWord_sign negative) rfl]
  cases negative <;> rfl

/-- A term begins with its sign between blanks. -/
lemma Term.exists_chars_eq (t : Term) : ∃ r, t.chars = ' ' :: ((Reading.signWord t.negative).toList ++ ' ' :: r) := by
  obtain ⟨negative, factor, column⟩ := t
  cases factor with
  | none => exact ⟨column.toList, by cases negative <;> simp [Term.chars, Reading.signWord]⟩
  | some r =>
      refine ⟨integerChars r.written ++ ' ' :: column.toList, ?_⟩
      cases negative <;> simp [Term.chars, Reading.signWord]

/-- Behind every break in a sum stands a term. -/
lemma continues_of_mem_tail {ts : List Term} (hts : ∀ t ∈ ts, IsWord t.column.toList) {rest : List Char}
    (hrest : '\n' ∉ rest) (width number : ℕ) :
    ∀ l ∈ (linesOf (termsCharsFrom (List.replicate width ' ') number ts ++ rest)).tail, Continues width l := by
  induction ts generalizing number with
  | nil =>
      rw [termsCharsFrom, List.nil_append, linesOf_eq_singleton hrest]
      simp
  | cons t ts ih =>
      have hbehind := ih (fun u hu => hts u (List.mem_cons_of_mem t hu)) (number + 1)
      obtain ⟨first, later, hlines⟩ := List.exists_cons_of_ne_nil
        (pieces_ne_nil (· = '\n') (termsCharsFrom (List.replicate width ' ') (number + 1) ts ++ rest))
      rw [linesOf, hlines, List.tail_cons] at hbehind
      have hterm : '\n' ∉ t.chars := by
        rw [t.chars_eq]
        exact newline_notMem_spaced fun w hw => isWord_of_mem_term (hts t List.mem_cons_self) hw
      have hjoined := pieces_append_of_not_cut (not_newline_of_notMem hterm) hlines
      have hindent := not_newline_of_notMem (newline_notMem_replicate width)
      rw [termsCharsFrom, List.append_assoc, List.append_assoc]
      split
      -- behind a break the term joins the first line of the rest, which is now one of the later lines
      · obtain ⟨r, hr⟩ := t.exists_chars_eq
        rw [List.cons_append, linesOf, pieces_cons_of_cut (by simp), pieces_append_of_not_cut hindent hjoined,
          List.tail_cons, List.forall_mem_cons]
        exact ⟨⟨t.negative, r ++ first, by simp [hr]⟩, hbehind⟩
      · rw [List.nil_append, linesOf, hjoined]
        exact hbehind

namespace Constraint

/-- The lines of a constraint. -/
def lines (c : Constraint) (width : ℕ) : List (List Char) :=
  linesOf (List.replicate width ' '
    ++ (' ' :: c.name.toList ++ ':' :: termsChars (List.replicate width ' ') c.terms ++ c.relation.chars))

/-- The last line of a constraint ends with what the constraint says about its sum. -/
lemma exists_getLast?_lines (c : Constraint) (width : ℕ) :
    ∃ start, (c.lines width).getLast? = some (start ++ c.relation.chars) := by
  rw [lines, ← List.append_assoc]
  exact getLast?_pieces_append _ (not_newline_of_notMem (newline_notMem_relation c.relation))

variable {c : Constraint} (hname : ∀ x ∈ c.name.toList, isBlank x = false)
  (hterms : ∀ t ∈ c.terms, IsWord t.column.toList) (width : ℕ)

include hname hterms

/-- The words of a constraint are those of its lines. -/
lemma flatMap_fieldsOf_lines : (c.lines width).flatMap fieldsOf
    = (c.name ++ ":").toList
      :: (c.terms.flatMap (fun t => t.reading.words) ++ c.relation.words).map String.toList := by
  have hcut : ∀ x, decide (x = '\n') = true → isBlank x = true := by
    intro x hx
    rw [decide_eq_true_eq.mp hx]
    rfl
  rw [lines, linesOf, flatMap_fieldsOf_pieces hcut, fieldsOf_replicate_append rfl, fieldsOf_constraint hname hterms,
    c.reading_words, List.map_cons]

/-- The first line of a constraint begins with its name, and every other one goes on with its sum. -/
lemma exists_lines_eq :
    ∃ r later, c.lines width = (List.replicate width ' ' ++ ' ' :: (c.name.toList ++ ':' :: r)) :: later
      ∧ ∀ l ∈ later, Continues width l := by
  obtain ⟨r, later, hlines⟩ := List.exists_cons_of_ne_nil (pieces_ne_nil (· = '\n')
    (termsChars (List.replicate width ' ') c.terms ++ c.relation.chars))
  have hlater := continues_of_mem_tail hterms (newline_notMem_relation c.relation) width 0
  rw [linesOf, ← termsChars, hlines, List.tail_cons] at hlater
  have hstart : '\n' ∉ List.replicate width ' ' ++ ' ' :: (c.name.toList ++ [':']) := by
    have hsolid := newline_notMem_of_solid hname
    simp [newline_notMem_replicate width, hsolid]
  have hwhole := pieces_append_of_not_cut (not_newline_of_notMem hstart) hlines
  exact ⟨r, later, by simpa [lines, linesOf] using hwhole, hlater⟩

/-- **The lines of a constraint make up a row.** -/
lemma isRow_lines : IsRow (c.lines width) := by
  obtain ⟨r, later, hlines, hlater⟩ := exists_lines_eq hname hterms width
  refine ⟨_, later, hlines, ?_, fun l hl => (hlater l hl).not_isLabelled⟩
  have hwords := flatMap_fieldsOf_lines hname hterms width
  obtain ⟨x, s, hx, hxs⟩ : ∃ x s, isBlank x = false ∧ c.name.toList ++ ':' :: r = x :: s := by
    cases hchars : c.name.toList with
    | nil => exact ⟨':', r, rfl, rfl⟩
    | cons x s => exact ⟨x, s ++ ':' :: r, hname x (hchars ▸ List.mem_cons_self), rfl⟩
  obtain ⟨w, ws, hfields⟩ := exists_fieldsOf_cons hx s
  rw [hlines, List.flatMap_cons, fieldsOf_replicate_append rfl, fieldsOf_cons_blank rfl, hxs, hfields,
    List.cons_append] at hwords
  rw [isLabelled, fieldsOf_replicate_append rfl, fieldsOf_cons_blank rfl, hxs, hfields, (List.cons.inj hwords).1]
  simp

end Constraint

/-! ### The sections of a document -/

/-- A line inside of a section: a blank stands behind the indent. -/
def IsInside (width : ℕ) (l : List Char) : Prop := ∃ r, l = List.replicate width ' ' ++ ' ' :: r

/-- A line inside of a section is not empty. -/
lemma IsInside.ne_nil {width : ℕ} {l : List Char} (h : IsInside width l) : l ≠ [] := by
  obtain ⟨r, rfl⟩ := h
  simp

/-- A line inside of a section is no heading. -/
lemma IsInside.ne_heading {width : ℕ} {l heading : List Char} (h : IsInside width l)
    (hheading : heading.head? ≠ some ' ') : l ≠ List.replicate width ' ' ++ heading := by
  rintro rfl
  obtain ⟨r, hr⟩ := h
  rw [List.append_cancel_left hr] at hheading
  exact hheading rfl

/-- A section is made up of the lines behind its heading that are inside of it. -/
lemma sectionLines_of_isInside {width : ℕ} {heading s : List Char} (hheading : heading.head? ≠ some ' ')
    (hnil : heading ≠ []) {before ls after : List (List Char)}
    (h : linesOf s = before ++ (List.replicate width ' ' ++ heading) :: (ls ++ [] :: after))
    (hls : ∀ l ∈ ls, IsInside width l) (hafter : List.replicate width ' ' ++ heading ∉ after) :
    sectionLines (List.replicate width ' ' ++ heading) s = ls := by
  refine sectionLines_eq h (fun hmem => (hls [] hmem).ne_nil rfl) ?_
  rw [List.mem_append, List.mem_cons]
  rintro (hmem | hmem | hmem)
  · exact (hls _ hmem).ne_heading hheading rfl
  · exact hnil (List.append_eq_nil_iff.mp hmem).2
  · exact hafter hmem

/-- The end of a text stands behind no indent, and it is none of the headings. -/
lemma end_ne_heading {width : ℕ} {heading : List Char} (hheading : heading ≠ "End".toList) :
    "End".toList ≠ List.replicate width ' ' ++ heading := by
  cases width with
  | zero => exact Ne.symm hheading
  | succ width =>
      intro h
      cases (List.cons.inj h).1

/-- A list of names is its heading, a line for each name, and an empty line. -/
lemma linesOf_names_append {heading : String} (hheading : IsWord heading.toList) {names : List String}
    (h : ∀ name ∈ names, IsWord name.toList) (width : ℕ) (s : List Char) :
    linesOf (namesChars (List.replicate width ' ') heading names ++ s)
      = (List.replicate width ' ' ++ heading.toList)
        :: (names.map (fun name => List.replicate width ' ' ++ ' ' :: name.toList) ++ [] :: linesOf s) := by
  have hnames : ∀ name ∈ names, '\n' ∉ List.replicate width ' ' ++ ' ' :: name.toList := fun name hname =>
    newline_notMem_indent
      (List.not_mem_cons_of_ne_of_not_mem (by decide) (newline_notMem_of_solid (h name hname).solid))
  rw [namesChars, List.append_assoc, List.append_assoc, linesOf_line_append, linesOf_lines_append,
    flatMap_linesOf hnames, linesOf_eq_singleton (newline_notMem_indent (newline_notMem_of_solid hheading.solid)),
    List.singleton_append, List.singleton_append, linesOf_cons_newline]

/-- No heading stands in a list of names but that of the list. -/
lemma heading_notMem_linesOf_names {other : String} (hother : IsWord other.toList) {names : List String}
    (h : ∀ name ∈ names, IsWord name.toList) {width : ℕ} {heading s : List Char} (hinside : heading.head? ≠ some ' ')
    (hnil : heading ≠ []) (hne : heading ≠ other.toList) (hs : List.replicate width ' ' ++ heading ∉ linesOf s) :
    List.replicate width ' ' ++ heading ∉ linesOf (namesChars (List.replicate width ' ') other names ++ s) := by
  rw [linesOf_names_append hother h, List.mem_cons, List.mem_append, List.mem_cons]
  rintro (hmem | hmem | hmem | hmem)
  · exact hne (List.append_cancel_left hmem)
  · obtain ⟨name, -, hname⟩ := List.mem_map.mp hmem
    exact IsInside.ne_heading ⟨_, rfl⟩ hinside hname
  · exact hnil (List.append_eq_nil_iff.mp hmem).2
  · exact hs hmem

/-- A document whose names can be told from the blanks and breaks around them: the names of its constraints hold no
blank, and all others are words. -/
structure Document.HasSolidNames (d : Document) : Prop where
  rows : ∀ c ∈ d.constraints, ∀ x ∈ c.name.toList, isBlank x = false
  terms : ∀ c ∈ d.constraints, ∀ t ∈ c.terms, IsWord t.column.toList
  ranges : ∀ r ∈ d.ranges, IsWord r.name.toList
  generals : ∀ name ∈ d.generals, IsWord name.toList
  binaries : ∀ name ∈ d.binaries, IsWord name.toList

namespace Document

lemma text_toList (d : Document) (width : ℕ) : (d.text width).toList = d.chars width := String.toList_ofList

/-- The sections behind the ranges. -/
def closing (d : Document) (width : ℕ) : List Char :=
  namesChars (List.replicate width ' ') "Generals" d.generals
    ++ ((if d.binaries.isEmpty then [] else namesChars (List.replicate width ' ') "Binaries" d.binaries)
    ++ lineChars [] "End".toList)

/-- **The lines of a document**: those of its constraints and those of its ranges, each behind a heading. -/
lemma exists_linesOf_chars (d : Document) (width : ℕ) :
    ∃ opening, linesOf (d.chars width)
      = opening ++ (List.replicate width ' ' ++ "Subject To".toList)
        :: ((d.constraints.flatMap fun c => c.lines width)
          ++ [] :: ((List.replicate width ' ' ++ "Bounds".toList)
          :: ((d.ranges.flatMap fun r => linesOf (List.replicate width ' ' ++ ' ' :: rangeChars r))
          ++ [] :: linesOf (d.closing width)))) := by
  have hheading : ∀ heading : String, '\n' ∉ heading.toList →
      linesOf (List.replicate width ' ' ++ heading.toList) = [List.replicate width ' ' ++ heading.toList] :=
    fun heading h => linesOf_eq_singleton (newline_notMem_indent h)
  have htitle : ∀ s t, linesOf (s ++ '\n' :: t) = linesOf s ++ linesOf t := fun s t => pieces_append_cons (by simp) s t
  refine ⟨linesOf (Reading.titleStart ++ (d.title.toList ++ Reading.titleEnd))
    ++ (linesOf (List.replicate width ' ' ++ d.direction.name.toList)
    ++ (linesOf (List.replicate width ' ' ++ (" obj:".toList ++ termsChars (List.replicate width ' ') d.objective))
    ++ [[]])), ?_⟩
  rw [d.chars_eq, htitle, body, linesOf_line_append, linesOf_line_append, linesOf_cons_newline, linesOf_line_append,
    hheading "Subject To" (by decide), linesOf_lines_append, linesOf_cons_newline, linesOf_line_append,
    hheading "Bounds" (by decide), linesOf_lines_append, linesOf_cons_newline, ← closing]
  simp only [Constraint.lines, List.append_assoc, List.cons_append, List.nil_append]

lemma isInside_of_mem_ranges {d : Document} {width : ℕ} {l : List Char}
    (hl : l ∈ d.ranges.map fun r => List.replicate width ' ' ++ ' ' :: rangeChars r) : IsInside width l := by
  obtain ⟨r, -, rfl⟩ := List.mem_map.mp hl
  exact ⟨_, rfl⟩

variable {d : Document} (hd : d.HasSolidNames) (width : ℕ)

include hd

lemma flatMap_linesOf_ranges :
    (d.ranges.flatMap fun r => linesOf (List.replicate width ' ' ++ ' ' :: rangeChars r))
      = d.ranges.map fun r => List.replicate width ' ' ++ ' ' :: rangeChars r := by
  refine flatMap_linesOf fun r hr => newline_notMem_indent ?_
  rw [rangeChars_eq]
  exact newline_notMem_spaced fun w hw => isWord_of_mem_range (hd.ranges r hr) hw

lemma isInside_of_mem_lines {c : Constraint} (hc : c ∈ d.constraints) {l : List Char} (hl : l ∈ c.lines width) :
    IsInside width l := by
  obtain ⟨r, later, hlines, hlater⟩ := Constraint.exists_lines_eq (hd.rows c hc) (hd.terms c hc) width
  rw [hlines] at hl
  rcases List.mem_cons.mp hl with rfl | hl
  · exact ⟨_, rfl⟩
  · obtain ⟨negative, r, rfl⟩ := hlater l hl
    exact ⟨_, rfl⟩

/-- Neither of the two headings stands behind the ranges. -/
lemma heading_notMem_linesOf_closing {heading : List Char}
    (hheading : heading = "Subject To".toList ∨ heading = "Bounds".toList) :
    List.replicate width ' ' ++ heading ∉ linesOf (d.closing width) := by
  have hne : heading.head? ≠ some ' ' ∧ heading ≠ [] ∧ heading ≠ "End".toList ∧ heading ≠ "Generals".toList
      ∧ heading ≠ "Binaries".toList := by
    rcases hheading with rfl | rfl <;> decide
  obtain ⟨hinside, hnil, hend, hgenerals, hbinaries⟩ := hne
  have hlast : List.replicate width ' ' ++ heading ∉ linesOf (lineChars [] "End".toList) := by
    have hlines : linesOf (lineChars [] "End".toList) = ["End".toList, []] := by decide
    rw [hlines, List.mem_cons, List.mem_singleton]
    rintro (h | h)
    · exact end_ne_heading hend h.symm
    · exact hnil (List.append_eq_nil_iff.mp h).2
  rw [closing]
  refine heading_notMem_linesOf_names (by decide) hd.generals hinside hnil hgenerals ?_
  split
  · exact hlast
  · exact heading_notMem_linesOf_names (by decide) hd.binaries hinside hnil hbinaries hlast

/-- **The section of bounds holds one line for each range.** -/
lemma sectionLines_ranges : sectionLines (List.replicate width ' ' ++ "Bounds".toList) (d.chars width)
    = d.ranges.map fun r => List.replicate width ' ' ++ ' ' :: rangeChars r := by
  obtain ⟨opening, hlines⟩ := d.exists_linesOf_chars width
  have hbehind : linesOf (d.chars width)
      = (opening ++ (List.replicate width ' ' ++ "Subject To".toList)
          :: ((d.constraints.flatMap fun c => c.lines width) ++ [[]]))
        ++ (List.replicate width ' ' ++ "Bounds".toList)
          :: (d.ranges.map (fun r => List.replicate width ' ' ++ ' ' :: rangeChars r)
            ++ [] :: linesOf (d.closing width)) := by
    rw [hlines, flatMap_linesOf_ranges hd]
    simp only [List.append_assoc, List.cons_append, List.nil_append]
  exact sectionLines_of_isInside (by decide) (by decide) hbehind (fun l hl => isInside_of_mem_ranges hl)
    (heading_notMem_linesOf_closing hd width (.inr rfl))

/-- **The section of constraints holds their lines.** -/
lemma sectionLines_constraints : sectionLines (List.replicate width ' ' ++ "Subject To".toList) (d.chars width)
    = d.constraints.flatMap fun c => c.lines width := by
  obtain ⟨opening, hlines⟩ := d.exists_linesOf_chars width
  rw [flatMap_linesOf_ranges hd] at hlines
  refine sectionLines_of_isInside (by decide) (by decide) hlines (fun l hl => ?_) ?_
  · obtain ⟨c, hc, hl⟩ := List.mem_flatMap.mp hl
    exact isInside_of_mem_lines hd width hc hl
  · rw [List.mem_cons, List.mem_append, List.mem_cons]
    rintro (hmem | hmem | hmem | hmem)
    · exact absurd (List.append_cancel_left hmem) (by decide)
    · exact (isInside_of_mem_ranges hmem).ne_heading (by decide) rfl
    · simp at hmem
    · exact heading_notMem_linesOf_closing hd width (.inl rfl) hmem

/-- **The rows of that section are the constraints.** -/
lemma rowsIn_sectionLines :
    rowsIn (sectionLines (List.replicate width ' ' ++ "Subject To".toList) (d.chars width))
      = d.constraints.map fun c => c.lines width := by
  rw [sectionLines_constraints hd, List.flatMap_def, rowsIn_flatten]
  intro ls hls
  obtain ⟨c, hc, rfl⟩ := List.mem_map.mp hls
  exact Constraint.isRow_lines (hd.rows c hc) (hd.terms c hc) width

end Document

end LinearProgram
