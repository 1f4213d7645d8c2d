import LinearProgram.Proofs.LpText.Written

/-!
The numbers in an LP text, each at its place.

Almost all of the text of a problem stays the same when its numbers change: names, signs, headings, and the one number
that is written out in full, the value of an exact row. What is left are the magnitudes in front of columns and the ends
of bounds. Here the text is taken apart at these numbers, straight from the rows and columns of the problem, so that one
can say of every number in it how it is written.

* `Figure`, `Figure.chars`: a number of a problem, and what is written for it.
* `Stretch`, `Stretch.charsOf`, `Stretch.figuresOf`: stretches of a text, characters or a number at its place.
* `Problem.figures`, `Problem.stretches`: the numbers of a problem in the order of its text, and the text with each of
  them marked.
* `charsOf_sumStretches`, `figuresOf_sumStretches`, `charsOf_rowsStretches`, `figuresOf_rowsStretches`: sums and rows.
* `Problem.charsOf_stretches`, `Problem.figuresOf_stretches`: **the stretches are the text, and the
  numbers at their places in them are those of the problem.**
-/

namespace LinearProgram

/-! ### Numbers at their places -/

/-- A number of a problem that stands in its text as an integer, or as no limit. -/
inductive Figure where
  /-- The magnitude of a coefficient, in front of its column. -/
  | factor (column : String) (magnitude : Binary64)
  /-- A lower end. -/
  | lower (min : Binary64)
  /-- An upper end. -/
  | upper (max : Binary64)
  deriving DecidableEq

namespace Figure

/-- The number itself. -/
def value : Figure → Binary64
  | factor _ x | lower x | upper x => x

/-- The characters that are written for a number. -/
def chars : Figure → List Char
  | factor _ x => integerChars (x.truncateWithin 0 greatestMagnitude)
  | lower x => (Limit.ofLower x).lowerChars
  | upper x => (Limit.ofUpper x).upperChars

end Figure

/-- No infinity is written like an integer. -/
lemma infinity_ne_integerChars (sign : Char) (n : ℤ) : sign :: " inf".toList ≠ integerChars n := by
  intro h
  have hword : IsWord (sign :: " inf".toList) := h ▸ isWord_integerChars n
  have hblank := hword.solid ' ' (by simp)
  cases hblank

/-- A stretch of a text: characters, or a number at its place. -/
inductive Stretch where
  | plain (cs : List Char)
  | figure (f : Figure)

namespace Stretch

/-- The characters of a stretch. -/
def chars : Stretch → List Char
  | plain cs => cs
  | figure f => f.chars

/-- The number at its place. -/
def figure? : Stretch → Option Figure
  | plain _ => none
  | figure f => some f

/-- The text of some stretches. -/
def charsOf (ps : List Stretch) : List Char := ps.flatMap chars

/-- The numbers at their places in some stretches. -/
def figuresOf (ps : List Stretch) : List Figure := ps.filterMap figure?

@[simp] lemma charsOf_nil : charsOf [] = [] := rfl

@[simp] lemma charsOf_plain (cs : List Char) (ps : List Stretch) : charsOf (.plain cs :: ps) = cs ++ charsOf ps := rfl

@[simp] lemma charsOf_figure (f : Figure) (ps : List Stretch) : charsOf (.figure f :: ps) = f.chars ++ charsOf ps := rfl

@[simp] lemma charsOf_append (ps qs : List Stretch) : charsOf (ps ++ qs) = charsOf ps ++ charsOf qs :=
  List.flatMap_append

@[simp] lemma figuresOf_nil : figuresOf [] = [] := rfl

@[simp] lemma figuresOf_plain (cs : List Char) (ps : List Stretch) : figuresOf (.plain cs :: ps) = figuresOf ps := rfl

@[simp] lemma figuresOf_figure (f : Figure) (ps : List Stretch) : figuresOf (.figure f :: ps) = f :: figuresOf ps := rfl

@[simp] lemma figuresOf_append (ps qs : List Stretch) : figuresOf (ps ++ qs) = figuresOf ps ++ figuresOf qs :=
  List.filterMap_append

lemma charsOf_flatMap {α : Type} (g : α → List Stretch) (as : List α) :
    charsOf (as.flatMap g) = as.flatMap fun a => charsOf (g a) :=
  List.flatMap_assoc

lemma figuresOf_flatMap {α : Type} (g : α → List Stretch) (as : List α) :
    figuresOf (as.flatMap g) = as.flatMap fun a => figuresOf (g a) :=
  List.filterMap_flatMap

end Stretch

open Stretch

/-! ### The numbers of a problem -/

/-- The number that a sum shows of a coefficient, unless the coefficient or its magnitude is not written. -/
def Coefficient.figures (c : Coefficient) : List Figure :=
  if c.value.equals .zero || c.value.abs.equals .one then [] else [.factor c.column c.value.abs]

/-- The number that a row shows behind its sum. -/
def Row.figures (row : Row) : List Figure :=
  match row.bounds.kind with
  | .lower => [.lower row.bounds.min]
  | .upper => [.upper row.bounds.max]
  | _ => []

/-- The numbers in the range of a variable. -/
def Bounds.figures (b : Bounds) : List Figure := [.lower b.min, .upper b.max]

/-- **The numbers that the text of a problem shows**, in its order: the magnitudes in the objective; for each row the
magnitudes in its sum and what stands behind it; both ends for each slack variable and for each column. -/
def Problem.figures (p : Problem) : List Figure :=
  p.objective.flatMap Coefficient.figures
    ++ p.rows.flatMap (fun row => row.entries.flatMap Coefficient.figures ++ row.figures)
    ++ (p.rows.filter Row.hasSlack).flatMap (fun row => row.bounds.figures)
    ++ p.columns.flatMap fun column => column.bounds.figures

/-! ### The stretches of a text -/

/-- The stretches of a sum. A coefficient of zero has none, and does not count for the breaks. -/
def sumStretches (indent : List Char) (number : ℕ) : List Coefficient → List Stretch
  | [] => []
  | c :: cs =>
    if c.value.equals .zero then sumStretches indent number cs
    else
      .plain ((if (number + 1) % termsPerLine = 0 then '\n' :: indent else [])
          ++ (if c.value.less .zero || c.value.isNan then " -".toList else " +".toList))
        :: (c.figures.flatMap (fun f => [.plain [' '], .figure f])
          ++ .plain (' ' :: c.column.toList) :: sumStretches indent (number + 1) cs)

/-- The stretches of a row behind its sum. -/
def Row.relationStretches (row : Row) (nextSlack : ℕ) : List Stretch :=
  match row.bounds.kind with
  | .lower => [.plain " >= ".toList, .figure (.lower row.bounds.min)]
  | .upper => [.plain " <= ".toList, .figure (.upper row.bounds.max)]
  | _ => [.plain (row.relation nextSlack).chars]

/-- The stretches of some rows, given the number of the next slack variable. -/
def rowsStretches (indent : List Char) (nextSlack : ℕ) : List Row → List Stretch
  | [] => []
  | row :: rows =>
    .plain (indent ++ ' ' :: row.name.toList ++ [':'])
      :: (sumStretches indent 0 row.entries ++ row.relationStretches nextSlack
        ++ .plain ['\n'] :: rowsStretches indent (if row.hasSlack then nextSlack + 1 else nextSlack) rows)

/-- The stretches of the range of a variable. -/
def rangeStretches (indent : List Char) (name : String) (b : Bounds) : List Stretch :=
  [.plain (indent ++ [' ']), .figure (.lower b.min), .plain (" <= ".toList ++ name.toList ++ " <= ".toList),
    .figure (.upper b.max), .plain ['\n']]

/-- **The stretches of the text of a problem** whose sections stand behind `width` blanks. -/
def Problem.stretches (p : Problem) (width : ℕ) : List Stretch :=
  let indent := List.replicate width ' '
  let binaries := (p.columns.filter fun column => column.kind = .binary).map Column.name
  .plain (lineChars [] ("\\* Problem: ".toList ++ p.name.toList ++ " *\\".toList)
      ++ lineChars indent p.direction.name.toList ++ (indent ++ " obj:".toList))
    :: (sumStretches indent 0 p.objective
    ++ .plain ('\n' :: '\n' :: lineChars indent "Subject To".toList)
    :: (rowsStretches indent 1 p.rows
    ++ .plain ('\n' :: lineChars indent "Bounds".toList)
    :: ((p.rows.filter Row.hasSlack).zipIdx.flatMap
      (fun (row, i) => rangeStretches indent (slackName (i + 1)) row.bounds)
    ++ p.columns.flatMap (fun column => rangeStretches indent column.name column.bounds)
    ++ [.plain ('\n' :: namesChars indent "Generals" (p.columns.map Column.name)
      ++ (if binaries.isEmpty then [] else namesChars indent "Binaries" binaries) ++ lineChars [] "End".toList)])))

/-! ### Sums -/

lemma figuresOf_sumStretches (indent : List Char) (number : ℕ) (cs : List Coefficient) :
    figuresOf (sumStretches indent number cs) = cs.flatMap Coefficient.figures := by
  induction cs generalizing number with
  | nil => rfl
  | cons c cs ih =>
      rw [sumStretches, List.flatMap_cons]
      split
      case isTrue hzero =>
          rw [ih, Coefficient.figures, hzero]
          rfl
      case isFalse =>
          have hfigures : figuresOf (c.figures.flatMap fun f => [.plain [' '], .figure f]) = c.figures := by
            rw [figuresOf_flatMap]
            exact List.flatMap_singleton' c.figures
          rw [figuresOf_plain, figuresOf_append, figuresOf_plain, hfigures, ih]

/-- What a sum shows of a coefficient is its term. -/
lemma chars_of_termOf? {c : Coefficient} {t : Term} (h : termOf? c.column c.value = some t) :
    t.chars = (if c.value.less .zero || c.value.isNan then " -".toList else " +".toList)
      ++ (charsOf (c.figures.flatMap fun f => [.plain [' '], .figure f]) ++ ' ' :: c.column.toList) := by
  rw [termOf?] at h
  split at h
  case isTrue => cases h
  case isFalse hzero =>
      rw [← Option.some.inj h, Term.chars, List.append_assoc]
      congr 1
      rw [Coefficient.figures, eq_false_of_ne_true hzero, Bool.false_or]
      by_cases hone : c.value.abs.equals .one = true
      · simp [hone]
      · simp [hone, Figure.chars]

lemma charsOf_sumStretches (indent : List Char) (number : ℕ) (cs : List Coefficient) :
    charsOf (sumStretches indent number cs) = termsCharsFrom indent number (termsOf cs) := by
  induction cs generalizing number with
  | nil => rfl
  | cons c cs ih =>
      rw [sumStretches, termsOf_cons]
      split
      case isTrue hzero => rw [termOf?, if_pos hzero, ih, Option.toList_none, List.nil_append]
      case isFalse hzero =>
          obtain ⟨t, ht⟩ : ∃ t, termOf? c.column c.value = some t := by
            rw [termOf?, if_neg hzero]
            exact ⟨_, rfl⟩
          rw [ht, Option.toList_some, List.singleton_append, termsCharsFrom, chars_of_termOf? ht]
          simp only [charsOf_plain, charsOf_append, ih, List.append_assoc, List.cons_append]

/-! ### Rows -/

lemma figuresOf_relationStretches (row : Row) (number : ℕ) :
    figuresOf (row.relationStretches number) = row.figures := by
  rw [Row.relationStretches, Row.figures]
  cases row.bounds.kind <;> rfl

lemma charsOf_relationStretches (row : Row) (number : ℕ) :
    charsOf (row.relationStretches number) = (row.relation number).chars := by
  rw [Row.relationStretches]
  cases hkind : row.bounds.kind <;>
    simp [Row.relation, hkind, Relation.chars, Figure.chars]

lemma figuresOf_rowsStretches (indent : List Char) (next : ℕ) (rows : List Row) :
    figuresOf (rowsStretches indent next rows)
      = rows.flatMap fun row => row.entries.flatMap Coefficient.figures ++ row.figures := by
  induction rows generalizing next with
  | nil => rfl
  | cons row rows ih =>
      rw [rowsStretches, List.flatMap_cons, figuresOf_plain, figuresOf_append, figuresOf_append, figuresOf_plain,
        figuresOf_sumStretches, figuresOf_relationStretches, ih]

lemma charsOf_rowsStretches (indent : List Char) (next : ℕ) (rows : List Row) :
    charsOf (rowsStretches indent next rows)
      = (constraintsFrom next rows).flatMap fun c =>
          lineChars indent (' ' :: c.name.toList ++ ':' :: termsChars indent c.terms ++ c.relation.chars) := by
  induction rows generalizing next with
  | nil => rfl
  | cons row rows ih =>
      rw [rowsStretches, constraintsFrom, List.flatMap_cons, ← ih, lineChars, termsChars, ← charsOf_sumStretches,
        ← charsOf_relationStretches]
      simp only [charsOf_plain, charsOf_append, List.append_assoc, List.cons_append, List.nil_append]

/-! ### Ranges -/

lemma figuresOf_rangeStretches (indent : List Char) (name : String) (b : Bounds) :
    figuresOf (rangeStretches indent name b) = b.figures := rfl

lemma charsOf_rangeStretches (indent : List Char) (name : String) (b : Bounds) :
    charsOf (rangeStretches indent name b) = lineChars indent (' ' :: rangeChars (b.range name)) := by
  simp [rangeStretches, lineChars, rangeChars, Bounds.range, Figure.chars]

/-! ### Texts -/

namespace Problem

/-- **The numbers marked in the text of a problem are those of the problem.** -/
lemma figuresOf_stretches (p : Problem) (width : ℕ) : figuresOf (p.stretches width) = p.figures := by
  have hslack : ((p.rows.filter Row.hasSlack).zipIdx.flatMap fun e => e.1.bounds.figures)
      = (p.rows.filter Row.hasSlack).flatMap fun row => row.bounds.figures := by
    conv_rhs => rw [← List.zipIdx_map_fst 0 (p.rows.filter Row.hasSlack), List.flatMap_map]
  rw [stretches, figures]
  simp only [figuresOf_plain, figuresOf_append, figuresOf_sumStretches, figuresOf_rowsStretches, figuresOf_flatMap,
    figuresOf_rangeStretches, figuresOf_nil, hslack, List.append_assoc, List.append_nil]

/-- **The stretches of the text of a problem are its text.** -/
lemma charsOf_stretches (p : Problem) (width : ℕ) : charsOf (p.stretches width) = p.sections.chars width := by
  rw [stretches, Document.chars, sections_objective]
  simp only [sections, slackRanges, List.flatMap_append, List.flatMap_map, charsOf_plain, charsOf_append,
    charsOf_sumStretches, charsOf_rowsStretches, charsOf_flatMap, charsOf_rangeStretches, charsOf_nil, termsChars,
    lineChars, List.append_assoc, List.append_nil, List.cons_append, List.nil_append]
  rfl

/-- The text of a problem is its stretches. -/
lemma text_of_lpText {p : Problem} {width : ℕ} {text : String} (h : (p.lpText width).value = .ok text) :
    text = String.ofList (charsOf (p.stretches width)) := by
  rw [charsOf_stretches]
  exact (lpText_eq_ok h).2

end Problem

end LinearProgram
