import LinearProgram.ColumnName
import LinearProgram.Document.Render
import LinearProgram.Proofs.Number.Order
import LinearProgram.Proofs.LpText.Reading

/-!
The text of a document is read as the document.

Everything behind the first line is words behind blanks, so the fields of the text are the words of the sections,
wherever the lines are broken and however wide the indent is.

* `Document.reading`: what a document says, in the words that are written for it.
* `spaced`: words behind a blank each.
* `fieldsOf_append_terms`: a sum is the words of its terms, also where it is broken into lines.
* `IsVariable`, `Document.IsReadable`: names and numbers that can be told from the words around them.
* `Document.ofText?_text`: **the text of a document is read as the document**, behind every indent.
-/

namespace LinearProgram

/-! ### What a document says -/

/-- A term in the words that are written for it. -/
def Term.reading (t : Term) : Reading.Term :=
  ⟨t.negative, t.factor.map fun r => String.ofList (integerChars r.written), t.column⟩

/-- A limit in the words that are written for it, given the sign of the infinity that stands for none. -/
def Limit.reading (negative : Bool) : Limit → Reading.Limit
  | none => .unlimited negative
  | whole r => .literal (String.ofList (integerChars r.written))

/-- A constraint as a row. A sum that equals a slack variable is a sum with the slack variable that is zero. -/
def Constraint.reading (c : Constraint) : Reading.Row :=
  match c.relation with
  | .slack number =>
    ⟨c.name, c.terms.map Term.reading ++ [⟨true, none, slackName number⟩], .equals, .literal "0"⟩
  | .atLeast limit => ⟨c.name, c.terms.map Term.reading, .atLeast, limit.reading true⟩
  | .atMost limit => ⟨c.name, c.terms.map Term.reading, .atMost, limit.reading false⟩
  | .equals value => ⟨c.name, c.terms.map Term.reading, .equals, .literal value.text⟩

/-- A range in the words that are written for it. -/
def Range.reading (r : Range) : Reading.Range := ⟨r.lower.reading true, r.name, r.upper.reading false⟩

lemma Bounds.reading_range (b : Bounds) (name : String) :
    (b.range name).reading = ⟨(Limit.ofLower b.min).reading true, name, (Limit.ofUpper b.max).reading false⟩ := by
  rw [range, Range.reading]

/-- A document in the words that are written for it. -/
def Document.reading (d : Document) : Reading where
  title := d.title
  direction := d.direction
  objective := d.objective.map Term.reading
  rows := d.constraints.map Constraint.reading
  ranges := d.ranges.map Range.reading
  generals := d.generals
  binaries := d.binaries

/-! ### Readable documents -/

/-- A name of a variable: a word that is neither a numeral nor a heading. -/
structure IsVariable (name : String) : Prop where
  word : IsWord name.toList
  notNumeral : isNumeral name = false
  notHeading : Reading.isHeading name = false

/-- A document that can be read back: its title is one line, its names are words, and its equations have a finite
right side. -/
structure Document.IsReadable (d : Document) : Prop where
  title : '\n' ∉ d.title.toList
  objective : ∀ t ∈ d.objective, IsVariable t.column
  rows : ∀ c ∈ d.constraints, IsWord c.name.toList
  terms : ∀ c ∈ d.constraints, ∀ t ∈ c.terms, IsVariable t.column
  values : ∀ c ∈ d.constraints, ∀ v, c.relation = .equals v → v.isFinite = true
  ranges : ∀ r ∈ d.ranges, IsVariable r.name
  generals : ∀ name ∈ d.generals, IsVariable name
  binaries : ∀ name ∈ d.binaries, IsVariable name

/-! ### Words behind blanks -/

/-- Words behind a blank each. -/
def spaced (ws : List String) : List Char := ws.flatMap fun w => ' ' :: w.toList

lemma spaced_append (ws vs : List String) : spaced (ws ++ vs) = spaced ws ++ spaced vs :=
  List.flatMap_append

lemma spaced_cons (w : String) (ws : List String) : spaced (w :: ws) = ' ' :: w.toList ++ spaced ws :=
  List.flatMap_cons

/-- Words behind blanks are the fields behind what stands before them. -/
lemma fieldsOf_append_spaced (s : List Char) {ws : List String} (h : ∀ w ∈ ws, IsWord w.toList) :
    fieldsOf (s ++ spaced ws) = fieldsOf s ++ ws.map String.toList := by
  have hmap : ∀ w ∈ ws.map String.toList, IsWord w := by
    intro w hw
    obtain ⟨v, hv, rfl⟩ := List.mem_map.mp hw
    exact h v hv
  have hwords := fieldsOf_append_words s hmap
  rwa [List.flatMap_map] at hwords

/-- A term is its words behind blanks. -/
lemma Term.chars_eq (t : Term) : t.chars = spaced t.reading.words := by
  obtain ⟨negative, factor, column⟩ := t
  cases negative <;> cases factor <;>
    simp [Term.chars, Term.reading, Reading.Term.words, Reading.signWord, spaced]

lemma Limit.lowerChars_eq (l : Limit) : ' ' :: l.lowerChars = spaced (l.reading true).words := by
  cases l <;> simp [Limit.lowerChars, Limit.chars, Limit.reading, Reading.Limit.words, Reading.signWord, spaced]

lemma Limit.upperChars_eq (l : Limit) : ' ' :: l.upperChars = spaced (l.reading false).words := by
  cases l <;> simp [Limit.upperChars, Limit.chars, Limit.reading, Reading.Limit.words, Reading.signWord, spaced]

/-- A range is its words behind blanks. -/
lemma rangeChars_eq (r : Range) : ' ' :: rangeChars r = spaced r.reading.words := by
  have hlower := r.lower.lowerChars_eq
  have hupper := r.upper.upperChars_eq
  calc ' ' :: rangeChars r
      = ' ' :: r.lower.lowerChars ++ (spaced ["<=", r.name, "<="] ++ ' ' :: r.upper.upperChars) := by
        simp [rangeChars, spaced]
    _ = spaced r.reading.words := by
        rw [hlower, hupper, ← spaced_append, ← spaced_append]
        rfl

/-- The words of what a constraint says about its sum. -/
def Relation.words : Relation → List String
  | slack number => ["-", slackName number, "=", "0"]
  | atLeast limit => ">=" :: (limit.reading true).words
  | atMost limit => "<=" :: (limit.reading false).words
  | equals value => ["=", value.text]

/-- What stands behind the sum of a constraint is its words behind blanks. -/
lemma Relation.chars_eq (r : Relation) : r.chars = spaced r.words := by
  cases r with
  | slack number => simp [Relation.chars, Relation.words, spaced]
  | atLeast limit =>
      rw [Relation.words, spaced_cons, ← limit.lowerChars_eq]
      simp [Relation.chars]
  | atMost limit =>
      rw [Relation.words, spaced_cons, ← limit.upperChars_eq]
      simp [Relation.chars]
  | equals value => simp [Relation.chars, Relation.words, spaced, Binary64.text]

/-- The words of a constraint: its label, its sum, and what it says about the sum. -/
lemma Constraint.reading_words (c : Constraint) :
    c.reading.words
      = (c.name ++ ":") :: (c.terms.flatMap (fun t => t.reading.words) ++ c.relation.words) := by
  obtain ⟨name, terms, relation⟩ := c
  cases relation <;>
    simp [Constraint.reading, Relation.words, Reading.Row.words, Reading.Term.words, Reading.signWord,
      Reading.Comparison.word, Reading.Limit.words, List.flatMap_map]

/-! ### The words are words -/

lemma isWord_sign (negative : Bool) : IsWord (Reading.signWord negative).toList := by
  cases negative <;> decide

lemma isWord_of_mem_limit {negative : Bool} {l : Limit} {w : String}
    (h : w ∈ (l.reading negative).words) : IsWord w.toList := by
  cases l with
  | none =>
      rcases List.mem_cons.mp h with rfl | h
      · exact isWord_sign negative
      · rw [List.mem_singleton.mp h]
        decide
  | whole r =>
      rw [List.mem_singleton.mp h, String.toList_ofList]
      exact isWord_integerChars _

lemma isWord_of_mem_term {t : Term} (ht : IsWord t.column.toList) {w : String}
    (h : w ∈ t.reading.words) : IsWord w.toList := by
  rcases List.mem_cons.mp h with rfl | h
  · exact isWord_sign _
  · rcases List.mem_append.mp h with h | h
    · obtain ⟨r, -, rfl⟩ : ∃ r, t.factor = some r ∧ String.ofList (integerChars r.written) = w := by
        simpa [Term.reading] using h
      rw [String.toList_ofList]
      exact isWord_integerChars _
    · rw [List.mem_singleton.mp h]
      exact ht

lemma slackName_toList (number : ℕ) :
    (slackName number).toList = '~' :: 'r' :: '_' :: Decimal.digitChars number := by
  have hdigits : (toString number).toList = Decimal.digitChars number := by
    show (Nat.repr number).toList = _
    rw [Nat.repr, String.toList_ofList, Decimal.digitChars]
  show (toString "~r_" ++ toString number).toList = _
  rw [String.toList_append, hdigits]
  rfl

lemma isWord_slackName (number : ℕ) : IsWord (slackName number).toList := by
  rw [slackName_toList]
  refine ⟨List.cons_ne_nil _ _, fun c hc => ?_⟩
  rcases List.mem_cons.mp hc with rfl | hc
  · rfl
  · rcases List.mem_cons.mp hc with rfl | hc
    · rfl
    · rcases List.mem_cons.mp hc with rfl | hc
      · rfl
      · exact (Decimal.isWord_digitChars number).solid c hc

lemma isWord_of_mem_relation {r : Relation} {w : String} (h : w ∈ r.words) : IsWord w.toList := by
  cases r with
  | slack number =>
      simp only [Relation.words, List.mem_cons, List.not_mem_nil, or_false] at h
      rcases h with rfl | rfl | rfl | rfl
      · decide
      · exact isWord_slackName number
      · decide
      · decide
  | atLeast limit =>
      rcases List.mem_cons.mp h with rfl | h
      · decide
      · exact isWord_of_mem_limit h
  | atMost limit =>
      rcases List.mem_cons.mp h with rfl | h
      · decide
      · exact isWord_of_mem_limit h
  | equals value =>
      rcases List.mem_cons.mp h with rfl | h
      · decide
      · rw [List.mem_singleton.mp h, Binary64.text, String.toList_ofList]
        exact value.isWord_chars

lemma isWord_of_mem_range {r : Range} (hr : IsWord r.name.toList) {w : String}
    (h : w ∈ r.reading.words) : IsWord w.toList := by
  have hto : IsWord "<=".toList := by decide
  rcases List.mem_append.mp h with h | h
  · exact isWord_of_mem_limit h
  · rcases List.mem_cons.mp h with rfl | h
    · exact hto
    · rcases List.mem_cons.mp h with rfl | h
      · exact hr
      · rcases List.mem_cons.mp h with rfl | h
        · exact hto
        · exact isWord_of_mem_limit h

/-! ### Lines -/

/-- A line break and an indent belong to no field. -/
lemma fieldsOf_append_break (s : List Char) (width : ℕ) :
    fieldsOf (s ++ '\n' :: List.replicate width ' ') = fieldsOf s := by
  have hindent : fieldsOf (List.replicate width ' ') = [] := by
    simpa using fieldsOf_replicate_append (c := ' ') rfl width []
  rw [fieldsOf_append_cons rfl, hindent, List.append_nil]

/-- **A sum is the words of its terms**, wherever it is broken into lines. -/
lemma fieldsOf_append_terms {ts : List Term} (h : ∀ t ∈ ts, IsWord t.column.toList) (width number : ℕ)
    (s : List Char) :
    fieldsOf (s ++ termsCharsFrom (List.replicate width ' ') number ts)
      = fieldsOf s ++ (ts.flatMap fun t => t.reading.words).map String.toList := by
  induction ts generalizing number s with
  | nil => simp [termsCharsFrom]
  | cons t ts ih =>
      have hterm : ∀ s, fieldsOf (s ++ t.chars) = fieldsOf s ++ t.reading.words.map String.toList := by
        intro s
        rw [t.chars_eq]
        exact fieldsOf_append_spaced s fun w hw => isWord_of_mem_term (h t List.mem_cons_self) hw
      have hrest := ih fun u hu => h u (List.mem_cons_of_mem t hu)
      rw [termsCharsFrom]
      split
      · rw [← List.append_assoc, ← List.append_assoc, hrest, hterm, fieldsOf_append_break, List.flatMap_cons,
          List.map_append, List.append_assoc]
      · rw [List.nil_append, ← List.append_assoc, hrest, hterm, List.flatMap_cons, List.map_append,
          List.append_assoc]

/-- The fields of a line, whatever follows it. -/
lemma fieldsOf_line_append (width : ℕ) (content s : List Char) :
    fieldsOf (lineChars (List.replicate width ' ') content ++ s) = fieldsOf content ++ fieldsOf s := by
  rw [lineChars, List.append_assoc, List.append_assoc, fieldsOf_replicate_append rfl, List.singleton_append,
    fieldsOf_append_cons rfl]

/-- The fields of a line for each member of a list, whatever follows. -/
lemma fieldsOf_lines_append {α : Type} {as : List α} {content : α → List Char} {words : α → List String}
    (h : ∀ a ∈ as, fieldsOf (content a) = (words a).map String.toList) (width : ℕ) (s : List Char) :
    fieldsOf (as.flatMap (fun a => lineChars (List.replicate width ' ') (content a)) ++ s)
      = (as.flatMap words).map String.toList ++ fieldsOf s := by
  induction as with
  | nil => simp
  | cons a as ih =>
      rw [List.flatMap_cons, List.append_assoc, fieldsOf_line_append, h a List.mem_cons_self,
        ih fun b hb => h b (List.mem_cons_of_mem a hb), List.flatMap_cons, List.map_append, List.append_assoc]

/-! ### Sections -/

/-- A list of names is its heading and its names. -/
lemma fieldsOf_names_append {heading : String} (hheading : IsWord heading.toList) {names : List String}
    (h : ∀ name ∈ names, IsWord name.toList) (width : ℕ) (s : List Char) :
    fieldsOf (namesChars (List.replicate width ' ') heading names ++ s)
      = (heading :: names).map String.toList ++ fieldsOf s := by
  have hname : ∀ name ∈ names, fieldsOf (' ' :: name.toList) = [name].map String.toList := by
    intro name hname
    rw [fieldsOf_cons_blank rfl, fieldsOf_eq_singleton (h name hname)]
    rfl
  rw [namesChars, List.append_assoc, List.append_assoc, fieldsOf_line_append, fieldsOf_lines_append hname,
    fieldsOf_eq_singleton hheading, List.flatMap_singleton', List.singleton_append, List.singleton_append,
    fieldsOf_cons_blank rfl]
  rfl

/-- A constraint is the words of its row. -/
lemma fieldsOf_constraint {c : Constraint} (hname : ∀ x ∈ c.name.toList, isBlank x = false)
    (hterms : ∀ t ∈ c.terms, IsWord t.column.toList) (width : ℕ) :
    fieldsOf (' ' :: c.name.toList ++ ':' :: termsChars (List.replicate width ' ') c.terms ++ c.relation.chars)
      = c.reading.words.map String.toList := by
  have hlabel : IsWord (c.name ++ ":").toList := by
    rw [String.toList_append]
    refine ⟨by simp, fun x hx => ?_⟩
    rcases List.mem_append.mp hx with hx | hx
    · exact hname x hx
    · rw [List.mem_singleton.mp hx]
      rfl
  have hstart : fieldsOf (' ' :: (c.name ++ ":").toList) = [(c.name ++ ":").toList] := by
    rw [fieldsOf_cons_blank rfl, fieldsOf_eq_singleton hlabel]
  calc fieldsOf (' ' :: c.name.toList ++ ':' :: termsChars (List.replicate width ' ') c.terms ++ c.relation.chars)
      = fieldsOf (' ' :: (c.name ++ ":").toList ++ termsCharsFrom (List.replicate width ' ') 0 c.terms
          ++ spaced c.relation.words) := by
        rw [c.relation.chars_eq]
        simp [termsChars]
    _ = [(c.name ++ ":").toList] ++ (c.terms.flatMap fun t => t.reading.words).map String.toList
          ++ c.relation.words.map String.toList := by
        rw [fieldsOf_append_spaced _ fun w hw => isWord_of_mem_relation hw, fieldsOf_append_terms hterms, hstart]
    _ = c.reading.words.map String.toList := by
        rw [c.reading_words]
        simp

/-- A range is its words. -/
lemma fieldsOf_range {r : Range} (hr : IsWord r.name.toList) :
    fieldsOf (' ' :: rangeChars r) = r.reading.words.map String.toList := by
  rw [rangeChars_eq]
  exact fieldsOf_append_spaced [] fun w hw => isWord_of_mem_range hr hw

/-! ### The whole text -/

/-- The text behind the first line. -/
def Document.body (d : Document) (width : ℕ) : List Char :=
  let indent := List.replicate width ' '
  lineChars indent d.direction.name.toList
    ++ (lineChars indent (" obj:".toList ++ termsChars indent d.objective)
    ++ ('\n' :: (lineChars indent "Subject To".toList
    ++ (d.constraints.flatMap (fun c =>
        lineChars indent
          (' ' :: c.name.toList ++ ':' :: termsChars indent c.terms ++ c.relation.chars))
    ++ ('\n' :: (lineChars indent "Bounds".toList
    ++ (d.ranges.flatMap (fun r => lineChars indent (' ' :: rangeChars r))
    ++ ('\n' :: (namesChars indent "Generals" d.generals
    ++ ((if d.binaries.isEmpty then [] else namesChars indent "Binaries" d.binaries)
    ++ lineChars [] "End".toList))))))))))

/-- A text is its first line, which holds the title, and what is behind it. -/
lemma Document.chars_eq (d : Document) (width : ℕ) :
    d.chars width = (Reading.titleStart ++ (d.title.toList ++ Reading.titleEnd)) ++ '\n' :: d.body width := by
  have hline : ∀ content, lineChars [] content = content ++ ['\n'] := fun _ => rfl
  unfold Document.chars Document.body Reading.titleStart Reading.titleEnd
  simp only [hline]
  simp only [List.append_assoc, List.cons_append, List.nil_append]

/-- The section of binary columns, if there is one. -/
lemma fieldsOf_binaries_append {names : List String} (h : ∀ name ∈ names, IsWord name.toList) (width : ℕ)
    (s : List Char) :
    fieldsOf ((if names.isEmpty then [] else namesChars (List.replicate width ' ') "Binaries" names) ++ s)
      = (Reading.binariesWords names).map String.toList ++ fieldsOf s := by
  rw [Reading.binariesWords]
  split
  · rfl
  · exact fieldsOf_names_append (by decide) h width s

/-- **The text behind the first line is the words of the reading.** -/
lemma Document.fieldsOf_body {d : Document} (h : d.IsReadable) (width : ℕ) :
    fieldsOf (d.body width) = d.reading.words.map String.toList := by
  have hword : ∀ w : String, (∀ c ∈ w.toList, isBlank c = false) → w.toList ≠ [] →
      fieldsOf w.toList = [w.toList] := fun w hsolid hne => fieldsOf_eq_singleton ⟨hne, hsolid⟩
  have hdirection : fieldsOf d.direction.name.toList = [d.direction.name.toList] := by
    cases d.direction <;> rfl
  have hobjective : fieldsOf (" obj:".toList ++ termsChars (List.replicate width ' ') d.objective)
      = "obj:".toList :: (d.objective.flatMap fun t => t.reading.words).map String.toList := by
    rw [termsChars, fieldsOf_append_terms fun t ht => (h.objective t ht).word]
    rfl
  have hconstraints := fun s => fieldsOf_lines_append (s := s)
    (fun c hc => fieldsOf_constraint (h.rows c hc).solid (fun t ht => (h.terms c hc t ht).word) width) width
  have hranges := fun s => fieldsOf_lines_append (s := s)
    (fun r hr => fieldsOf_range (h.ranges r hr).word) width
  have hheading : IsWord "Generals".toList := by decide
  have hgenerals := fun s => fieldsOf_names_append hheading (fun name hname => (h.generals name hname).word) width s
  have hbinaries := fun s => fieldsOf_binaries_append (fun name hname => (h.binaries name hname).word) width s
  have hto : fieldsOf "Subject To".toList = ["Subject".toList, "To".toList] := rfl
  have hbounds : fieldsOf "Bounds".toList = ["Bounds".toList] := rfl
  have hend : fieldsOf (lineChars [] "End".toList) = ["End".toList] := rfl
  simp only [Document.body, fieldsOf_line_append, fieldsOf_cons_blank (c := '\n') rfl, hdirection, hobjective,
    hconstraints, hranges, hgenerals, hbinaries, hto, hbounds, hend]
  simp [Document.reading, Reading.words, List.flatMap_map]

lemma isPlain_term {t : Term} (h : IsVariable t.column) : t.reading.IsPlain where
  factor := by
    intro word hword
    obtain ⟨r, -, rfl⟩ : ∃ r, t.factor = some r ∧ String.ofList (integerChars r.written) = word := by
      simpa [Term.reading] using hword
    exact isNumeral_integerChars _
  name := h.notNumeral

lemma isPlain_terms {ts : List Term} (h : ∀ t ∈ ts, IsVariable t.column) :
    ∀ t ∈ ts.map Term.reading, t.IsPlain := by
  intro t ht
  obtain ⟨u, hu, rfl⟩ := List.mem_map.mp ht
  exact isPlain_term (h u hu)

lemma isPlain_limit (negative : Bool) (l : Limit) : (l.reading negative).IsPlain := by
  cases l with
  | none => exact trivial
  | whole r => exact isNumeral_integerChars _

/-- A slack variable has no numeral for its name. -/
lemma isNumeral_slackName (number : ℕ) : isNumeral (slackName number) = false := by
  rw [← String.ofList_toList (s := slackName number), slackName_toList, isNumeral,
    numeral?_of_ne_minus (by decide), Option.isSome_map]
  simp [Decimal.read?, isDigit]

lemma isPlain_constraint {c : Constraint} (hterms : ∀ t ∈ c.terms, IsVariable t.column)
    (hvalue : ∀ v, c.relation = .equals v → v.isFinite = true) : c.reading.IsPlain := by
  have hplain := isPlain_terms hterms
  obtain ⟨name, terms, relation⟩ := c
  cases relation with
  | slack number =>
      have hzero : isNumeral "0" = true := isNumeral_integerChars 0
      refine ⟨fun t ht => ?_, hzero⟩
      rcases List.mem_append.mp ht with ht | ht
      · exact hplain t ht
      · rw [List.mem_singleton.mp ht]
        exact ⟨by simp, isNumeral_slackName number⟩
  | atLeast limit => exact ⟨hplain, isPlain_limit true limit⟩
  | atMost limit => exact ⟨hplain, isPlain_limit false limit⟩
  | equals value => exact ⟨hplain, isNumeral_text (hvalue value rfl)⟩

/-- A readable document has a reading that can be told from its words. -/
lemma Document.isPlain_reading {d : Document} (h : d.IsReadable) : d.reading.IsPlain where
  objective := isPlain_terms h.objective
  rows := by
    intro row hrow
    obtain ⟨c, hc, rfl⟩ := List.mem_map.mp hrow
    exact isPlain_constraint (h.terms c hc) (h.values c hc)
  ranges := by
    intro range hrange
    obtain ⟨r, -, rfl⟩ := List.mem_map.mp hrange
    exact ⟨isPlain_limit true r.lower, isPlain_limit false r.upper⟩
  generals := fun name hname => (h.generals name hname).notHeading
  binaries := fun name hname => (h.binaries name hname).notHeading

/-- A title is found between what stands around it. -/
lemma Reading.title?_append (title : String) :
    Reading.title? (Reading.titleStart ++ (title.toList ++ Reading.titleEnd)) = some title := by
  have hstart : Reading.titleStart.isPrefixOf (Reading.titleStart ++ (title.toList ++ Reading.titleEnd)) = true :=
    List.isPrefixOf_iff_prefix.mpr (List.prefix_append _ _)
  have hend : Reading.titleEnd.isSuffixOf (Reading.titleStart ++ (title.toList ++ Reading.titleEnd)) = true := by
    rw [← List.append_assoc]
    exact List.isSuffixOf_iff_suffix.mpr (List.suffix_append _ _)
  rw [Reading.title?, if_pos ⟨hstart, hend⟩, List.drop_left, List.rdrop_append_length, String.ofList_toList]

/-- **The text of a document is read as the document**, behind every indent. -/
lemma Document.ofText?_text {d : Document} (h : d.IsReadable) (width : ℕ) :
    Reading.ofText? (d.text width) = some d.reading := by
  -- the first line break of the text is the one behind the title
  have hline : ∀ c ∈ Reading.titleStart ++ (d.title.toList ++ Reading.titleEnd), c ≠ '\n' := by
    rintro c hc rfl
    rcases List.mem_append.mp hc with hc | hc
    · exact absurd hc (by decide)
    · rcases List.mem_append.mp hc with hc | hc
      · exact h.title hc
      · exact absurd hc (by decide)
  have htake : (d.chars width).takeWhile (· ≠ '\n')
      = Reading.titleStart ++ (d.title.toList ++ Reading.titleEnd) := by
    rw [d.chars_eq, List.takeWhile_append_of_pos (by simpa using hline)]
    simp
  have hdrop : (d.chars width).dropWhile (· ≠ '\n') = '\n' :: d.body width := by
    rw [d.chars_eq, List.dropWhile_append_of_pos (by simpa using hline)]
    simp
  have hwords : (fieldsOf ('\n' :: d.body width)).map String.ofList = d.reading.words := by
    rw [fieldsOf_cons_blank rfl, d.fieldsOf_body h, List.map_map]
    exact List.map_id'' (fun w => String.ofList_toList) _
  rw [Reading.ofText?, Document.text, String.toList_ofList, htake, hdrop, hwords, Reading.title?_append]
  exact Reading.ofWords?_words (d.isPlain_reading h)

/-! ### The text of a problem -/

/-- A slack variable has the name of a variable. -/
lemma isVariable_slackName (number : ℕ) : IsVariable (slackName number) := by
  refine ⟨isWord_slackName number, isNumeral_slackName number, ?_⟩
  have hne : ∀ heading : String, heading.toList.head? ≠ some '~' → slackName number ≠ heading := by
    rintro heading hhead rfl
    rw [slackName_toList] at hhead
    exact hhead rfl
  simp [Reading.isHeading, hne "Binaries" (by decide), hne "End" (by decide)]

/-- A column name: the letter `x` and some digits. -/
def IsColumnName (name : String) : Prop :=
  ∃ ds, ds ≠ [] ∧ (∀ c ∈ ds, isDigit c = true) ∧ name.toList = 'x' :: ds

/-- A column name is the name of a variable. -/
lemma IsColumnName.isVariable {name : String} (h : IsColumnName name) : IsVariable name := by
  obtain ⟨ds, -, hds, hname⟩ := h
  refine ⟨?_, ?_, ?_⟩
  · rw [hname]
    refine ⟨List.cons_ne_nil _ _, fun c hc => ?_⟩
    rcases List.mem_cons.mp hc with rfl | hc
    · rfl
    · exact isBlank_of_isDigit (hds c hc)
  · rw [← String.ofList_toList (s := name), hname, isNumeral, numeral?_of_ne_minus (by decide), Option.isSome_map]
    simp [Decimal.read?, isDigit]
  · have hne : ∀ heading : String, heading.toList.head? ≠ some 'x' → name ≠ heading := by
      rintro heading hhead rfl
      rw [hname] at hhead
      exact hhead rfl
    simp [Reading.isHeading, hne "Binaries" (by decide), hne "End" (by decide)]

/-- The name of an index is a column name. -/
lemma isColumnName_columnName (index : ℕ) : IsColumnName (columnName index) :=
  ⟨Decimal.digitChars index, Decimal.digitChars_ne_nil index, fun _ hc => Decimal.isDigit_of_mem_digitChars hc,
    String.toList_ofList⟩

/-- Names with which the LP text of a problem can be read back: its title is one line, its columns have column
names, and so have those that its rows speak of, and the names of its rows are words. -/
structure Problem.IsPlainlyNamed (p : Problem) : Prop where
  title : '\n' ∉ p.name.toList
  columns : ∀ column ∈ p.columns, IsColumnName column.name
  entries : ∀ row ∈ p.rows, ∀ e ∈ row.entries, IsColumnName e.column
  rows : ∀ row ∈ p.rows, IsWord row.name.toList

/-- The coefficients of the objective. -/
def Problem.objective (p : Problem) : List Coefficient :=
  p.columns.map fun column => ⟨column.name, column.coefficient⟩

lemma Problem.sections_objective (p : Problem) : p.sections.objective = termsOf p.objective := by
  rw [sections, termsOf, objective, List.filterMap_map]
  rfl

/-- The slack rows, whose bounds are carried by slack variables, number the slack variables. -/
def slackRows (rows : List Row) : List Row := rows.filter Row.hasSlack

/-- The constraint of a row with its number stands in the text: the number is that of the next slack variable, which
belongs to the row if it has one. -/
def IsNumbered (rows : List Row) (next : ℕ) (row : Row) (number : ℕ) : Prop :=
  row.hasSlack = true → next ≤ number ∧ (slackRows rows)[number - next]? = some row

lemma IsNumbered.cons {rows : List Row} {first row : Row} {next number : ℕ}
    (h : IsNumbered rows (if first.hasSlack then next + 1 else next) row number) :
    IsNumbered (first :: rows) next row number := by
  intro hrow
  obtain ⟨hle, hget⟩ := h hrow
  rw [slackRows] at hget ⊢
  by_cases hfirst : first.hasSlack = true
  · rw [if_pos hfirst] at hle hget
    refine ⟨by omega, ?_⟩
    rw [List.filter_cons_of_pos hfirst, show number - next = number - (next + 1) + 1 by omega,
      List.getElem?_cons_succ]
    exact hget
  · rw [if_neg hfirst] at hle hget
    rw [List.filter_cons_of_neg hfirst]
    exact ⟨hle, hget⟩

lemma isNumbered_head (rows : List Row) (row : Row) (next : ℕ) : IsNumbered (row :: rows) next row next := by
  intro hrow
  rw [slackRows, List.filter_cons_of_pos hrow, Nat.sub_self]
  exact ⟨le_rfl, rfl⟩

/-- Every constraint is that of a row. -/
lemma mem_constraintsFrom {rows : List Row} {next : ℕ} {c : Constraint} (h : c ∈ constraintsFrom next rows) :
    ∃ row ∈ rows, ∃ number, c = ⟨row.name, termsOf row.entries, row.relation number⟩
      ∧ IsNumbered rows next row number := by
  induction rows generalizing next with
  | nil => exact absurd h (List.not_mem_nil)
  | cons row rows ih =>
      rcases List.mem_cons.mp h with rfl | h
      · exact ⟨row, List.mem_cons_self, next, rfl, isNumbered_head rows row next⟩
      · obtain ⟨other, hother, number, hc, hnumber⟩ := ih h
        exact ⟨other, List.mem_cons_of_mem row hother, number, hc, hnumber.cons⟩

/-- Every row has its constraint. -/
lemma exists_mem_constraintsFrom {rows : List Row} {row : Row} (h : row ∈ rows) (next : ℕ) :
    ∃ number, (⟨row.name, termsOf row.entries, row.relation number⟩ : Constraint) ∈ constraintsFrom next rows
      ∧ IsNumbered rows next row number := by
  induction rows generalizing next with
  | nil => exact absurd h (List.not_mem_nil)
  | cons first rows ih =>
      rcases List.mem_cons.mp h with rfl | h
      · exact ⟨next, List.mem_cons_self, isNumbered_head rows row next⟩
      · obtain ⟨number, hc, hnumber⟩ := ih h (if first.hasSlack then next + 1 else next)
        exact ⟨number, List.mem_cons_of_mem _ hc, hnumber.cons⟩

lemma column_of_termOf? {column : String} {value : Binary64} {t : Term} (h : termOf? column value = some t) :
    t.column = column := by
  rw [termOf?] at h
  split at h
  · exact absurd h (by simp)
  · rw [← Option.some.inj h]

/-- The first coefficient gives the first term, if it gives one. -/
lemma termsOf_cons (c : Coefficient) (cs : List Coefficient) :
    termsOf (c :: cs) = (termOf? c.column c.value).toList ++ termsOf cs := by
  cases h : termOf? c.column c.value with
  | none => simp [termsOf, h]
  | some t => simp [termsOf, h]

/-- Only exact bounds say what a sum equals. -/
lemma Row.relation_eq_equals {row : Row} {number : ℕ} {v : Binary64} (h : row.relation number = .equals v) :
    row.bounds.kind = .exact ∧ v = row.bounds.min := by
  rw [Row.relation] at h
  cases hkind : row.bounds.kind <;> rw [hkind] at h <;> simp_all

/-- Exact bounds without a fault lie strictly within the written integers. -/
lemma Bounds.isWritableExactly_min {b : Bounds} (h : b.exactFault? = none) (hkind : b.kind = .exact) :
    isWritableExactly b.min = true := by
  rw [exactFault?, if_pos hkind] at h
  split at h
  · exact absurd h (by simp)
  · rename_i hwritable
    simpa using hwritable

lemma isFinite_of_isWritableExactly {x : Binary64} (h : isWritableExactly x = true) : x.isFinite = true := by
  rw [isWritableExactly, Bool.and_eq_true] at h
  exact Binary64.isFinite_of_less h.1 h.2

/-- The rows of a problem that can be written have no fault. -/
lemma Problem.exactFault?_of_mem_rows {p : Problem} (h : p.writabilityFault? = none) {row : Row}
    (hrow : row ∈ p.rows) : row.bounds.exactFault? = none := by
  rw [writabilityFault?, Option.orElse_eq_none] at h
  simpa using List.findSome?_eq_none_iff.mp h.1 row hrow

/-- The terms of a constraint are those of entries of a row. -/
lemma Problem.exists_entry_of_mem_terms {p : Problem} {c : Constraint} (hc : c ∈ p.sections.constraints) {t : Term}
    (ht : t ∈ c.terms) : ∃ row ∈ p.rows, ∃ e ∈ row.entries, t.column = e.column := by
  obtain ⟨row, hrow, number, rfl, -⟩ := mem_constraintsFrom hc
  obtain ⟨e, he, hterm⟩ := List.mem_filterMap.mp ht
  exact ⟨row, hrow, e, he, column_of_termOf? hterm⟩

/-- What a sum equals in a problem that can be written is finite. -/
lemma Problem.isFinite_of_relation_eq_equals {p : Problem} (h : p.writabilityFault? = none) {c : Constraint}
    (hc : c ∈ p.sections.constraints) {v : Binary64} (hv : c.relation = .equals v) : v.isFinite = true := by
  obtain ⟨row, hrow, number, rfl, -⟩ := mem_constraintsFrom hc
  obtain ⟨hkind, rfl⟩ := Row.relation_eq_equals hv
  exact isFinite_of_isWritableExactly (Bounds.isWritableExactly_min (exactFault?_of_mem_rows h hrow) hkind)

/-- The sections of a plainly named problem that can be written are readable. -/
lemma Problem.isReadable_sections {p : Problem} (hp : p.IsPlainlyNamed) (h : p.writabilityFault? = none) :
    p.sections.IsReadable where
  title := hp.title
  objective := by
    intro t ht
    obtain ⟨column, hcolumn, hterm⟩ := List.mem_filterMap.mp ht
    rw [column_of_termOf? hterm]
    exact (hp.columns column hcolumn).isVariable
  rows := by
    intro c hc
    obtain ⟨row, hrow, number, rfl, -⟩ := mem_constraintsFrom hc
    exact hp.rows row hrow
  terms := by
    intro c hc t ht
    obtain ⟨row, hrow, e, he, heq⟩ := exists_entry_of_mem_terms hc ht
    rw [heq]
    exact (hp.entries row hrow e he).isVariable
  values := fun c hc v hv => isFinite_of_relation_eq_equals h hc hv
  ranges := by
    intro r hr
    rcases List.mem_append.mp hr with hr | hr
    · obtain ⟨⟨row, i⟩, -, rfl⟩ := List.mem_map.mp hr
      exact isVariable_slackName (i + 1)
    · obtain ⟨column, hcolumn, rfl⟩ := List.mem_map.mp hr
      exact (hp.columns column hcolumn).isVariable
  generals := by
    intro name hname
    obtain ⟨column, hcolumn, rfl⟩ := List.mem_map.mp hname
    exact (hp.columns column hcolumn).isVariable
  binaries := by
    intro name hname
    obtain ⟨column, hcolumn, rfl⟩ := List.mem_map.mp hname
    exact (hp.columns column (List.mem_filter.mp hcolumn).1).isVariable

/-- A problem has an LP text if its exact bounds can be written, and that is the text of its sections. -/
lemma Problem.lpText_eq_ok {p : Problem} {width : ℕ} {text : String} (h : (p.lpText width).value = .ok text) :
    p.writabilityFault? = none ∧ text = p.sections.text width := by
  rw [lpText, document] at h
  cases hfault : p.writabilityFault? with
  | some e =>
      rw [hfault] at h
      exact absurd h (by simp)
  | none =>
      rw [hfault] at h
      exact ⟨rfl, (Except.ok.inj h).symm⟩

/-- **The LP text of a problem is read as its sections.** -/
theorem Problem.ofText?_lpText {p : Problem} (hp : p.IsPlainlyNamed) {width : ℕ} {text : String}
    (h : (p.lpText width).value = .ok text) : Reading.ofText? text = some p.sections.reading := by
  obtain ⟨hfault, rfl⟩ := lpText_eq_ok h
  exact Document.ofText?_text (isReadable_sections hp hfault) width

/-- A problem with one row and one column, of the given bounds. -/
def Problem.ofBounds (row column : Bounds) : Problem where
  name := "p"
  direction := .minimize
  columns := [⟨columnName 0, .one, column, .integer⟩]
  rows := [⟨"r0", row, [.unit (columnName 0)]⟩]

/-- A problem with a row of each sense, given the price in its objective. -/
def bakery (price : Binary64) : Problem where
  name := "bakery"
  direction := .maximize
  columns :=
    [⟨columnName 0, price, .lowerUpper .zero (.ofInt 40), .integer⟩,
     ⟨columnName 1, .ofInt (-2), .free, .integer⟩,
     ⟨columnName 2, .one, .lowerUpper .zero .one, .binary⟩]
  rows :=
    [⟨"flour", .upper (.ofInt 100), [⟨columnName 0, .ofInt 2⟩, ⟨columnName 1, .one⟩]⟩,
     ⟨"salt", .lower (.ofInt (-9)), [⟨columnName 2, .ofInt 6⟩]⟩,
     ⟨"spread", .lowerUpper (.ofInt (-5)) (.ofInt 5), [⟨columnName 0, .one⟩, ⟨columnName 1, .ofInt (-1)⟩]⟩,
     ⟨"fixed", .exact (.ofInt 7), [⟨columnName 1, .one⟩, ⟨columnName 2, .ofInt 4⟩]⟩]

lemma isPlainlyNamed_bakery (price : Binary64) : (bakery price).IsPlainlyNamed where
  title := by simp [bakery]
  columns := by simp [bakery, isColumnName_columnName]
  entries := by simp [bakery, isColumnName_columnName]
  rows := by
    intro row hrow
    simp only [bakery, List.mem_cons, List.not_mem_nil, or_false] at hrow
    rcases hrow with rfl | rfl | rfl | rfl <;> decide

example : ((bakery (.ofInt 3)).lpText 1).value = .ok
    ("\\* Problem: bakery *\\\n Maximize\n  obj: + 3 x0 - 2 x1 + x2\n\n Subject To\n  flour: + 2 x0 + x1 <= 100\n"
      ++ "  salt: + 6 x2 >= -9\n  spread: + x0 - x1 - ~r_1 = 0\n  fixed: + x1 + 4 x2 = 7\n\n Bounds\n"
      ++ "  -5 <= ~r_1 <= 5\n  0 <= x0 <= 40\n  - inf <= x1 <= + inf\n  0 <= x2 <= 1\n\n Generals\n"
      ++ "  x0\n  x1\n  x2\n\n Binaries\n  x2\n\nEnd\n") := by
  decide +kernel

end LinearProgram
