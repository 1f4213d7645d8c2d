import Mathlib.Data.List.DropRight
import LinearProgram.Problem.Basic
import LinearProgram.Proofs.Number.Numeral

/-!
How an LP text is read.

The first line is a comment with the title. Behind it the line breaks and the width of the blanks do not matter:
the text is the row of its words. A sum ends where no sign follows, the rows end where no label follows, the
ranges end where no limit follows, and the names of a section end at the next heading.

* `Reading`: what a text says, in the words of the text.
* `Reading.ofText?`: the reading of a text, none if it is no LP text.
* `Reading.words`: the words that say it.
* `readMany_flatMap`: items are read back up to the first word that begins none.
* `Reading.ofWords?_words`: **a reading is read back from its words**.
-/

namespace LinearProgram

namespace Reading

/-! ### What a text says -/

/-- A term of a sum: a sign, a numeral unless the factor is one, and a variable. -/
structure Term where
  negative : Bool
  factor : Option String
  name : String
  deriving DecidableEq

/-- An end: an infinity of either sign, which is no limit at all, or a numeral. -/
inductive Limit where
  | unlimited (negative : Bool)
  | literal (numeral : String)
  deriving DecidableEq

/-- How a sum compares with its limit. -/
inductive Comparison where
  | atLeast
  | atMost
  | equals
  deriving DecidableEq

/-- A row: its name, its sum, and what the sum is compared with. -/
structure Row where
  name : String
  terms : List Term
  comparison : Comparison
  limit : Limit
  deriving DecidableEq

/-- The range of a variable. -/
structure Range where
  lower : Limit
  name : String
  upper : Limit
  deriving DecidableEq

end Reading

/-- What an LP text says, section by section. -/
structure Reading where
  title : String
  direction : Direction
  objective : List Reading.Term
  rows : List Reading.Row
  ranges : List Reading.Range
  generals : List String
  binaries : List String
  deriving DecidableEq

/-! ### Reading words -/

/-- Read items one behind the other, as long as there is one; an item takes at least one word. -/
def readMany {α : Type} (item : List String → Option (α × List String)) (ws : List String) :
    List α × List String :=
  match item ws with
  | none => ([], ws)
  | some (a, rest) =>
    if rest.length < ws.length then
      let (as, rest) := readMany item rest
      (a :: as, rest)
    else ([], ws)
termination_by ws.length

/-- The words behind some expected ones. -/
def expect? (expected ws : List String) : Option (List String) :=
  if expected.isPrefixOf ws then some (ws.drop expected.length) else none

namespace Reading

/-- Whether a sign is negative. -/
def sign? (word : String) : Option Bool :=
  if word = "+" then some false else if word = "-" then some true else none

/-- Read a term. -/
def term? : List String → Option (Term × List String)
  | sign :: word :: rest =>
    (sign? sign).bind fun negative =>
      if isNumeral word then
        match rest with
        | name :: rest => some (⟨negative, some word, name⟩, rest)
        | [] => none
      else some (⟨negative, none, word⟩, rest)
  | _ => none

/-- Read a limit. -/
def limit? : List String → Option (Limit × List String)
  | [] => none
  | word :: rest =>
    if isNumeral word then some (.literal word, rest)
    else
      (sign? word).bind fun negative =>
        (expect? ["inf"] rest).map fun rest => (.unlimited negative, rest)

/-- Read a comparison. -/
def comparison? (word : String) : Option Comparison :=
  if word = ">=" then some .atLeast
  else if word = "<=" then some .atMost
  else if word = "=" then some .equals
  else none

/-- The name in front of the colon of a label. -/
def label? (word : String) : Option String :=
  if word.toList.getLast? = some ':' then some (String.ofList word.toList.dropLast) else none

/-- Read a row. -/
def row? : List String → Option (Row × List String)
  | [] => none
  | word :: ws => do
    let name ← label? word
    let (terms, ws) := readMany term? ws
    let comparison ← ws.head?.bind comparison?
    let (limit, ws) ← limit? ws.tail
    some (⟨name, terms, comparison, limit⟩, ws)

/-- Read a range. -/
def range? (ws : List String) : Option (Range × List String) := do
  let (lower, ws) ← limit? ws
  let ws ← expect? ["<="] ws
  let name ← ws.head?
  let ws ← expect? ["<="] ws.tail
  let (upper, ws) ← limit? ws
  some (⟨lower, name, upper⟩, ws)

/-- Whether a word is the heading that ends a list of names. -/
def isHeading (word : String) : Bool := word = "Binaries" || word = "End"

/-- Read a name of a list of names. -/
def name? : List String → Option (String × List String)
  | [] => none
  | word :: ws => if isHeading word then none else some (word, ws)

/-- Read a direction. -/
def direction? (word : String) : Option Direction :=
  [Direction.minimize, .maximize].find? fun direction => direction.name = word

/-- Read the list of binary columns, an empty one if its section is missing. -/
def binaries? (ws : List String) : List String × List String :=
  match expect? ["Binaries"] ws with
  | some ws => readMany name? ws
  | none => ([], ws)

/-- The reading of the words behind the title. -/
def ofWords? (title : String) (ws : List String) : Option Reading := do
  let direction ← ws.head?.bind direction?
  let ws ← expect? ["obj:"] ws.tail
  let (objective, ws) := readMany term? ws
  let ws ← expect? ["Subject", "To"] ws
  let (rows, ws) := readMany row? ws
  let ws ← expect? ["Bounds"] ws
  let (ranges, ws) := readMany range? ws
  let ws ← expect? ["Generals"] ws
  let (generals, ws) := readMany name? ws
  let (binaries, ws) := binaries? ws
  if ws = ["End"] then some ⟨title, direction, objective, rows, ranges, generals, binaries⟩ else none

/-- What stands in front of the title. -/
def titleStart : List Char := "\\* Problem: ".toList

/-- What stands behind the title. -/
def titleEnd : List Char := " *\\".toList

/-- The title in a first line. -/
def title? (line : List Char) : Option String :=
  if titleStart.isPrefixOf line ∧ titleEnd.isSuffixOf line then
    some (String.ofList ((line.drop titleStart.length).rdrop titleEnd.length))
  else none

/-- The reading of an LP text: its title in the first line, and the words of the other lines. -/
def ofText? (text : String) : Option Reading := do
  let title ← title? (text.toList.takeWhile (· ≠ '\n'))
  ofWords? title ((fieldsOf (text.toList.dropWhile (· ≠ '\n'))).map String.ofList)

/-! ### The words of a reading -/

/-- The word of a sign. -/
def signWord (negative : Bool) : String := if negative then "-" else "+"

/-- The words of a term. -/
def Term.words (t : Term) : List String := signWord t.negative :: (t.factor.toList ++ [t.name])

/-- The words of a limit. -/
def Limit.words : Limit → List String
  | unlimited negative => [signWord negative, "inf"]
  | literal numeral => [numeral]

/-- The word of a comparison. -/
def Comparison.word : Comparison → String
  | atLeast => ">="
  | atMost => "<="
  | equals => "="

/-- The words of a row. -/
def Row.words (r : Row) : List String :=
  (r.name ++ ":") :: (r.terms.flatMap Term.words ++ r.comparison.word :: r.limit.words)

/-- The words of a range. -/
def Range.words (r : Range) : List String := r.lower.words ++ "<=" :: r.name :: "<=" :: r.upper.words

/-- The words of the section of binary columns, which is left out if there are none. -/
def binariesWords (names : List String) : List String :=
  if names.isEmpty then [] else "Binaries" :: names

/-- The words of a reading, its title apart. -/
def words (r : Reading) : List String :=
  r.direction.name :: "obj:" :: (r.objective.flatMap Term.words ++ "Subject" :: "To" ::
    (r.rows.flatMap Row.words ++ "Bounds" :: (r.ranges.flatMap Range.words ++ "Generals" ::
      (r.generals ++ (binariesWords r.binaries ++ ["End"])))))

/-- A term that can be told from its words: its factor is a numeral, and without one its name is none. -/
structure Term.IsPlain (t : Term) : Prop where
  factor : ∀ word ∈ t.factor, isNumeral word = true
  name : isNumeral t.name = false

/-- A limit that can be told from its words. -/
def Limit.IsPlain : Limit → Prop
  | unlimited _ => True
  | literal numeral => isNumeral numeral = true

/-- A row that can be told from its words. -/
structure Row.IsPlain (r : Row) : Prop where
  terms : ∀ t ∈ r.terms, t.IsPlain
  limit : r.limit.IsPlain

/-- A range that can be told from its words. -/
structure Range.IsPlain (r : Range) : Prop where
  lower : r.lower.IsPlain
  upper : r.upper.IsPlain

/-- A reading that can be told from its words: its numerals are numerals, and no name looks like one or like a
heading. -/
structure IsPlain (r : Reading) : Prop where
  objective : ∀ t ∈ r.objective, t.IsPlain
  rows : ∀ row ∈ r.rows, row.IsPlain
  ranges : ∀ range ∈ r.ranges, range.IsPlain
  generals : ∀ name ∈ r.generals, isHeading name = false
  binaries : ∀ name ∈ r.binaries, isHeading name = false

end Reading

/-! ### Items -/

/-- **Items are read back** up to the first word that begins none, if every item is read back by itself. -/
lemma readMany_flatMap {α : Type} (item : List String → Option (α × List String))
    (write : α → List String) {as : List α}
    (hitem : ∀ a ∈ as, write a ≠ [] ∧ ∀ rest, item (write a ++ rest) = some (a, rest))
    {rest : List String} (hstop : item rest = none) :
    readMany item (as.flatMap write ++ rest) = (as, rest) := by
  induction as with
  | nil =>
      rw [List.flatMap_nil, List.nil_append, readMany, hstop]
  | cons a as ih =>
      obtain ⟨hne, hread⟩ := hitem a List.mem_cons_self
      have hshorter : (as.flatMap write ++ rest).length < (write a ++ (as.flatMap write ++ rest)).length := by
        have hpos := List.length_pos_iff.mpr hne
        have hlength : (write a ++ (as.flatMap write ++ rest)).length
            = (write a).length + (as.flatMap write ++ rest).length := List.length_append
        omega
      rw [List.flatMap_cons, List.append_assoc, readMany, hread]
      simp only
      rw [if_pos hshorter, ih fun b hb => hitem b (List.mem_cons_of_mem a hb)]

lemma expect?_append (expected rest : List String) : expect? expected (expected ++ rest) = some rest := by
  rw [expect?, if_pos (by simp), List.drop_left]

namespace Reading

/-! ### Reading back -/

@[simp] lemma sign?_signWord (negative : Bool) : sign? (signWord negative) = some negative := by
  cases negative <;> rfl

/-- A term is read back from its words. -/
lemma term?_words {t : Term} (h : t.IsPlain) (rest : List String) :
    term? (t.words ++ rest) = some (t, rest) := by
  obtain ⟨negative, factor, name⟩ := t
  cases factor with
  | none =>
      have hname : isNumeral name = false := h.name
      simp [Term.words, term?, hname]
  | some word =>
      have hword : isNumeral word = true := h.factor word rfl
      simp [Term.words, term?, hword]

/-- A limit is read back from its words. -/
lemma limit?_words {l : Limit} (h : l.IsPlain) (rest : List String) :
    limit? (l.words ++ rest) = some (l, rest) := by
  cases l with
  | unlimited negative =>
      have hsign : isNumeral (signWord negative) = false := by
        cases negative <;> rfl
      have hinf : expect? ["inf"] ("inf" :: rest) = some rest := expect?_append ["inf"] rest
      simp [Limit.words, limit?, hsign, hinf]
  | literal numeral =>
      have hnumeral : isNumeral numeral = true := h
      simp [Limit.words, limit?, hnumeral]

@[simp] lemma comparison?_word (c : Comparison) : comparison? c.word = some c := by
  cases c <;> rfl

/-- No term begins with a comparison. -/
lemma term?_comparison (c : Comparison) (rest : List String) : term? (c.word :: rest) = none := by
  cases rest <;> cases c <;> rfl

@[simp] lemma label?_append (name : String) : label? (name ++ ":") = some name := by
  simp [label?]

/-- A row is read back from its words. -/
lemma row?_words {r : Row} (h : r.IsPlain) (rest : List String) :
    row? (r.words ++ rest) = some (r, rest) := by
  have hterms := readMany_flatMap term? Term.words
    (fun t ht => ⟨List.cons_ne_nil _ _, term?_words (h.terms t ht)⟩)
    (term?_comparison r.comparison (r.limit.words ++ rest))
  rw [Row.words, List.cons_append, List.append_assoc, List.cons_append, row?]
  simp [hterms, limit?_words h.limit]

/-- A range is read back from its words. -/
lemma range?_words {r : Range} (h : r.IsPlain) (rest : List String) :
    range? (r.words ++ rest) = some (r, rest) := by
  have hto : ∀ ws, expect? ["<="] ("<=" :: ws) = some ws := expect?_append ["<="]
  simp [Range.words, range?, limit?_words h.lower, limit?_words h.upper, hto]

/-- Names are read back up to the next heading. -/
lemma readMany_names {names : List String} (h : ∀ name ∈ names, isHeading name = false)
    {heading : String} (hheading : isHeading heading = true) (rest : List String) :
    readMany name? (names ++ heading :: rest) = (names, heading :: rest) := by
  have hstop : name? (heading :: rest) = none := by simp [name?, hheading]
  have hitem : ∀ name ∈ names, [name] ≠ [] ∧ ∀ rest, name? ([name] ++ rest) = some (name, rest) :=
    fun name hname => ⟨List.cons_ne_nil _ _, fun rest => by simp [name?, h name hname]⟩
  have hread := readMany_flatMap name? (fun name => [name]) hitem hstop
  rwa [List.flatMap_singleton'] at hread

/-- The list of binary columns is read back from the words of its section. -/
lemma binaries?_words {names : List String} (h : ∀ name ∈ names, isHeading name = false) :
    binaries? (binariesWords names ++ ["End"]) = (names, ["End"]) := by
  rw [binariesWords]
  split
  case isTrue hempty =>
      rw [List.isEmpty_iff.mp hempty]
      rfl
  case isFalse =>
      have hheading : expect? ["Binaries"] ("Binaries" :: names ++ ["End"]) = some (names ++ ["End"]) :=
        expect?_append ["Binaries"] _
      rw [binaries?, hheading]
      exact readMany_names h rfl []

/-- The section of binary columns, or the end, ends the list of columns. -/
lemma readMany_generals {generals binaries : List String}
    (h : ∀ name ∈ generals, isHeading name = false) :
    readMany name? (generals ++ (binariesWords binaries ++ ["End"]))
      = (generals, binariesWords binaries ++ ["End"]) := by
  rw [binariesWords]
  split
  · exact readMany_names h rfl []
  · exact readMany_names h rfl _

/-- **A reading is read back from its words.** -/
lemma ofWords?_words {r : Reading} (h : r.IsPlain) : ofWords? r.title r.words = some r := by
  have hdirection : direction? r.direction.name = some r.direction := by
    cases r.direction <;> rfl
  have hobj : ∀ ws, expect? ["obj:"] ("obj:" :: ws) = some ws := expect?_append ["obj:"]
  have hto : ∀ ws, expect? ["Subject", "To"] ("Subject" :: "To" :: ws) = some ws :=
    expect?_append ["Subject", "To"]
  have hbounds : ∀ ws, expect? ["Bounds"] ("Bounds" :: ws) = some ws := expect?_append ["Bounds"]
  have hgenerals : ∀ ws, expect? ["Generals"] ("Generals" :: ws) = some ws := expect?_append ["Generals"]
  -- each list stops in front of the heading of the next section
  have hobjective := fun ws => readMany_flatMap term? Term.words
    (fun t ht => ⟨List.cons_ne_nil _ _, term?_words (h.objective t ht)⟩)
    (show term? ("Subject" :: "To" :: ws) = none from rfl)
  have hrows := fun ws => readMany_flatMap row? Row.words
    (fun row hrow => ⟨List.cons_ne_nil _ _, row?_words (h.rows row hrow)⟩)
    (show row? ("Bounds" :: ws) = none from rfl)
  have hranges := fun ws => readMany_flatMap range? Range.words
    (fun range hrange => ⟨by simp [Range.words], range?_words (h.ranges range hrange)⟩)
    (show range? ("Generals" :: ws) = none from rfl)
  rw [words, ofWords?]
  simp [hdirection, hobj, hto, hbounds, hgenerals, hobjective, hrows, hranges,
    readMany_generals h.generals, binaries?_words h.binaries]

end Reading

end LinearProgram
