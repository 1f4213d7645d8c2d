import LinearProgram.Proofs.Report.Listing
import LinearProgram.Proofs.Report.Refusals
import LinearProgram.Proofs.Report.Verdict

/-!
What a reader of reports knows, told by the lines it has read.

The state of a reader is a function of the lines behind it. Once that function is given, with the lines that are
accepted behind others and those that end the reading, one induction over the lines tells which reports are accepted
and what is read from them.

* `ReportReader.Account`: such an account of a reader.
* `ReportReader.Account.relevant`: the lines up to the one that ends the reading; `read_congr`: **nothing behind them
  matters.**
* `ReportReader.Account.readLines_eq_ok_iff`: **a report is accepted exactly if each of its relevant lines is**, and
  what is read is what is known in the end; `read_eq_ok_iff_of_whole`, `read_encode_eq_ok_iff`: the same for readers
  that read to the end, of bytes and of texts.
-/

namespace LinearProgram

namespace ReportReader

variable {σ α : Type} {r : ReportReader σ}

/-- An account of a reader: what it knows after some lines, which lines it accepts behind them, and which of these end
the reading. -/
structure Account (r : ReportReader σ) (α : Type) where
  /-- What a line is taken for. -/
  view : String → α
  /-- The state behind some lines. -/
  known : List α → σ
  /-- Whether a line is accepted behind some others. -/
  Good : List α → α → Prop
  /-- Whether a line that is accepted ends the reading. -/
  ends : α → Bool
  start : known [] = r.start
  more : ∀ {before line}, Good before (view line) → ends (view line) = false →
    r.step (known before) line = .ok (.more (known (before ++ [view line])))
  done : ∀ {before line}, Good before (view line) → ends (view line) = true →
    ∃ s, r.step (known before) line = .ok (.done s) ∧ r.finish (known (before ++ [view line])) = .ok s
  bad : ∀ {before line}, ¬ Good before (view line) → ∃ fault, r.step (known before) line = .error fault

namespace Account

variable (a : r.Account α)

/-- Whether a line of a report ends the reading. -/
def endsAt : Line → Bool
  | .text line => a.ends (a.view line)
  | .garbled => false

/-- The lines that can matter: those up to the one that ends the reading. -/
def relevant (lines : List Line) : List Line := upTo a.endsAt lines

/-- **Nothing behind the relevant lines matters.** -/
lemma readFrom_relevant (number : ℕ) (before : List α) (lines : List Line) :
    r.readFrom number (a.known before) (a.relevant lines) = r.readFrom number (a.known before) lines := by
  induction lines generalizing number before with
  | nil => rfl
  | cons line lines ih =>
      rw [relevant, upTo]
      cases line with
      | garbled => rfl
      | text line =>
          by_cases hgood : a.Good before (a.view line)
          · cases hends : a.ends (a.view line) with
            | true =>
                obtain ⟨s, hstep, -⟩ := a.done hgood hends
                rw [endsAt, if_pos hends, readFrom, readFrom, hstep]
            | false =>
                have hstep := a.more hgood hends
                rw [endsAt, hends, if_neg Bool.false_ne_true, readFrom, readFrom, hstep]
                exact ih (number + 1) (before ++ [a.view line])
          · obtain ⟨fault, hstep⟩ := a.bad hgood
            split_ifs
            · rw [readFrom, readFrom, hstep]
            · rw [readFrom, readFrom, hstep]

/-- The relevant lines behind a line, if that is one of text. -/
lemma relevant_cons {line : Line} {lines : List Line} {texts : List String}
    (h : a.relevant (line :: lines) = texts.map .text) :
    ∃ text rest, line = .text text ∧ texts = text :: rest
      ∧ if a.ends (a.view text) then rest = [] else a.relevant lines = rest.map .text := by
  rw [relevant, upTo] at h
  cases texts with
  | nil =>
      split_ifs at h
      · cases h
      · cases h
  | cons text rest =>
      rw [List.map_cons] at h
      have hline : line = .text text := by
        split_ifs at h
        · exact (List.cons.inj h).1
        · exact (List.cons.inj h).1
      subst hline
      refine ⟨text, rest, rfl, rfl, ?_⟩
      rw [endsAt] at h
      split_ifs at h ⊢ with hends
      · exact List.map_eq_nil_iff.mp (List.cons.inj h).2.symm
      · exact (List.cons.inj h).2

/-- What is read behind some lines: every relevant line has to be accepted behind all lines before it. -/
lemma readFrom_eq_ok_iff {number : ℕ} {before : List α} {lines : List Line} {texts : List String}
    (hrelevant : a.relevant lines = texts.map .text) {s : Solution} :
    r.readFrom number (a.known before) lines = .ok s
      ↔ (∀ e ∈ withBefore (texts.map a.view), a.Good (before ++ e.1) e.2)
        ∧ r.finish (a.known (before ++ texts.map a.view)) = .ok s := by
  induction lines generalizing number before texts with
  | nil =>
      obtain rfl : texts = [] := List.map_eq_nil_iff.mp hrelevant.symm
      rw [readFrom, mapError_eq_ok_iff, List.map_nil, List.append_nil]
      cases r.finish (a.known before) <;> simp [withBefore, Except.toOption]
  | cons line lines ih =>
      obtain ⟨text, rest, rfl, rfl, hrest⟩ := a.relevant_cons hrelevant
      rw [readFrom, List.map_cons, withBefore, List.forall_mem_cons, List.append_nil]
      by_cases hgood : a.Good before (a.view text)
      · split_ifs at hrest with hends
        · obtain ⟨t, hstep, hfinish⟩ := a.done hgood hends
          subst hrest
          rw [hstep, List.map_nil, hfinish]
          simp [withBefore, hgood]
        · have hstep := a.more hgood (by simpa using hends)
          rw [hstep]
          simp only [ih hrest, hgood, true_and, List.forall_mem_map, List.append_assoc, List.singleton_append]
      · obtain ⟨fault, hstep⟩ := a.bad hgood
        rw [hstep]
        simp [hgood]

/-- **A report is accepted exactly if each of its relevant lines is**, and what is read is what is known in the end. -/
lemma readLines_eq_ok_iff {lines : List Line} {texts : List String} (hrelevant : a.relevant lines = texts.map .text)
    {s : Solution} :
    r.readLines lines = .ok s
      ↔ (∀ e ∈ withBefore (texts.map a.view), a.Good e.1 e.2) ∧ r.finish (a.known (texts.map a.view)) = .ok s := by
  rw [readLines, ← a.start]
  exact a.readFrom_eq_ok_iff hrelevant

/-- A report of which no line ends the reading is relevant as a whole. -/
lemma relevant_eq_self (h : ∀ line, a.ends line = false) (lines : List Line) : a.relevant lines = lines := by
  refine upTo_of_none fun line _ => ?_
  cases line with
  | text text => exact h (a.view text)
  | garbled => rfl

/-- The relevant lines of a report that is accepted are text. -/
lemma exists_texts_of_readFrom {number : ℕ} {before : List α} {lines : List Line} {s : Solution}
    (h : r.readFrom number (a.known before) lines = .ok s) :
    ∃ texts : List String, a.relevant lines = texts.map .text := by
  induction lines generalizing number before with
  | nil => exact ⟨[], rfl⟩
  | cons line lines ih =>
      cases line with
      | garbled => cases h
      | text text =>
          rw [relevant, upTo, endsAt]
          split_ifs with hends
          · exact ⟨[text], rfl⟩
          · by_cases hgood : a.Good before (a.view text)
            · rw [readFrom, a.more hgood (by simpa using hends)] at h
              obtain ⟨texts, htexts⟩ := ih h
              exact ⟨text :: texts, congrArg (Line.text text :: ·) htexts⟩
            · obtain ⟨fault, hstep⟩ := a.bad hgood
              rw [readFrom, hstep] at h
              cases h

end Account

/-! ### Reports given by their bytes -/

lemma read_eq_ok_iff {bytes : List UInt8} {s : Solution} :
    (r.read bytes).value = .ok s ↔ r.readLines (fileLines bytes) = .ok s := by
  rw [read]
  cases r.readLines (fileLines bytes) <;> simp [Logged.silent]

/-- The lines of a text that is written in UTF-8 are those of the text. -/
lemma eq_textLines {text : String} {texts : List String} (h : fileLines (Utf8.encode text) = texts.map .text) :
    texts = textLines text := by
  rw [fileLines_encode_text] at h
  exact (List.map_injective_iff.mpr (fun _ _ => Line.text.inj) h).symm

namespace Account

variable (a : r.Account α)

/-- **Reports with the same relevant lines are read alike**, whatever stands behind them. -/
lemma read_congr {bytes other : List UInt8} (h : a.relevant (fileLines other) = a.relevant (fileLines bytes)) :
    r.read other = r.read bytes := by
  have hlines : r.readLines (fileLines other) = r.readLines (fileLines bytes) := by
    rw [readLines, readLines, ← a.start, ← a.readFrom_relevant 0 [] (fileLines other), h, a.readFrom_relevant]
  rw [read, read, hlines]

/-- **A report that is read to its end is accepted exactly if it is text and each of its lines is accepted.** -/
lemma read_eq_ok_iff_of_whole (hends : ∀ line, a.ends line = false) {bytes : List UInt8} {s : Solution} :
    (r.read bytes).value = .ok s
      ↔ ∃ texts : List String, fileLines bytes = texts.map .text
        ∧ (∀ e ∈ withBefore (texts.map a.view), a.Good e.1 e.2) ∧ r.finish (a.known (texts.map a.view)) = .ok s := by
  rw [read_eq_ok_iff]
  constructor
  · intro h
    have hfrom : r.readFrom 0 (a.known []) (fileLines bytes) = .ok s := by rw [a.start]; exact h
    obtain ⟨texts, htexts⟩ := a.exists_texts_of_readFrom hfrom
    refine ⟨texts, ?_, (a.readLines_eq_ok_iff htexts).mp h⟩
    rw [← htexts, a.relevant_eq_self hends]
  · rintro ⟨texts, htexts, h⟩
    refine (a.readLines_eq_ok_iff ?_).mpr h
    rw [a.relevant_eq_self hends, htexts]

/-- A text that is read to its end is accepted exactly if each of its lines is accepted. -/
lemma read_encode_eq_ok_iff (hends : ∀ line, a.ends line = false) {text : String} {s : Solution} :
    (r.read (Utf8.encode text)).value = .ok s
      ↔ (∀ e ∈ withBefore ((textLines text).map a.view), a.Good e.1 e.2)
        ∧ r.finish (a.known ((textLines text).map a.view)) = .ok s := by
  rw [a.read_eq_ok_iff_of_whole hends]
  constructor
  · rintro ⟨texts, htexts, h⟩
    rwa [← eq_textLines htexts]
  · intro h
    exact ⟨textLines text, fileLines_encode_text text, h⟩

end Account

end ReportReader

end LinearProgram
