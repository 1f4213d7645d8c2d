import Mathlib.Data.List.TakeWhile
import LinearProgram.Proofs.Host.Computation
import LinearProgram.Proofs.Text.Lines
import LinearProgram.Relay

/-!
What a relay has forwarded of a log that is still being written.

A solver puts bytes behind its log in chunks that may end anywhere, also inside a line or inside a character, and the
relay is called in between. All that the relay keeps from one call to the next is a number of bytes. What carries
everything is that this number always is the length of some ended lines, and that the messages in the journal are those
of these lines.

* `Relay.message?`, `Relay.messages`: what there is to forward of a line, and of some lines.
* `Relay.texts`, `Relay.forward_eq`, `Relay.forwardBytes_eq`: what is forwarded of lines, up to the first that is no
  text.
* `Relay.Event`, `Relay.written`, `Relay.after`: what happens to a log, the bytes that it then holds, and the relay and
  the host afterwards.
* `Relay.UpTo`: a relay that has forwarded some ended lines of its log. `Relay.upTo_of_new`, `Relay.UpTo.append`,
  `Relay.UpTo.run_texts`: **what a new relay, a chunk and a call make of it.**
* `Relay.run_after`: **every ended line is forwarded once and in order**, whatever comes in between.
* `Relay.run_of_unfinished`: **what a call does with an unfinished line**: its place is in front of it in any case, but
  the call fails if it is no text.
* `Relay.IsTolerant`, `Relay.not_isTolerant_halfCharacter`: half a character behind the last line end lets a call fail.
-/

namespace LinearProgram

namespace Relay

/-! ### The messages of lines -/

/-- The message in a line: its text without the blanks at its end, if anything is left of it. -/
def message? (line : List UInt8) : Option String :=
  match Utf8.decode? line with
  | none => none
  | some text => if (trimEnd text.toList).isEmpty then none else some (String.ofList (trimEnd text.toList))

/-- The messages in some lines. -/
def messages (lines : List (List UInt8)) : List String := lines.filterMap message?

/-- The journal entries in which a solver's messages are forwarded. -/
def entries (solver : String) (messages : List String) : List Entry :=
  messages.map fun m => .info s!"{solver}: {m}"

lemma messages_append (lines more : List (List UInt8)) : messages (lines ++ more) = messages lines ++ messages more :=
  List.filterMap_append

lemma entries_append (solver : String) (ms ns : List String) :
    entries solver (ms ++ ns) = entries solver ms ++ entries solver ns :=
  List.map_append

/-- Bytes that are UTF-8. -/
def IsText (bytes : List UInt8) : Prop := (Utf8.decode? bytes).isSome = true

instance (bytes : List UInt8) : Decidable (IsText bytes) := inferInstanceAs (Decidable (_ = true))

/-- The lines in front of the first one that is no text. -/
def texts (lines : List (List UInt8)) : List (List UInt8) := lines.takeWhile fun l => IsText l

lemma texts_cons_pos {line : List UInt8} (h : IsText line) (lines : List (List UInt8)) :
    texts (line :: lines) = line :: texts lines :=
  List.takeWhile_cons_of_pos (decide_eq_true h)

lemma texts_cons_neg {line : List UInt8} (h : ¬IsText line) (lines : List (List UInt8)) : texts (line :: lines) = [] :=
  List.takeWhile_cons_of_neg (by simpa using h)

lemma exists_texts_append (lines : List (List UInt8)) : ∃ rest, texts lines ++ rest = lines := List.takeWhile_prefix _

lemma isText_of_mem_texts {line : List UInt8} {lines : List (List UInt8)} (h : line ∈ texts lines) : IsText line :=
  of_decide_eq_true (List.mem_takeWhile_imp (p := fun l => decide (IsText l)) h)

lemma texts_of_forall {lines : List (List UInt8)} (htext : ∀ l ∈ lines, IsText l) : texts lines = lines :=
  List.takeWhile_eq_self_iff.mpr fun l hl => decide_eq_true (htext l hl)

/-- **Of ended lines, all messages are forwarded up to the first line that is no text**, and the relay's place is in
front of that line. A line that is no text is noticed, also if it is unfinished. -/
lemma forward_eq (lines : List (List UInt8)) (unfinished : List UInt8) :
    forward lines unfinished
      = ⟨messages (texts lines), (ended 10 (texts lines)).length, decide ¬∀ l ∈ lines ++ [unfinished], IsText l⟩ := by
  induction lines with
  | nil =>
      rw [forward]
      cases hunfinished : Utf8.decode? unfinished <;> simp [IsText, hunfinished, texts, messages, ended]
  | cons line lines ih =>
      rw [forward]
      cases hline : Utf8.decode? line with
      | none =>
          have hnot : ¬IsText line := by simp [IsText, hline]
          simp [texts_cons_neg hnot, hnot, messages, ended]
      | some text =>
          have htext : IsText line := by simp [IsText, hline]
          have hlength : (ended 10 (line :: texts lines)).length
              = line.length + 1 + (ended 10 (texts lines)).length := by
            rw [ended, List.flatMap_cons, List.length_append, List.length_append, List.length_singleton, ← ended]
          rw [ih, texts_cons_pos htext, hlength, messages, messages, List.filterMap_cons, message?, hline]
          simp only [List.cons_append, List.forall_mem_cons, htext, true_and]
          split_ifs <;> rfl

/-- What is forwarded of bytes, by how they are cut. -/
lemma forwardBytes_eq {bytes unfinished : List UInt8} {lines : List (List UInt8)}
    (hcut : IsCut 10 bytes lines unfinished) :
    forwardBytes bytes
      = ⟨messages (texts lines), (ended 10 (texts lines)).length, decide ¬∀ l ∈ lines ++ [unfinished], IsText l⟩ := by
  rw [forwardBytes, hcut.pieces]
  simp only [List.dropLast_concat, List.getLast?_concat, Option.getD_some]
  exact forward_eq lines unfinished

/-! ### What happens to a log -/

/-- What happens to a log: its solver puts bytes behind it, or its relay is called. -/
inductive Event where
  | appended (chunk : List UInt8)
  | relayed
  deriving DecidableEq

/-- The bytes that an event puts behind a log. -/
def Event.chunk : Event → List UInt8
  | appended chunk => chunk
  | relayed => []

/-- The bytes that events put to a log. -/
def written (events : List Event) : List UInt8 := events.flatMap Event.chunk

/-- The relay and the host after an event. -/
def step (s : Relay × Host) : Event → Relay × Host
  | .appended chunk => (s.1, (Host.append s.1.path chunk s.2).2)
  | .relayed => (run s).2

/-- The relay and the host after events. -/
def after (s : Relay × Host) (events : List Event) : Relay × Host := events.foldl step s

lemma written_concat (events : List Event) (e : Event) : written (events ++ [e]) = written events ++ e.chunk := by
  rw [written, List.flatMap_append, List.flatMap_singleton]
  rfl

lemma after_concat (s : Relay × Host) (events : List Event) (e : Event) :
    after s (events ++ [e]) = step (after s events) e := by
  rw [after, List.foldl_append]
  rfl

/-! ### Relays that have forwarded some lines -/

/-- A relay whose log holds some bytes, and which has forwarded the ended lines that these bytes begin with. The journal
held `before` when the relay was made. -/
structure UpTo (solver : String) (before : List Entry) (bytes : List UInt8) (lines : List (List UInt8))
    (s : Relay × Host) : Prop where
  name : s.1.solver = solver
  log : ∃ place number, s.2.files.Stands s.1.path place number ∧ (s.2.files.stored number).bytes = bytes
  cut : ∃ rest, bytes = ended 10 lines ++ rest
  ends : ∀ l ∈ lines, 10 ∉ l
  offset : s.1.offset = (ended 10 lines).length
  journal : s.2.journal = before ++ entries solver (messages lines)

section Steps

variable {solver : String} {before : List Entry} {bytes unfinished : List UInt8} {lines : List (List UInt8)}
  {s : Relay × Host}

/-- A new relay has forwarded nothing of an empty log. -/
lemma upTo_of_new {h h' : Host} {relay : Relay} (hnew : new solver h = (.ok relay, h')) :
    UpTo solver h'.journal [] [] (relay, h') := by
  obtain ⟨path, h₁, hmade, hpure⟩ := bind_eq_ok_iff.mp hnew
  obtain ⟨hrelay, rfl⟩ := Prod.mk.inj hpure
  obtain rfl := Except.ok.inj hrelay
  rcases Host.makes_of_makeTemporary (solver ++ "-") ".log" h with
    ⟨path', h', place, hmakes', hmakes⟩ | ⟨fault, -, hfails⟩
  · obtain ⟨hpath, rfl⟩ := Prod.mk.inj (hmade.symm.trans hmakes')
    obtain rfl := Except.ok.inj hpath
    exact ⟨rfl, ⟨place, _, hmakes.stands, hmakes.empty⟩, ⟨[], rfl⟩, by simp, rfl, (List.append_nil _).symm⟩
  · cases hmade.symm.trans hfails

/-- **A chunk is put behind the log**, and nothing is forwarded of it yet. -/
lemma UpTo.append (hs : UpTo solver before bytes lines s) (chunk : List UInt8) :
    UpTo solver before (bytes ++ chunk) lines (step s (.appended chunk)) := by
  obtain ⟨place, number, hstands, rfl⟩ := hs.log
  obtain ⟨rest, hrest⟩ := hs.cut
  have hstep : step s (.appended chunk)
      = (s.1, { s.2 with files := s.2.files.fill number ((s.2.files.stored number).bytes ++ chunk) }) := by
    rw [step, Host.append, Host.change_of_ok (hstands.append chunk)]
  rw [hstep]
  refine ⟨hs.name, ⟨place, number, ?_, ?_⟩, ⟨rest ++ chunk, ?_⟩, hs.ends, hs.offset, hs.journal⟩
  · exact Files.stays_change _ _ _ hstands
  · exact congrArg File.bytes (Files.stored_change_self hstands.numbered)
  · rw [hrest, List.append_assoc]

/-- **A call forwards the ended lines that have not been forwarded yet, up to the first that is no text**, and fails if
there is one or if the unfinished line is no text. -/
lemma UpTo.run_texts (hs : UpTo solver before bytes lines s) {more : List (List UInt8)}
    (hcut : IsCut 10 bytes (lines ++ more) unfinished) :
    UpTo solver before bytes (lines ++ texts more) (Relay.run s).2
      ∧ (Relay.run s).1 = if ∀ l ∈ more ++ [unfinished], IsText l then .ok (messages (texts more)).length
        else .error (.file .invalidData) := by
  obtain ⟨relay, h⟩ := s
  obtain ⟨place, number, hstands, hbytes⟩ := hs.log
  have hread : Host.read relay.path h = (.ok bytes, h) := Host.read_of_ok (hstands.read.trans (by rw [hbytes]))
  have hlength : relay.offset = (ended 10 lines).length := hs.offset
  have hdrop : bytes.drop relay.offset = ended 10 more ++ unfinished := by
    rw [hlength, hcut.whole, ended_append, List.append_assoc, List.drop_left]
  have hnew := forwardBytes_eq ⟨hdrop, fun l hl => hcut.lines l (List.mem_append_right lines hl), hcut.rest⟩
  have hrun : Relay.run (relay, h)
      = (if ∀ l ∈ more ++ [unfinished], IsText l then .ok (messages (texts more)).length
          else .error (.file .invalidData),
          { relay with offset := relay.offset + (ended 10 (texts more)).length },
          { h with journal := h.journal ++ entries relay.solver (messages (texts more)) }) := by
    unfold Relay.run
    simp only [hread, hnew, Host.note_apply]
    by_cases hall : ∀ l ∈ more ++ [unfinished], IsText l
    · rw [if_pos hall, decide_eq_false (not_not_intro hall), if_neg Bool.false_ne_true]
      rfl
    · rw [if_neg hall, decide_eq_true hall, if_pos rfl]
      rfl
  obtain ⟨untouched, huntouched⟩ := exists_texts_append more
  rw [hrun]
  refine ⟨⟨hs.name, ⟨place, number, hstands, hbytes⟩, ⟨ended 10 untouched ++ unfinished, ?_⟩, fun l hl => ?_, ?_, ?_⟩,
    rfl⟩
  · have hended : ended 10 more = ended 10 (texts more) ++ ended 10 untouched := by rw [← ended_append, huntouched]
    rw [hcut.whole, ended_append, ended_append, hended]
    simp only [List.append_assoc]
  · refine hcut.lines l ?_
    rw [← huntouched, ← List.append_assoc]
    exact List.mem_append_left untouched hl
  · change relay.offset + (ended 10 (texts more)).length = _
    rw [hlength, ended_append, List.length_append]
  · have hjournal : h.journal = before ++ entries solver (messages lines) := hs.journal
    have hsolver : relay.solver = solver := hs.name
    change h.journal ++ entries relay.solver (messages (texts more)) = _
    rw [hjournal, hsolver, messages_append, entries_append, List.append_assoc]

/-- **A call forwards the ended lines that have not been forwarded yet** if they are text, and fails if the unfinished
line behind them is no text. -/
lemma UpTo.run (hs : UpTo solver before bytes lines s) {more : List (List UInt8)}
    (hcut : IsCut 10 bytes (lines ++ more) unfinished) (htext : ∀ l ∈ more, IsText l) :
    UpTo solver before bytes (lines ++ more) (Relay.run s).2
      ∧ (Relay.run s).1 = if IsText unfinished then .ok (messages more).length else .error (.file .invalidData) := by
  have hunfinished : (∀ l ∈ more ++ [unfinished], IsText l) ↔ IsText unfinished := by
    rw [List.forall_mem_append, List.forall_mem_singleton]
    exact and_iff_right htext
  obtain ⟨hafter, hresult⟩ := hs.run_texts hcut
  rw [texts_of_forall htext] at hafter hresult
  simp only [hunfinished] at hresult
  exact ⟨hafter, hresult⟩

end Steps

/-! ### Whatever comes in between -/

/-- After any chunks and calls, a new relay has forwarded some of the ended lines that its log holds, and these are
text. -/
lemma upTo_after {solver : String} {h h' : Host} {relay : Relay} (hnew : new solver h = (.ok relay, h'))
    (events : List Event) {lines : List (List UInt8)} {unfinished : List UInt8}
    (hcut : IsCut 10 (written events) lines unfinished) :
    ∃ seen more, lines = seen ++ more ∧ (∀ l ∈ seen, IsText l)
      ∧ UpTo solver h'.journal (written events) seen (after (relay, h') events) := by
  induction events using List.reverseRecOn generalizing lines unfinished with
  | nil => exact ⟨[], lines, rfl, by simp, upTo_of_new hnew⟩
  | append_singleton events e ih =>
      -- what the event puts behind the log goes on from the line that was unfinished before it
      obtain ⟨old, rest, hold⟩ := exists_isCut (10 : UInt8) (written events)
      obtain ⟨added, unfinished', hadded⟩ := exists_isCut (10 : UInt8) (rest ++ e.chunk)
      rw [written_concat] at hcut
      obtain ⟨rfl, rfl⟩ := hcut.unique (hold.append hadded)
      obtain ⟨seen, more, rfl, hseen, hup⟩ := ih hold
      rw [written_concat, after_concat]
      cases e with
      | appended chunk => exact ⟨seen, more ++ added, List.append_assoc _ _ _, hseen, hup.append chunk⟩
      | relayed =>
          obtain ⟨untouched, huntouched⟩ := exists_texts_append more
          refine ⟨seen ++ texts more, untouched ++ added, ?_, ?_, ?_⟩
          · rw [List.append_assoc, List.append_assoc, ← List.append_assoc (texts more), huntouched]
          · intro l hl
            rcases List.mem_append.mp hl with hl | hl
            · exact hseen l hl
            · exact isText_of_mem_texts hl
          · rw [Event.chunk, List.append_nil]
            exact (hup.run_texts hold).1

/-- **Every ended line is forwarded once and in order.** Whatever chunks and calls have come before, the journal holds
after a call the messages of all ended lines that the log then holds. The call counts those that were not there before
it, and it fails if the unfinished line is no text. -/
theorem run_after {solver : String} {h h' : Host} {relay : Relay} (hnew : new solver h = (.ok relay, h'))
    (events : List Event) {lines : List (List UInt8)} {unfinished : List UInt8}
    (hcut : IsCut 10 (written events) lines unfinished) (htext : ∀ l ∈ lines, IsText l) :
    ∃ earlier later, messages lines = earlier ++ later
      ∧ (after (relay, h') events).2.journal = h'.journal ++ entries solver earlier
      ∧ (run (after (relay, h') events)).2.2.journal = h'.journal ++ entries solver (messages lines)
      ∧ (run (after (relay, h') events)).1
          = if IsText unfinished then .ok later.length else .error (.file .invalidData) := by
  obtain ⟨seen, more, rfl, -, hup⟩ := upTo_after hnew events hcut
  have hmore : ∀ l ∈ more, IsText l := fun l hl => htext l (List.mem_append_right seen hl)
  obtain ⟨hafter, hresult⟩ := hup.run hcut hmore
  exact ⟨messages seen, messages more, messages_append seen more, hup.journal, hafter.journal, hresult⟩

/-- A host with nothing on it but the directory of temporary files. -/
def bare : Host where
  files := ⟨[(["tmp"], .directory)], #[]⟩
  tempDirectory := "/tmp"
  nextTemp := 0
  tempNames := []
  journal := []
  launcher := fun _ files => (.error .notFound, files)

/-- A line that is put to the log in two halves, cut inside a character. The call in between fails. -/
def halves : List Event :=
  [.appended (Utf8.encode "Running\n\nModel: caf" ++ [0xC3]), .relayed, .appended ([0xA9] ++ Utf8.encode " \r\nObj")]

theorem run_after_halves :
    (run (after (⟨"HiGHS", "/tmp/HiGHS-000000.log", 0⟩, (new "HiGHS" bare).2) halves)).2.2.journal
      = [.info "HiGHS: Running", .info "HiGHS: Model: café"] := by
  have hnew : new "HiGHS" bare = (.ok ⟨"HiGHS", "/tmp/HiGHS-000000.log", 0⟩, (new "HiGHS" bare).2) :=
    Prod.ext (by decide +kernel) rfl
  have hcut : IsCut 10 (written halves) [Utf8.encode "Running", [], Utf8.encode "Model: café \r"]
      (Utf8.encode "Obj") := by
    decide +kernel
  obtain ⟨earlier, later, -, -, hjournal, -⟩ := run_after hnew halves hcut (by decide +kernel)
  rw [hjournal]
  decide +kernel

/-! ### Unfinished lines -/

/-- **An unfinished line is left alone, but half a character in it lets the call fail.** Whatever chunks and calls have
come before, if the ended lines behind the relay's place are text, a call forwards these, and the relay's place is
behind the last line end afterwards, whatever follows that. The call counts these lines if the unfinished line is text
so far, and fails if it is not. -/
theorem run_of_unfinished {solver : String} {h h' : Host} {relay : Relay} (hnew : new solver h = (.ok relay, h'))
    (events : List Event) {lines : List (List UInt8)} {unfinished : List UInt8}
    (hcut : IsCut 10 ((written events).drop (after (relay, h') events).1.offset) lines unfinished)
    (htext : ∀ l ∈ lines, IsText l) :
    (run (after (relay, h') events)).2.1.offset = ((written events).rdropWhile fun b => b ≠ 10).length
      ∧ (run (after (relay, h') events)).2.2.journal
        = (after (relay, h') events).2.journal ++ entries solver (messages lines)
      ∧ (run (after (relay, h') events)).1
        = if IsText unfinished then .ok (messages lines).length else .error (.file .invalidData) := by
  obtain ⟨all, rest, hall⟩ := exists_isCut (10 : UInt8) (written events)
  obtain ⟨seen, more, rfl, -, hup⟩ := upTo_after hnew events hall
  have hdrop : IsCut 10 ((written events).drop (after (relay, h') events).1.offset) more rest :=
    ⟨by rw [hup.offset, hall.whole, ended_append, List.append_assoc, List.drop_left],
      fun l hl => hall.lines l (List.mem_append_right seen hl), hall.rest⟩
  obtain ⟨rfl, rfl⟩ := hdrop.unique hcut
  obtain ⟨hafter, hresult⟩ := hup.run hall htext
  refine ⟨by rw [hafter.offset, hall.rdropWhile], ?_, hresult⟩
  rw [hafter.journal, hup.journal, messages_append, entries_append, List.append_assoc]

theorem run_of_unfinished_halves :
    (run (after (⟨"HiGHS", "/tmp/HiGHS-000000.log", 0⟩, (new "HiGHS" bare).2) halves)).2.1.offset = 24
      ∧ (run (after (⟨"HiGHS", "/tmp/HiGHS-000000.log", 0⟩, (new "HiGHS" bare).2) halves)).1 = .ok 1 := by
  have hnew : new "HiGHS" bare = (.ok ⟨"HiGHS", "/tmp/HiGHS-000000.log", 0⟩, (new "HiGHS" bare).2) :=
    Prod.ext (by decide +kernel) rfl
  have hcut : IsCut 10
      ((written halves).drop
        (after (⟨"HiGHS", "/tmp/HiGHS-000000.log", 0⟩, (new "HiGHS" bare).2) halves).1.offset)
      [Utf8.encode "Model: café \r"] (Utf8.encode "Obj") := by
    decide +kernel
  obtain ⟨hoffset, -, hresult⟩ := run_of_unfinished hnew halves hcut (by decide +kernel)
  rw [hoffset, hresult]
  decide +kernel

/-- Whether a call succeeds whenever the ended lines behind the relay's place are text, whatever follows them. -/
def IsTolerant (s : Relay × Host) (bytes : List UInt8) : Prop :=
  ∀ lines unfinished, IsCut 10 (bytes.drop s.1.offset) lines unfinished → (∀ l ∈ lines, IsText l) →
    (run s).1 = .ok (messages lines).length

/-- An ended line, and behind it the first byte of a character of two. -/
def halfCharacter : List Event := [.appended (Utf8.encode "Running\n" ++ [0xC3])]

/-- **Half a character behind the last line end lets a call fail**, although the line in front of it is forwarded. -/
theorem not_isTolerant_halfCharacter :
    (run (after (⟨"HiGHS", "/tmp/HiGHS-000000.log", 0⟩, (new "HiGHS" bare).2) halfCharacter)).1
        = .error (.file .invalidData)
      ∧ (run (after (⟨"HiGHS", "/tmp/HiGHS-000000.log", 0⟩, (new "HiGHS" bare).2) halfCharacter)).2.2.journal
        = [.info "HiGHS: Running"]
      ∧ ¬IsTolerant (after (⟨"HiGHS", "/tmp/HiGHS-000000.log", 0⟩, (new "HiGHS" bare).2) halfCharacter)
        (written halfCharacter) := by
  have hfails : (run (after (⟨"HiGHS", "/tmp/HiGHS-000000.log", 0⟩, (new "HiGHS" bare).2) halfCharacter)).1
      = .error (.file .invalidData) := by
    decide +kernel
  refine ⟨hfails, by decide +kernel, fun htolerant => ?_⟩
  have hok := htolerant [Utf8.encode "Running"] [0xC3] (by decide +kernel) (by decide +kernel)
  cases hfails.symm.trans hok

end Relay

end LinearProgram
