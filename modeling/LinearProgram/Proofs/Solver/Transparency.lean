import LinearProgram.Proofs.Solver.Answers
import LinearProgram.Proofs.Solver.Fleet

/-!
A cache makes no difference.

Backends of one program run problem files, once with a cache that they share and once without any. If the program is
deterministic, both come to what it makes of the content of the problem file: every run without a cache asks the
program, and every entry of the cache holds what the program has once made of a problem file with the same digest. So
if digests tell contents apart, nobody can tell the two sequences of runs apart, except by the files that are kept.

* `Behaviour`, `Behaviour.answer`: a deterministic program, and what it makes of a problem.
* `Launcher.Behaves`: programs that behave as they should.
* `Behaviour.Agrees`: a backend has answered as the program would.
* `CommandSolver.solve_of_behaves`: solving comes to what the program makes of the problem.
* `Bench.Backed.agrees`, `Bench.solveAndRegister_of_behaves`: so does the entry of a problem, and a problem that is solved
  for the cache.
* `Bench.runCached_of_backed`: **a run with a cache answers as the program would**, and so do all its entries afterwards.
* `Fleet.runCached_transparent`: **runs with a shared cache and runs without a cache come to the same.**
-/

namespace LinearProgram

/-- A failure without what the program has said. -/
def Error.bare : Error → Error
  | .solverExecution solver _ _ => .solverExecution solver "" ""
  | e => e

/-! ### Deterministic programs -/

/-- A deterministic program: how a run ends, and the report that it leaves, by the content of the problem file. -/
structure Behaviour where
  ending : List UInt8 → Except FileFault Ending
  report : List UInt8 → List UInt8

/-- Programs behave as they should: given two new files, they end and report as the content of the problem file says. -/
structure Launcher.Behaves (run : Launcher) (program : Program) (b : Behaviour) : Prop where
  ending : ∀ {problem report output fs m k content},
    Launch.IsGiven ⟨program.command, program.arguments problem report, output, none⟩ fs report m k →
    (fs.stored m).bytes = [] → (fs.stored k).bytes = [] → fs.read problem = .ok content →
    (run ⟨program.command, program.arguments problem report, output, none⟩ fs).1 = b.ending content
  report : ∀ {problem report output fs m k content bytes},
    Launch.IsGiven ⟨program.command, program.arguments problem report, output, none⟩ fs report m k →
    (fs.stored m).bytes = [] → (fs.stored k).bytes = [] → fs.read problem = .ok content →
    b.ending content = .ok (.exited 0) →
    (run ⟨program.command, program.arguments problem report, output, none⟩ fs).2.read report = .ok bytes →
    bytes = b.report content

/-- Programs that make reports of the problem files that their first arguments name. -/
def Launcher.answering (report : List UInt8 → List UInt8) : Launcher :=
  Launcher.reporting fun l fs =>
    match l.arguments.head?.map fs.read with
    | some (.ok content) => report content
    | _ => []

/-- **Programs that only make reports of problem files behave.** -/
lemma Launcher.behaves_answering (program : Program) (report : List UInt8 → List UInt8)
    (hfirst : ∀ problem file, (program.arguments problem file).head? = some problem) :
    (Launcher.answering report).Behaves program ⟨fun _ => .ok (.exited 0), report⟩ := by
  constructor
  · intro problem file output fs m k content hgiven _ _ _
    rw [Launcher.answering, hgiven.reporting]
  · intro problem file output fs m k content bytes hgiven _ _ hread _ hbytes
    rw [Launcher.answering, hgiven.reporting] at hbytes
    simp only [hfirst, Option.map_some, hread] at hbytes
    obtain ⟨q, hstands⟩ := hgiven.report
    have hstands' : (fs.fill m (report content)).Stands file q m := Files.stays_change _ _ _ hstands
    rw [hstands'.read, Files.fill, Files.stored_change_self hstands.numbered] at hbytes
    exact (Except.ok.inj hbytes).symm

namespace Behaviour

variable {b : Behaviour} {program : Program} {content : List UInt8}

/-- What a program makes of a problem. -/
def answer (b : Behaviour) (program : Program) (content : List UInt8) : Except Error Solution :=
  if b.ending content = .ok (.exited 0) then (program.readReport (b.report content)).value
  else .error (.solverExecution program.name "" "")

lemma answer_of_success (hending : b.ending content = .ok (.exited 0)) :
    b.answer program content = (program.readReport (b.report content)).value := if_pos hending

lemma answer_of_failure (hending : b.ending content ≠ .ok (.exited 0)) :
    b.answer program content = .error (.solverExecution program.name "" "") := if_neg hending

/-- A reply and a solution are what a program makes of a problem. -/
def Agrees (b : Behaviour) (program : Program) (content : List UInt8) (reply : Except Error Status) (solution : Solution) :
    Prop :=
  match b.answer program content with
  | .ok found => reply = .ok found.status ∧ solution = found
  | .error e => ∃ e', reply = .error e' ∧ e'.bare = e.bare

lemma Agrees.of_ok {solution : Solution} (h : b.answer program content = .ok solution) :
    b.Agrees program content (.ok solution.status) solution := by
  rw [Agrees, h]
  exact ⟨rfl, rfl⟩

lemma Agrees.of_error {e e' : Error} {solution : Solution} (h : b.answer program content = .error e)
    (hbare : e'.bare = e.bare) : b.Agrees program content (.error e') solution := by
  rw [Agrees, h]
  exact ⟨e', rfl, hbare⟩

/-- A status that is told is that of the solution which the program finds. -/
lemma Agrees.ok {status : Status} {solution : Solution} (h : b.Agrees program content (.ok status) solution) :
    b.answer program content = .ok solution ∧ status = solution.status := by
  rw [Agrees] at h
  cases hanswer : b.answer program content with
  | error e =>
      rw [hanswer] at h
      obtain ⟨e', heq, -⟩ := h
      cases heq
  | ok found =>
      rw [hanswer] at h
      obtain ⟨hreply, rfl⟩ := h
      exact ⟨rfl, Except.ok.inj hreply⟩

end Behaviour

namespace CommandSolver

variable {s : CommandSolver} {h : Host} {path : String} {content : List UInt8} {b : Behaviour}

/-- **Solving comes to what the program makes of the problem**, unless a file operation fails. -/
lemma solve_of_behaves (hrun : h.launcher.KeepsToItself h.IsTemporary) (hb : h.launcher.Behaves s.program b)
    (hlimit : s.limit = none) (hproblem : s.problemFile = some path) (hread : h.files.read path = .ok content) :
    ∃ reply s' h', solve (s, h) = (reply, (s', h'))
      ∧ ((∃ fault, fault ≠ .invalidData ∧ reply = .error (.file fault)) ∨ b.Agrees s.program content reply s'.solution) := by
  rcases solve_cases hrun hproblem with ⟨fault, h₁, hfault, hsolve, -⟩ | ⟨report, ending, files, hruns, hcases⟩
  · exact ⟨_, _, _, hsolve, .inl ⟨fault, hfault, rfl⟩⟩
  · obtain ⟨output, h₁, h₂, q, r, hreport, houtput, hlaunch⟩ := hruns.started
    rw [launchOf, hlimit] at hlaunch
    have hgiven := hreport.isGiven (l := ⟨s.program.command, s.program.arguments path report, output, none⟩) houtput
      (s.program.arguments_getLast? path report)
    have hread₂ := houtput.read (hreport.read hread)
    have hempty : (h₂.files.stored h.files.numbered.size).bytes = [] := (houtput.stored _).trans hreport.empty
    have hending := hb.ending hgiven hempty houtput.empty hread₂
    rw [hlaunch] at hending
    rcases hcases with ⟨hne, e, h', hblames, hsolve, -⟩ | ⟨hok, bytes, hbytes, hvalue⟩
    · refine ⟨_, _, _, hsolve, .inr (.of_error (Behaviour.answer_of_failure (hending ▸ hne)) ?_)⟩
      rcases hblames with ⟨commandLine, reason, rfl⟩ | ⟨commandLine, limit, hsome, -⟩
      · rfl
      · rw [hlimit] at hsome
        cases hsome
    · have hsuccess : b.ending content = .ok (.exited 0) := hending.symm.trans hok
      obtain rfl : bytes = b.report content := by
        refine hb.report hgiven hempty houtput.empty hread₂ hsuccess ?_
        rw [hlaunch]
        exact hbytes
      rcases hvalue with ⟨e, h', hvalue, hsolve, -⟩ | ⟨s', h', hsolve, hadopts⟩
      · exact ⟨_, _, _, hsolve, .inr (.of_error ((Behaviour.answer_of_success hsuccess).trans hvalue) rfl)⟩
      · exact ⟨_, _, _, hsolve, .inr (.of_ok ((Behaviour.answer_of_success hsuccess).trans hadopts.value))⟩

/-- A run without a cache is what the program makes of the problem, unless a file operation fails. -/
lemma runAlone_of_behaves (hrun : h.launcher.KeepsToItself h.IsTemporary) (hb : h.launcher.Behaves s.program b)
    (hlimit : s.limit = none) (format : ProblemFormat) (hread : h.files.read path = .ok content) :
    ∃ reply s' h', Backend.runAlone path format (s, h) = (reply, (s', h'))
      ∧ ((∃ fault, fault ≠ .invalidData ∧ reply = .error (.file fault)) ∨ b.Agrees s.program content reply s'.solution) := by
  obtain ⟨h₁, hsolve, hsame, hfiles⟩ := runAlone_apply path format s h
  rw [hsolve]
  have hread₁ : h₁.files.read path = .ok content := by rw [hfiles, hread]
  rw [← hsame.launcher] at hb
  exact solve_of_behaves (s := s.holding path format) (keepsToItself_of_same hsame hrun) hb hlimit rfl hread₁

end CommandSolver

namespace Bench

open Backend (Ready atSolving solved saved)
open CommandSolver (keepsToItself_of_same)

variable {t u v w : Bench CommandSolver} {path : String} {format : ProblemFormat} {content : List UInt8} {b : Behaviour}
  {program : Program} {contents : Set (List UInt8)}

/-! ### Runs with a cache -/

/-- The problem file reads the same whenever a run with a cache looks at it: before the run, when the problem is solved,
and once the solution has been saved. -/
structure Reads (path : String) (format : ProblemFormat) (t : Bench CommandSolver) (content : List UInt8) : Prop where
  before : t.host.files.read path = .ok content
  solving : ∀ {u}, Ready path format t content u → (atSolving content u).host.files.read path = .ok content
  saved : ∀ {u v w status file}, Ready path format t content u → solved (atSolving content u) = (.ok status, v) →
    saved v = (.ok file, w) → w.host.files.read path = .ok content

/-- A run has only one course, in which the three moments can be looked at. -/
def ReadsInCourse (path : String) (format : ProblemFormat) (t : Bench CommandSolver) (content : List UInt8) : Prop :=
  let ready := (Backend.taken path format t).2
  t.host.files.read path = .ok content ∧ (atSolving content ready).host.files.read path = .ok content
    ∧ (saved (solved (atSolving content ready)).2).2.host.files.read path = .ok content

instance (path : String) (format : ProblemFormat) (t : Bench CommandSolver) (content : List UInt8) :
    Decidable (ReadsInCourse path format t content) :=
  inferInstanceAs (Decidable (_ ∧ _ ∧ _))

lemma ReadsInCourse.reads (h : ReadsInCourse path format t content) : Reads path format t content := by
  obtain ⟨hbefore, hsolving, hsaved⟩ := h
  have htaken : ∀ {u}, Ready path format t content u → (Backend.taken path format t).2 = u := fun hready =>
    congrArg Prod.snd hready.taken
  refine ⟨hbefore, fun {u} hready => ?_, fun {u v w status file} hready hsolved hsaved' => ?_⟩
  · rw [← htaken hready]
    exact hsolving
  · rw [htaken hready, hsolved, hsaved'] at hsaved
    exact hsaved

/-- An entry holds what the program makes of a problem. -/
def Backs (b : Behaviour) (program : Program) (contents : Set (List UInt8)) (h : Host) (e : Digest × KnownSolution) : Prop :=
  ∃ content ∈ contents, e.1 = .ofBytes content ∧ ∃ bytes solution, h.files.read e.2.file = .ok bytes
    ∧ (program.readReport bytes).value = .ok solution ∧ b.answer program content = .ok solution
    ∧ e.2.status = solution.status

/-- The entries of a cache hold what the program makes of problems. -/
def Backed (b : Behaviour) (program : Program) (contents : Set (List UInt8)) (t : Bench CommandSolver) : Prop :=
  ∀ e ∈ t.cache.entries, Backs b program contents t.host e

/-- An entry holds what it has held as long as its file reads the same. -/
lemma Backs.of_read {h h' : Host} {e : Digest × KnownSolution} (hbacks : Backs b program contents h e)
    (hfile : h'.files.read e.2.file = h.files.read e.2.file) : Backs b program contents h' e := by
  obtain ⟨content, hcontent, hdigest, bytes, solution, hread, hrest⟩ := hbacks
  exact ⟨content, hcontent, hdigest, bytes, solution, hfile.trans hread, hrest⟩

/-- Entries that stay hold what they have held. -/
lemma Backed.of_advance (hbacked : t.Backed b program contents) (howns : t.Owns) (hu : t.Advance u)
    (hentries : ∀ e ∈ u.cache.entries, e ∈ t.cache.entries ∨ Backs b program contents u.host e) :
    u.Backed b program contents := by
  intro e he
  rcases hentries e he with hold | hnew
  · exact (hbacked e hold).of_read ((hu.entries e hold he).read (howns.cache.file e hold).2)
  · exact hnew

/-- **The entry of a problem answers as the program would.** It may be the entry of another problem, but not of one with
another content, since digests tell contents apart. -/
lemma Backed.agrees {known : KnownSolution} {bytes : List UInt8} {solution : Solution}
    (hbacked : t.Backed b program contents) (hinj : contents.InjOn Digest.ofBytes) (hcontent : content ∈ contents)
    (hentry : t.cache.get? (.ofBytes content) = some known) (hbytes : t.host.files.read known.file = .ok bytes)
    (hvalue : (program.readReport bytes).value = .ok solution) : b.Agrees program content (.ok known.status) solution := by
  obtain ⟨content', hmem, hdigest, bytes', solution', hbytes', hvalue', hfound, hstatus⟩ :=
    hbacked _ (Cache.mem_of_get? hentry)
  obtain rfl := hinj hcontent hmem hdigest
  obtain rfl := Except.ok.inj (hbytes'.symm.trans hbytes)
  obtain rfl := Except.ok.inj (hvalue'.symm.trans hvalue)
  change known.status = _ at hstatus
  rw [hstatus]
  exact .of_ok hfound

/-- **A problem that is solved for the cache is answered as the program would**, unless a file operation fails, and a new
entry holds the answer. -/
lemma solveAndRegister_of_behaves (hrun : v.host.launcher.KeepsToItself v.host.IsTemporary) (howns : v.Owns)
    (hb : v.host.launcher.Behaves v.backend.program b) (hlimit : v.backend.limit = none) (hcontent : content ∈ contents)
    (hproblem : v.backend.problemFile = some path) (hread : v.host.files.read path = .ok content)
    (hsaved : ∀ {status u file w}, solved v = (.ok status, u) → saved u = (.ok file, w) →
      w.host.files.read path = .ok content) :
    ∃ reply u, Backend.solveAndRegister path v = (reply, u)
      ∧ (∀ e ∈ u.cache.entries, e ∈ v.cache.entries ∨ Backs b v.backend.program contents u.host e)
      ∧ ((∃ fault, fault ≠ .invalidData ∧ reply = .error (.file fault))
        ∨ b.Agrees v.backend.program content reply u.backend.solution) := by
  obtain ⟨reply, s', h', hsolve, hreply⟩ := CommandSolver.solve_of_behaves hrun hb hlimit hproblem hread
  rcases solveAndRegister_cases hrun howns path with
    ⟨e, u, hsolved, hfailed, hcache⟩ | ⟨status, u, hsolved, -, -, hregistered⟩
  · obtain ⟨rfl, hstate⟩ := Prod.mk.inj (hsolve.symm.trans (Backend.onBackend_eq_iff.mp hsolved).1)
    obtain ⟨rfl, -⟩ := Prod.mk.inj hstate
    exact ⟨_, u, hfailed, fun e he => .inl (hcache ▸ he), hreply⟩
  · obtain ⟨rfl, hstate⟩ := Prod.mk.inj (hsolve.symm.trans (Backend.onBackend_eq_iff.mp hsolved).1)
    obtain ⟨rfl, -⟩ := Prod.mk.inj hstate
    rcases hregistered with ⟨fault, w, hfault, hfailed, hcache⟩ |
      ⟨bytes, file, w, content', h, hsave, hcontent', hvalue, hregistered, hr⟩
    · exact ⟨_, w, hfailed, fun e he => .inl (hcache ▸ he), .inl ⟨fault, hfault, rfl⟩⟩
    · have hagrees : b.Agrees v.backend.program content (.ok status) u.backend.solution := by
        rcases hreply with ⟨fault, -, heq⟩ | hagrees
        · cases heq
        · exact hagrees
      obtain ⟨hfound, hstatus⟩ := hagrees.ok
      obtain rfl := Except.ok.inj (hcontent'.symm.trans (hsaved hsolved hsave))
      refine ⟨_, _, hregistered, fun e he => ?_, .inr hagrees⟩
      rcases Cache.mem_entries_insert he with rfl | ⟨hold, -⟩
      · exact .inr ⟨content', hcontent, rfl, bytes, _, hr.read, hvalue, hfound, hstatus⟩
      · exact .inl hold

/-- **A run with a cache answers as the program would**, unless a file operation fails, and all its entries still hold
what the program makes of problems. -/
lemma runCached_of_backed (hrun : t.host.launcher.KeepsToItself t.host.IsTemporary) (howns : t.Owns)
    (hb : t.host.launcher.Behaves program b) (hprogram : t.backend.program = program) (hlimit : t.backend.limit = none)
    (hinj : contents.InjOn Digest.ofBytes) (hcontent : content ∈ contents) (hreads : Reads path format t content)
    (hbacked : t.Backed b program contents) :
    ∃ reply u, Backend.runCached path format t = (reply, u) ∧ u.Backed b program contents
      ∧ ((∃ fault, fault ≠ .invalidData ∧ reply = .error (.file fault))
        ∨ b.Agrees program content reply u.backend.solution) := by
  subst hprogram
  have hadvance := (confines_runCached path format t hrun howns.hasFiles).advance howns
  rcases runCached_cases hrun howns path format with ⟨fault, hfault, -⟩ | ⟨content', hread, hanswer⟩
  · cases hfault.symm.trans hreads.before
  obtain rfl := Except.ok.inj (hread.symm.trans hreads.before)
  rcases hanswer with ⟨known, bytes, u, hentry, -, hbytes, hvalue, hrunCached, hcache⟩ |
    ⟨t', v, hready, rfl, hproblem, hv, hcache, hrunCached⟩
  · rw [hrunCached] at hadvance
    exact ⟨_, u, hrunCached, hbacked.of_advance howns hadvance fun e he => .inl (hcache ▸ he),
      .inr (hbacked.agrees hinj hcontent hentry hbytes hvalue)⟩
  · rw [← hv.same.launcher, ← hv.program] at hb
    obtain ⟨reply, u, hsolved, hentries, hreply⟩ :=
      solveAndRegister_of_behaves (keepsToItself_of_same hv.same hrun) hv.owns hb (hv.limit.trans hlimit) hcontent
        hproblem (hreads.solving hready) (hreads.saved hready)
    rw [hcache, hv.program] at hentries
    rw [hv.program] at hreply
    rw [hrunCached, hsolved] at hadvance
    exact ⟨reply, u, hrunCached.trans hsolved, hbacked.of_advance howns hadvance hentries, hreply⟩

end Bench

/-! ### Two fleets at a time -/

/-- What happens to two fleets at a time, one with a cache and one without. -/
inductive Task (ι : Type) where
  /-- A backend runs a problem file. -/
  | run (solver : ι) (path : String) (format : ProblemFormat)
  /-- The cache is cleared, if there is one. -/
  | clear
  /-- Others do something to the files of the one and of the other. -/
  | outside (cached alone : Files → Files)

namespace Task

variable {ι : Type}

/-- What the fleet with a cache is asked for. -/
def cached : Task ι → Request ι Unit
  | run i path format => .ask i () (.runCached path format)
  | clear => .clear ()
  | outside change _ => .outside change

/-- What the fleet without a cache is asked for. -/
def alone : Task ι → Request ι Unit
  | run i path format => .ask i () (.runAlone path format)
  | clear => .outside id
  | outside _ change => .outside change

end Task

namespace Fleet

variable {ι : Type} [DecidableEq ι] {x : Fleet ι Unit} {b : Behaviour} {program : Program} {contents : Set (List UInt8)}
  {tasks : List (Task ι)}

/-- Nothing disturbs the runs. Everybody keeps away from the files that are owned; each problem file reads the same with
and without a cache, and during the run; and no run fails for the sake of a file. -/
structure Undisturbed (x : Fleet ι Unit) (contents : Set (List UInt8)) (tasks : List (Task ι)) : Prop where
  cached : x.Proper (tasks.map Task.cached)
  alone : x.Proper (tasks.map Task.alone)
  reads : ∀ {before i path format later}, tasks = before ++ .run i path format :: later → ∃ content ∈ contents,
    Bench.Reads path format ((x.after (before.map Task.cached)).bench i ()) content
      ∧ (x.after (before.map Task.alone)).host.files.read path = .ok content
  faultless : ∀ {before i path format later fault}, tasks = before ++ .run i path format :: later → fault ≠ .invalidData →
    ((x.after (before.map Task.cached)).step (.ask i () (.runCached path format))).1 ≠ .error (.file fault)
      ∧ ((x.after (before.map Task.alone)).step (.ask i () (.runAlone path format))).1 ≠ .error (.file fault)

lemma Undisturbed.of_append {later : List (Task ι)} (h : x.Undisturbed contents (tasks ++ later)) :
    x.Undisturbed contents tasks where
  cached := by
    have hcached := h.cached
    rw [List.map_append] at hcached
    exact hcached.of_append
  alone := by
    have halone := h.alone
    rw [List.map_append] at halone
    exact halone.of_append
  reads {before i path format rest} heq := by
    have hsplit : tasks ++ later = before ++ .run i path format :: (rest ++ later) := by simp [heq]
    exact h.reads hsplit
  faultless {before i path format rest fault} heq := by
    have hsplit : tasks ++ later = before ++ .run i path format :: (rest ++ later) := by simp [heq]
    exact h.faultless hsplit

lemma undisturbed_nil (x : Fleet ι Unit) (contents : Set (List UInt8)) : x.Undisturbed contents [] where
  cached := proper_nil x
  alone := proper_nil x
  reads heq := absurd heq (by simp)
  faultless heq := absurd heq (by simp)

/-- One more run is not disturbed either. -/
lemma Undisturbed.concat_run {i : ι} {path : String} {format : ProblemFormat} {content : List UInt8} {y z : Fleet ι Unit}
    (h : x.Undisturbed contents tasks) (hy : x.after (tasks.map Task.cached) = y) (hz : x.after (tasks.map Task.alone) = z)
    (hcontent : content ∈ contents) (hreads : Bench.Reads path format (y.bench i ()) content)
    (halone : z.host.files.read path = .ok content)
    (hfaultless : ∀ fault, fault ≠ .invalidData → (y.step (.ask i () (.runCached path format))).1 ≠ .error (.file fault)
      ∧ (z.step (.ask i () (.runAlone path format))).1 ≠ .error (.file fault)) :
    x.Undisturbed contents (tasks ++ [.run i path format]) := by
  subst hy hz
  have hcases : ∀ {before j path' format' later}, tasks ++ [.run i path format] = before ++ .run j path' format' :: later →
      (before = tasks ∧ j = i ∧ path' = path ∧ format' = format)
        ∨ ∃ rest, tasks = before ++ .run j path' format' :: rest := by
    intro before j path' format' later heq
    rcases List.eq_nil_or_concat later with rfl | ⟨rest, last, rfl⟩
    · obtain ⟨rfl, hlast⟩ := List.append_inj' heq rfl
      obtain ⟨rfl, rfl, rfl⟩ := Task.run.inj (List.singleton_inj.mp hlast)
      exact .inl ⟨rfl, rfl, rfl, rfl⟩
    · have hsplit : tasks ++ [.run i path format] = (before ++ .run j path' format' :: rest) ++ [last] := by simp [heq]
      exact .inr ⟨rest, (List.append_inj' hsplit rfl).1⟩
  refine ⟨?_, ?_, fun {before j path' format' later} heq => ?_, fun {before j path' format' later fault} heq hfault => ?_⟩
  · rw [List.map_append, List.map_singleton]
    exact h.cached.concat trivial
  · rw [List.map_append, List.map_singleton]
    exact h.alone.concat trivial
  · rcases hcases heq with ⟨rfl, rfl, rfl, rfl⟩ | ⟨rest, hrest⟩
    · exact ⟨content, hcontent, hreads, halone⟩
    · exact h.reads hrest
  · rcases hcases heq with ⟨rfl, rfl, rfl, rfl⟩ | ⟨rest, hrest⟩
    · exact hfaultless fault hfault
    · exact h.faultless hrest hfault

/-- The entries of the cache hold what the program makes of problems. -/
def Backed (x : Fleet ι Unit) (b : Behaviour) (program : Program) (contents : Set (List UInt8)) : Prop :=
  ∀ e ∈ (x.caches ()).entries, Bench.Backs b program contents x.host e

/-- What is no run leaves the entries what they are. -/
lemma Backed.step {r : Request ι Unit} (hx : x.Sound) (hrun : x.KeepsToItself) (hr : r.Proper x)
    (hbacked : x.Backed b program contents) (hno : ∀ i k op, r ≠ .ask i k op) :
    (x.step r).2.Backed b program contents := by
  intro e he
  have hold : e ∈ (x.caches ()).entries := by
    by_contra hnew
    obtain ⟨i, op, -, heq⟩ := exists_of_new_entry hnew he
    exact hno i () op heq
  have huntouched := hx.untouched_entry hrun hr hold he
  exact (hbacked e hold).of_read (huntouched.read (hx.file (o := .inr ()) ⟨e, hold, rfl⟩).2)

/-- A deterministic program that all backends start, without a time limit. -/
structure Starts (x : Fleet ι Unit) (program : Program) (b : Behaviour) : Prop where
  behaves : x.host.launcher.Behaves program b
  program : ∀ i, (x.solvers i).program = program
  limit : ∀ i, (x.solvers i).limit = none

omit [DecidableEq ι] in
lemma Follows.starts {x' : Fleet ι Unit} (h : x.Follows x') (hx : x.Starts program b) : x'.Starts program b where
  behaves := by
    rw [h.same.launcher]
    exact hx.behaves
  program i := (h.program i).trans (hx.program i)
  limit i := (h.limit i).trans (hx.limit i)

/-- **A run with the cache answers as the program would**, and leaves the entries what they should be. -/
lemma Sound.step_runCached_of_backed {i : ι} {path : String} {format : ProblemFormat} {content : List UInt8} (hx : x.Sound)
    (hrun : x.KeepsToItself) (hstarts : x.Starts program b) (hinj : contents.InjOn Digest.ofBytes)
    (hcontent : content ∈ contents) (hreads : Bench.Reads path format (x.bench i ()) content)
    (hbacked : x.Backed b program contents) :
    ∃ reply x', x.step (.ask i () (.runCached path format)) = (reply.map some, x') ∧ x'.Backed b program contents
      ∧ ((∃ fault, fault ≠ .invalidData ∧ reply = .error (.file fault))
        ∨ b.Agrees program content reply (x'.solvers i).solution) := by
  obtain ⟨reply, u, hrunCached, hbacked', hreply⟩ := Bench.runCached_of_backed (t := x.bench i ()) hrun (hx.bench i ())
    hstarts.behaves (hstarts.program i) (hstarts.limit i) hinj hcontent hreads hbacked
  refine ⟨reply, x.seat i () u, ?_, ?_, ?_⟩
  · rw [step_runCached, hrunCached]
  · intro e he
    rw [seat_caches_self] at he
    exact hbacked' e he
  · rwa [seat_solvers_self]

/-- **A run without a cache answers as the program would.** -/
lemma step_runAlone_of_starts {i : ι} {path : String} (format : ProblemFormat) {content : List UInt8}
    (hrun : x.KeepsToItself) (hstarts : x.Starts program b) (hread : x.host.files.read path = .ok content) :
    ∃ reply x', x.step (.ask i () (.runAlone path format)) = (reply.map some, x')
      ∧ ((∃ fault, fault ≠ .invalidData ∧ reply = .error (.file fault))
        ∨ b.Agrees program content reply (x'.solvers i).solution) := by
  have hb := hstarts.behaves
  rw [← hstarts.program i] at hb ⊢
  obtain ⟨reply, s', h', hrunAlone, hreply⟩ :=
    CommandSolver.runAlone_of_behaves hrun hb (hstarts.limit i) format hread
  refine ⟨reply, _, step_runAlone hrunAlone, ?_⟩
  rwa [seat_solvers_self]

/-- **The entries of the cache always hold what the program makes of problems.** -/
lemma backed_after (hfresh : x.Fresh) (hrun : x.KeepsToItself) (hstarts : x.Starts program b)
    (hinj : contents.InjOn Digest.ofBytes) (htasks : x.Undisturbed contents tasks) :
    (x.after (tasks.map Task.cached)).Backed b program contents := by
  induction tasks using List.reverseRecOn with
  | nil =>
      intro e he
      change e ∈ (x.caches ()).entries at he
      rw [hfresh.caches] at he
      cases he
  | append_singleton tasks task ih =>
      have hproper := htasks.of_append.cached
      have hlast := htasks.cached
      rw [List.map_append, List.map_singleton] at hlast ⊢
      obtain ⟨hsound, hfollows⟩ := hfresh.sound.after hrun hproper
      have hrun' := hfollows.keepsToItself hrun
      rw [after_concat]
      cases task with
      | run i path format =>
          obtain ⟨content, hcontent, hreads, -⟩ := htasks.reads rfl
          obtain ⟨reply, x', hstep, hbacked, -⟩ := hsound.step_runCached_of_backed hrun' (hfollows.starts hstarts) hinj
            hcontent hreads (ih htasks.of_append)
          rw [Task.cached, hstep]
          exact hbacked
      | clear => exact (ih htasks.of_append).step hsound hrun' hlast.last fun _ _ _ h => by cases h
      | outside change _ => exact (ih htasks.of_append).step hsound hrun' hlast.last fun _ _ _ h => by cases h

/-- **A cache makes no difference.** Backends that start the same deterministic program, without a time limit, run
problem files, clear their cache, and see others change files; and so do the same backends without a cache. If digests
tell the contents of the problem files apart, and nothing disturbs the runs, then each run gives the same status with
the same solution, or a failure of the same kind. -/
theorem runCached_transparent (x : Fleet ι Unit) (program : Program) (b : Behaviour) (contents : Set (List UInt8))
    (tasks : List (Task ι)) (hfresh : x.Fresh) (hrun : x.KeepsToItself) (hstarts : x.Starts program b)
    (hinj : contents.InjOn Digest.ofBytes) (htasks : x.Undisturbed contents tasks) (before later : List (Task ι)) (i : ι)
    (path : String) (format : ProblemFormat) (hsplit : tasks = before ++ .run i path format :: later) :
    let cached := (x.after (before.map Task.cached)).step (.ask i () (.runCached path format))
    let alone := (x.after (before.map Task.alone)).step (.ask i () (.runAlone path format))
    (∃ status, cached.1 = .ok (some status) ∧ alone.1 = .ok (some status)
        ∧ (cached.2.solvers i).solution = (alone.2.solvers i).solution)
      ∨ ∃ e e', cached.1 = .error e ∧ alone.1 = .error e' ∧ e.bare = e'.bare := by
  intro cached alone
  have hbefore : x.Undisturbed contents before := (hsplit ▸ htasks).of_append
  obtain ⟨content, hcontent, hreads, hread⟩ := htasks.reads hsplit
  obtain ⟨hsound, hfollows⟩ := hfresh.sound.after hrun hbefore.cached
  obtain ⟨-, hfollows'⟩ := hfresh.sound.after hrun hbefore.alone
  obtain ⟨reply, x', hcached, -, hreply⟩ := hsound.step_runCached_of_backed (hfollows.keepsToItself hrun)
    (hfollows.starts hstarts) hinj hcontent hreads (backed_after hfresh hrun hstarts hinj hbefore)
  obtain ⟨reply', y', halone, hreply'⟩ :=
    step_runAlone_of_starts format (hfollows'.keepsToItself hrun) (hfollows'.starts hstarts) hread
  have hagrees : b.Agrees program content reply (x'.solvers i).solution := by
    refine hreply.resolve_left ?_
    rintro ⟨fault, hfault, rfl⟩
    exact (htasks.faultless hsplit hfault).1 (congrArg Prod.fst hcached)
  have hagrees' : b.Agrees program content reply' (y'.solvers i).solution := by
    refine hreply'.resolve_left ?_
    rintro ⟨fault, hfault, rfl⟩
    exact (htasks.faultless hsplit hfault).2 (congrArg Prod.fst halone)
  have hcached' : cached = (reply.map some, x') := hcached
  have halone' : alone = (reply'.map some, y') := halone
  rw [hcached', halone']
  -- both replies are what the program makes of the content
  rw [Behaviour.Agrees] at hagrees hagrees'
  cases hanswer : b.answer program content with
  | ok found =>
      rw [hanswer] at hagrees hagrees'
      obtain ⟨rfl, hsolution⟩ := hagrees
      obtain ⟨rfl, hsolution'⟩ := hagrees'
      exact .inl ⟨found.status, rfl, rfl, hsolution.trans hsolution'.symm⟩
  | error e =>
      rw [hanswer] at hagrees hagrees'
      obtain ⟨e₁, rfl, hbare⟩ := hagrees
      obtain ⟨e₂, rfl, hbare'⟩ := hagrees'
      exact .inr ⟨e₁, e₂, rfl, rfl, hbare.trans hbare'.symm⟩

/-- What the program of the twins reports. -/
def twinReport (content : List UInt8) : List UInt8 :=
  Utf8.encode (if content = [0x61] then "Optimal\n0 x0 7 1\n" else "Infeasible\n")

/-- Two backends of one program, which reports by the content of the problem file. -/
def twins : Fleet Bool Unit := duo (fun _ => .clp "clp") (Launcher.answering twinReport)

lemma starts_twins : twins.Starts (.clp "clp") ⟨fun _ => .ok (.exited 0), twinReport⟩ where
  behaves := Launcher.behaves_answering _ _ fun _ _ => rfl
  program _ := rfl
  limit _ := rfl

/-- The twins once one of them has run with the cache. -/
def ranCached : Fleet Bool Unit := twins.after ([.run false "/p.lp" .cplex].map Task.cached)

/-- The twins once one of them has run without a cache. -/
def ranAlone : Fleet Bool Unit := twins.after ([.run false "/p.lp" .cplex].map Task.alone)

lemma undisturbed_twins :
    twins.Undisturbed {[0x61]} ([] ++ [.run false "/p.lp" .cplex] ++ [.run true "/p.lp" .cplex]) := by
  have hok : ∀ {reply : Except Error (Option Status)} {status}, reply = .ok status →
      ∀ fault, reply ≠ .error (.file fault) := by
    rintro reply status rfl fault h
    cases h
  have hfirstRuns : (twins.step (.ask false () (.runCached "/p.lp" .cplex))).1 = .ok (some .optimal)
      ∧ (twins.step (.ask false () (.runAlone "/p.lp" .cplex))).1 = .ok (some .optimal)
      ∧ Bench.ReadsInCourse "/p.lp" .cplex (twins.bench false ()) [0x61] := by
    decide +kernel
  have hsecondRuns : ranAlone.host.files.read "/p.lp" = .ok [0x61]
      ∧ (ranCached.step (.ask true () (.runCached "/p.lp" .cplex))).1 = .ok (some .optimal)
      ∧ (ranAlone.step (.ask true () (.runAlone "/p.lp" .cplex))).1 = .ok (some .optimal)
      ∧ Bench.ReadsInCourse "/p.lp" .cplex (ranCached.bench true ()) [0x61] := by
    decide +kernel
  obtain ⟨hcached, halone, hreads⟩ := hfirstRuns
  obtain ⟨hread', hcached', halone', hreads'⟩ := hsecondRuns
  have hfirst : twins.Undisturbed {[0x61]} ([] ++ [.run false "/p.lp" .cplex]) :=
    (undisturbed_nil twins {[0x61]}).concat_run (y := twins) (z := twins) rfl rfl rfl hreads.reads hreads.1
      fun fault _ => ⟨hok hcached fault, hok halone fault⟩
  exact hfirst.concat_run (y := ranCached) (z := ranAlone) rfl rfl rfl hreads'.reads hread' fun fault _ =>
    ⟨hok hcached' fault, hok halone' fault⟩

/-- The second run is answered from the cache, and comes to the same as another run of the program. -/
theorem runCached_transparent_twins :
    ((ranCached.step (.ask true () (.runCached "/p.lp" .cplex))).2.solvers true).solution
      = ((ranAlone.step (.ask true () (.runAlone "/p.lp" .cplex))).2.solvers true).solution := by
  have hreply : (ranAlone.step (.ask true () (.runAlone "/p.lp" .cplex))).1 = .ok (some .optimal) := by decide +kernel
  have hsame := runCached_transparent twins _ _ {[0x61]} _ (fresh_duo _ _)
    (Launcher.keepsToItself_reporting _ _) starts_twins (Set.injOn_singleton _ _) undisturbed_twins
    [.run false "/p.lp" .cplex] [] true "/p.lp" .cplex rfl
  rw [← ranCached, ← ranAlone] at hsame
  rcases hsame with ⟨status, -, -, hsolution⟩ | ⟨e, e', -, hfailed, -⟩
  · exact hsolution
  · cases hreply.symm.trans hfailed

end Fleet

end LinearProgram
