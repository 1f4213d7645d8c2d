import LinearProgram.Proofs.Host.Delivery
import LinearProgram.Proofs.Solver.Contract
import LinearProgram.Solver.CommandLine

/-!
What the operations of a backend that starts a program do to files.

Loading and solving work in two parts. The first part only makes new temporary files, and takes them away again if it
fails; if it succeeds, it delivers a report file with the solution that the program reads from it. The second part puts
the two in the place of the former ones. So a failure changes nothing that is kept.
-/

namespace LinearProgram

namespace Program

/-- The last argument of a program is its report file. -/
lemma arguments_getLast? (program : Program) (problem report : String) :
    (program.arguments problem report).getLast? = some report := by
  cases program with
  | glpk command seconds => rw [arguments, List.getLast?_append_of_ne_nil _ (by simp)]; rfl
  | cbc command seconds threads => rw [arguments, List.getLast?_append_of_ne_nil _ (by simp)]; rfl
  | clp command => rfl
  | scip command => rfl

/-- Programs of one kind read reports alike. -/
lemma readReport_congr {program other : Program} (h : program.solverKind = other.solverKind) :
    program.readReport = other.readReport := by
  cases program <;> cases other <;> first | rfl | cases h

end Program

namespace CommandSolver

variable {s : CommandSolver} {h h₁ h₂ : Host} {path problem : String} {kind : SolutionKind} {bytes : List UInt8}
  {solution : Solution}

/-! ### Loading -/

lemma current_apply (s : CommandSolver) (h : Host) : BackendM.current (s, h) = (.ok s, (s, h)) := rfl

/-- What has been read from a report is the current solution, and a copy of the report is kept in a new file. -/
structure Adopts (s : CommandSolver) (h : Host) (bytes : List UInt8) (s' : CommandSolver) (h' : Host) : Prop where
  value : (s.program.readReport bytes).value = .ok s'.solution
  delivered : ∃ file place h₁, h.Delivers h₁ file place bytes
    ∧ s' = { s with solutionFile := some file, solution := s'.solution } ∧ h₁.SameSurroundings h'
    ∧ h'.files = (Host.discardAny s.solutionFile h₁).2.files

lemma discardAny_same (file? : Option String) (h : Host) : h.SameSurroundings (Host.discardAny file? h).2 := by
  cases file? with
  | none => exact .refl h
  | some file => exact Host.discard_same file h

lemma adopt_apply (file : String) (solution : Solution) (s : CommandSolver) (h : Host) :
    adopt file solution (s, h)
      = (.ok ⟨⟩, ({ s with solutionFile := some file, solution }, (Host.discardAny s.solutionFile h).2)) := rfl

lemma readReport_of_ok (hread : h.files.read path = .ok bytes) :
    s.readReport path h
      = ((s.program.readReport bytes).value, { h with journal := h.journal ++ (s.program.readReport bytes).entries }) := by
  rw [readReport, bind_apply_ok _ (Host.read_of_ok hread), Host.logged_apply]

lemma readReport_of_error {fault : FileFault} (hread : h.files.read path = .error fault) :
    s.readReport path h = (.error (.file fault), h) := by
  rw [readReport, bind_apply_error _ (Host.read_of_error hread)]

lemma makeSolutionFile_cases (s : CommandSolver) (h : Host) :
    (∃ file h₁ place, s.makeSolutionFile h = (.ok file, h₁) ∧ h.Makes h₁ file place)
      ∨ ∃ fault, fault ≠ .invalidData ∧ s.makeSolutionFile h = (.error (.file fault), h) :=
  Host.makes_of_makeTemporary _ _ h

/-- **A report file is loaded, or nothing has changed.** A report that the program can read is only refused for the
sake of its copy. -/
lemma loadSolution_cases (path : String) (kind : SolutionKind) (s : CommandSolver) (h : Host) :
    (∃ e h₁, loadSolution path kind (s, h) = (.error e, (s, h₁)) ∧ h.Spares h₁
        ∧ ∀ {bytes solution}, kind = .basic → h.files.read path = .ok bytes →
            (s.program.readReport bytes).value = .ok solution → ∃ fault, fault ≠ .invalidData ∧ e = .file fault)
      ∨ ∃ bytes s' h', h.files.read path = .ok bytes ∧ loadSolution path kind (s, h) = (.ok ⟨⟩, (s', h'))
          ∧ s.Adopts h bytes s' h' := by
  rw [loadSolution, bind_apply_ok _ (current_apply s h)]
  by_cases hkind : kind ≠ .basic
  · rw [if_pos hkind]
    exact .inl ⟨_, h, bind_apply_error _ (throw_apply _ _), .refl h, fun hbasic => absurd hbasic hkind⟩
  rw [if_neg hkind]
  beta_reduce
  cases hread : h.files.read path with
  | error fault =>
      refine .inl ⟨_, h, bind_apply_error _ (Backend.onHost_apply (readReport_of_error hread)), .refl h, ?_⟩
      intro bytes solution _ hread'
      cases hread'
  | ok bytes =>
      have hreport := Backend.onHost_apply (b := s) (readReport_of_ok (s := s) hread)
      set h₁ : Host := { h with journal := h.journal ++ (s.program.readReport bytes).entries } with hh₁
      have hsame : h.Spares h₁ := .of_files ⟨rfl, rfl⟩ rfl
      cases hvalue : (s.program.readReport bytes).value with
      | error e =>
          rw [hvalue] at hreport
          refine .inl ⟨e, h₁, bind_apply_error _ hreport, hsame, ?_⟩
          intro bytes' solution _ hread' hvalue'
          obtain rfl := Except.ok.inj hread'
          rw [hvalue] at hvalue'
          cases hvalue'
      | ok solution =>
          rw [hvalue] at hreport
          rw [bind_apply_ok _ hreport]
          rcases makeSolutionFile_cases s h₁ with ⟨file, h₂, place, hmake, hmakes⟩ | ⟨fault, hfault, hmake⟩
          · rw [bind_apply_ok _ (Backend.onHost_apply hmake)]
            have hread₁ : h₁.files.read path = .ok bytes := hread
            rcases hmakes.copy hread₁ with ⟨h₃, hcopy, hdelivers⟩ | ⟨fault, hfault, hcopy⟩
            · refine .inr ⟨bytes, { s with solutionFile := some file, solution }, _, rfl, ?_, hvalue, file, place, h₃,
                hsame.delivers hdelivers, rfl, discardAny_same s.solutionFile h₃, rfl⟩
              rw [bind_apply_ok _ (Backend.onHost_apply (Host.discardOnError_of_ok file hcopy))]
              exact adopt_apply file solution s h₃
            · refine .inl ⟨_, _, bind_apply_error _ (Backend.onHost_apply (Host.discardOnError_of_error file hcopy)),
                hsame.trans hmakes.delivers.discard, fun _ _ _ => ⟨fault, hfault, rfl⟩⟩
          · exact .inl ⟨_, h₁, bind_apply_error _ (Backend.onHost_apply hmake), hsame, fun _ _ _ => ⟨fault, hfault, rfl⟩⟩

/-- **A solution is loaded by adopting a report.** -/
lemma loadSolution_of_ok {s' : CommandSolver} {h' : Host}
    (hload : loadSolution path kind (s, h) = (.ok ⟨⟩, (s', h'))) :
    ∃ bytes, h.files.read path = .ok bytes ∧ s.Adopts h bytes s' h' := by
  rcases loadSolution_cases path kind s h with ⟨e, h₁, heq, -⟩ | ⟨bytes, s₁, h₁, hread, heq, hadopts⟩
  · cases hload.symm.trans heq
  · obtain ⟨-, hstate⟩ := Prod.mk.inj (hload.symm.trans heq)
    obtain ⟨rfl, rfl⟩ := Prod.mk.inj hstate
    exact ⟨bytes, hread, hadopts⟩

/-- A load that fails replaces nothing. -/
lemma loadSolution_of_error {e : Error} {s' : CommandSolver} {h' : Host}
    (hload : loadSolution path kind (s, h) = (.error e, (s', h'))) : s' = s ∧ h.Spares h' := by
  rcases loadSolution_cases path kind s h with ⟨e', h₁, heq, hspares, -⟩ | ⟨bytes, s₁, h₁, -, heq, -⟩
  · obtain ⟨-, hstate⟩ := Prod.mk.inj (hload.symm.trans heq)
    obtain ⟨rfl, rfl⟩ := Prod.mk.inj hstate
    exact ⟨rfl, hspares⟩
  · cases hload.symm.trans heq

/-! ### Solving -/

/-- The failures of a run: the program cannot be started or does not succeed, or it runs beyond the limit if there is
one. -/
def Blames (s : CommandSolver) (e : Error) : Prop :=
  (∃ commandLine reason, e = .solverExecution s.name commandLine reason)
    ∨ ∃ commandLine limit, s.limit = some limit ∧ e = .solverTimeout s.name commandLine limit

/-- What follows from the end of a run. -/
lemma conclude_cases (s : CommandSolver) (ending : Ending) (output commandLine : String) (h : Host) :
    ∃ result h₁, s.conclude ending output commandLine h = (result, h₁)
      ∧ h.SameSurroundings h₁ ∧ h₁.files = h.files
      ∧ (ending = .exited 0 ∧ result = .ok ⟨⟩ ∨ ending ≠ .exited 0 ∧ ∃ e, result = .error e ∧ s.Blames e) := by
  by_cases hover : ∃ limit, ending = .overran ∧ s.limit = some limit
  · obtain ⟨limit, rfl, hlimit⟩ := hover
    unfold conclude
    rw [hlimit]
    exact ⟨_, _, bind_apply_ok _ (Host.note_apply _ h), ⟨rfl, rfl⟩, rfl, .inr ⟨by simp, _, rfl, .inr ⟨_, _, hlimit, rfl⟩⟩⟩
  · rw [conclude, bind_apply_ok _ (get_apply h), bind_apply_ok _ (Host.note_apply _ h)]
    · by_cases hending : ending ≠ .exited 0
      · rw [if_pos hending]
        exact ⟨_, _, rfl, ⟨rfl, rfl⟩, rfl, .inr ⟨hending, _, rfl, .inl ⟨_, _, rfl⟩⟩⟩
      · rw [if_neg hending]
        exact ⟨_, _, rfl, ⟨rfl, rfl⟩, rfl, .inl ⟨not_not.mp hending, rfl⟩⟩
    · exact fun limit hending hlimit => hover ⟨limit, hending, hlimit⟩

/-- The start of the program on a problem. -/
def launchOf (s : CommandSolver) (problem report output : String) : Launch :=
  ⟨s.program.command, s.program.arguments problem report, output, s.limit⟩

lemma launch_of_run {result : Except FileFault Ending} {files : Files} {report output : String} (commandLine : String)
    (hrun : h.launcher (s.launchOf problem report output) h.files = (result, files)) :
    s.launch (s.program.arguments problem report) output commandLine h
      = (result.mapError fun fault => s.executionError commandLine fault.message, { h with files }) := by
  rw [launch, ← launchOf, hrun]
  cases result <;> rfl

/-- **A run of the program**, whose output is gone afterwards, or no run at all. -/
lemma execute_cases (s : CommandSolver) (problem report commandLine : String) (h : Host) :
    (∃ fault, fault ≠ .invalidData
        ∧ s.execute (s.program.arguments problem report) commandLine h = (.error (.file fault), h))
      ∨ ∃ output h₁ place result h₂, h.Makes h₁ output place
          ∧ s.execute (s.program.arguments problem report) commandLine h = (result, (Host.discard output h₂).2)
          ∧ h₁.SameSurroundings h₂ ∧ h₂.files = (h.launcher (s.launchOf problem report output) h₁.files).2
          ∧ ((h.launcher (s.launchOf problem report output) h₁.files).1 = .ok (.exited 0) ∧ result = .ok ⟨⟩
            ∨ (h.launcher (s.launchOf problem report output) h₁.files).1 ≠ .ok (.exited 0)
              ∧ ∃ e, result = .error e ∧ s.Blames e) := by
  rw [execute]
  rcases Host.makes_of_makeTemporary (s.name ++ "-") ".log" h with
    ⟨output, h₁, place, hmake, hmakes⟩ | ⟨fault, hfault, hmake⟩
  · rw [bind_apply_ok _ hmake]
    refine .inr ⟨output, h₁, place, ?_⟩
    rw [Host.discardAfter, ← hmakes.same.launcher, bind_apply]
    cases hrun : h₁.launcher (s.launchOf problem report output) h₁.files with
    | mk result files =>
        rw [launch_of_run commandLine hrun]
        cases result with
        | error fault =>
            exact ⟨_, _, hmakes, rfl, ⟨rfl, rfl⟩, rfl, .inr ⟨by simp, _, rfl, .inl ⟨_, _, rfl⟩⟩⟩
        | ok ending =>
            obtain ⟨result, h₂, hconclude, hsame, hfiles, hresult⟩ :=
              conclude_cases s ending output commandLine { h₁ with files }
            refine ⟨result, h₂, hmakes, ?_, ⟨hsame.launcher, hsame.tempDirectory⟩, hfiles, ?_⟩
            · simp only [Except.mapError, hconclude]
            · simpa using hresult
  · exact .inl ⟨fault, hfault, bind_apply_error _ hmake⟩

/-- Two temporary files have been made for a run of the program, which has ended and left files behind. -/
structure Runs (s : CommandSolver) (problem : String) (h : Host) (report : String) (ending : Except FileFault Ending)
    (files : Files) : Prop where
  started : ∃ output h₁ h₂ q r, h.Makes h₁ report q ∧ h₁.Makes h₂ output r
    ∧ h.launcher (s.launchOf problem report output) h₂.files = (ending, files)

/-- The part of solving that needs a report file. -/
def attempt (s : CommandSolver) (problem report : String) : HostM Solution := do
  let arguments := s.program.arguments problem report
  let commandLine := s.program.commandLine arguments
  Host.note [.info s!"{s.name}: running '{commandLine}'"]
  s.execute arguments commandLine
  s.readReport report

lemma attempt_cases (hrun : h.launcher.KeepsToItself h.IsTemporary) {report : String} {q : Place}
    (hreport : h.Makes h₁ report q) (s : CommandSolver) (problem : String) :
    (∃ fault h₂, fault ≠ .invalidData
        ∧ Host.discardOnError report (s.attempt problem report) h₁ = (.error (.file fault), h₂) ∧ h.Spares h₂)
      ∨ ∃ ending files, s.Runs problem h report ending files
        ∧ ((ending ≠ .ok (.exited 0) ∧ ∃ e h₂, s.Blames e
              ∧ Host.discardOnError report (s.attempt problem report) h₁ = (.error e, h₂) ∧ h.Spares h₂)
          ∨ ending = .ok (.exited 0) ∧ ∃ bytes, files.read report = .ok bytes
            ∧ ((∃ e h₂, (s.program.readReport bytes).value = .error e
                ∧ Host.discardOnError report (s.attempt problem report) h₁ = (.error e, h₂) ∧ h.Spares h₂)
              ∨ ∃ solution place h₂, (s.program.readReport bytes).value = .ok solution
                ∧ Host.discardOnError report (s.attempt problem report) h₁ = (.ok solution, h₂)
                ∧ h.Delivers h₂ report place bytes)) := by
  set commandLine := s.program.commandLine (s.program.arguments problem report)
  have hnote := Host.note_apply [.info s!"{s.name}: running '{commandLine}'"] h₁
  set h₁' : Host := { h₁ with journal := h₁.journal ++ [.info s!"{s.name}: running '{commandLine}'"] }
  have hreport' : h.Makes h₁' report q :=
    ⟨hreport.temporary, hreport.located, hreport.free, hreport.files, hreport.same.launcher, hreport.same.tempDirectory⟩
  rcases execute_cases s problem report commandLine h₁' with
    ⟨fault, hfault, hexecute⟩ | ⟨output, h₂, r, result, h₃, hmakes, hexecute, hsame, hfiles, hresult⟩
  · refine .inl ⟨fault, _, hfault, Host.discardOnError_of_error report ?_, hreport'.delivers.discard⟩
    rw [attempt, bind_apply_ok _ hnote, bind_apply_error _ hexecute]
  · rw [hreport'.same.launcher] at hfiles hresult
    obtain ⟨hspares, hdelivers⟩ := Host.spares_and_delivers hrun hreport' (l := s.launchOf problem report output) hmakes
      (s.program.arguments_getLast? problem report) hsame hfiles
    have hruns : s.Runs problem h report _ _ := ⟨output, h₁', h₂, q, r, hreport', hmakes, rfl⟩
    rcases hresult with ⟨hending, rfl⟩ | ⟨hending, e, rfl, hblames⟩
    · cases hread : (Host.discard output h₃).2.files.read report with
      | error fault =>
          refine .inl ⟨fault, _, ?_, Host.discardOnError_of_error report ?_, hspares⟩
          · rintro rfl
            exact Files.read_ne_invalidData hread
          · rw [attempt, bind_apply_ok _ hnote, bind_apply_ok _ hexecute, readReport_of_error hread]
            rfl
      | ok bytes =>
          obtain ⟨hleft, place, hdelivers⟩ := hdelivers bytes hread
          have hattempt : s.attempt problem report h₁ = _ :=
            (bind_apply_ok _ hnote).trans ((bind_apply_ok _ hexecute).trans (readReport_of_ok hread))
          have hjournal : h.Delivers { (Host.discard output h₃).2 with
              journal := (Host.discard output h₃).2.journal ++ (s.program.readReport bytes).entries } report place bytes :=
            hdelivers.of_files ⟨rfl, rfl⟩ rfl
          refine .inr ⟨_, _, hruns, .inr ⟨hending, bytes, hleft, ?_⟩⟩
          cases hvalue : (s.program.readReport bytes).value with
          | error e =>
              rw [hvalue] at hattempt
              exact .inl ⟨e, _, rfl, Host.discardOnError_of_error report hattempt, hjournal.discard⟩
          | ok solution =>
              rw [hvalue] at hattempt
              exact .inr ⟨solution, place, _, rfl, Host.discardOnError_of_ok report hattempt, hjournal⟩
    · refine .inr ⟨_, _, hruns, .inl ⟨hending, e, _, hblames, Host.discardOnError_of_error report ?_, hspares⟩⟩
      rw [attempt, bind_apply_ok _ hnote, bind_apply_error _ hexecute]
      rfl

/-- What the journal says about a solution that has been found. -/
def outcome (s : CommandSolver) (solution : Solution) : Entry :=
  .info s!"{s.name}: status {solution.status.name}, objective {solution.objective.text}"

lemma solve_of_no_problem (hproblem : s.problemFile = none) (h : Host) :
    solve (s, h) = (.error (.noProblemLoaded s.name), (s, h)) := by
  rw [solve, bind_apply_ok _ (current_apply s h), hproblem]
  rfl

lemma solve_apply (hproblem : s.problemFile = some problem) (h : Host) :
    solve (s, h) = (do
      let report ← BackendM.onHost s.makeSolutionFile
      let solution ← BackendM.onHost (Host.discardOnError report (s.attempt problem report))
      adopt report solution
      BackendM.onHost (Host.note [s.outcome solution])
      pure solution.status : BackendM CommandSolver Status) (s, h) := by
  rw [solve, bind_apply_ok _ (current_apply s h), hproblem]
  rfl

/-- **A problem is solved, or nothing has changed.** There may be no temporary files for a run, or no report after it;
the run may fail; the report may be refused; and otherwise the report is adopted. -/
lemma solve_cases (hrun : h.launcher.KeepsToItself h.IsTemporary) (hproblem : s.problemFile = some problem) :
    (∃ fault h₁, fault ≠ .invalidData ∧ solve (s, h) = (.error (.file fault), (s, h₁)) ∧ h.Spares h₁)
      ∨ ∃ report ending files, s.Runs problem h report ending files
        ∧ ((ending ≠ .ok (.exited 0) ∧ ∃ e h₁, s.Blames e ∧ solve (s, h) = (.error e, (s, h₁)) ∧ h.Spares h₁)
          ∨ ending = .ok (.exited 0) ∧ ∃ bytes, files.read report = .ok bytes
            ∧ ((∃ e h₁, (s.program.readReport bytes).value = .error e ∧ solve (s, h) = (.error e, (s, h₁)) ∧ h.Spares h₁)
              ∨ ∃ s' h₁, solve (s, h) = (.ok s'.solution.status, (s', h₁)) ∧ s.Adopts h bytes s' h₁)) := by
  rw [solve_apply hproblem]
  rcases makeSolutionFile_cases s h with ⟨report, h₁, q, hmake, hreport⟩ | ⟨fault, hfault, hmake⟩
  · rw [bind_apply_ok _ (Backend.onHost_apply hmake)]
    rcases attempt_cases hrun hreport s problem with ⟨fault, h₂, hfault, hattempt, hspares⟩ | ⟨ending, files, hruns, hcases⟩
    · exact .inl ⟨fault, h₂, hfault, bind_apply_error _ (Backend.onHost_apply hattempt), hspares⟩
    · refine .inr ⟨report, ending, files, hruns, ?_⟩
      rcases hcases with ⟨hending, e, h₂, hblames, hattempt, hspares⟩ | ⟨hending, bytes, hread, hvalue⟩
      · exact .inl ⟨hending, e, h₂, hblames, bind_apply_error _ (Backend.onHost_apply hattempt), hspares⟩
      · refine .inr ⟨hending, bytes, hread, ?_⟩
        rcases hvalue with ⟨e, h₂, hvalue, hattempt, hspares⟩ | ⟨solution, place, h₂, hvalue, hattempt, hdelivers⟩
        · exact .inl ⟨e, h₂, hvalue, bind_apply_error _ (Backend.onHost_apply hattempt), hspares⟩
        · have hsame := discardAny_same s.solutionFile h₂
          refine .inr ⟨{ s with solutionFile := some report, solution },
            (Host.note [s.outcome solution] (Host.discardAny s.solutionFile h₂).2).2, ?_, hvalue, report, place, h₂,
            hdelivers, rfl, ⟨hsame.launcher, hsame.tempDirectory⟩, rfl⟩
          rw [bind_apply_ok _ (Backend.onHost_apply hattempt), bind_apply_ok _ (adopt_apply report solution s h₂),
            bind_apply_ok _ (Backend.onHost_apply (Host.note_apply _ _))]
          rfl
  · exact .inl ⟨fault, h, hfault, bind_apply_error _ (Backend.onHost_apply hmake), .refl h⟩

end CommandSolver

end LinearProgram
