import LinearProgram.Proofs.Solver.SolutionFile

/-!
The solution files of caches.

A cache keeps its solutions in files of its own. Whoever gives it one gives it a file that nobody else has, and a
backend gives it a copy of its report. So it does not matter to an entry what becomes of the backend that has made it:
solutions may be saved over solution files, and backends and caches may make way for others. The file of an entry is
left alone as long as the entry stays and is gone once it does not, and a file that is not taken is gone at once.

* `Fleet.Event`, `Fleet.happen`, `Fleet.afterAll`: what happens to backends and caches that share a host.
* `Fleet.Event.Proper`, `Fleet.Orderly`: events that keep away from the files of caches.
* `Fleet.Kept.alters_happen`: whatever happens, every owner still has its files.
* `Fleet.Lasts`: an entry stays through some events; `Fleet.Kept.untouched_of_lasts`: **its file is left alone.**
* `Fleet.Brings`, `Fleet.Hands`: where a new entry has its content from, and the file that a registration is given.
* `Fleet.files_of_entries`: **the files of caches, through all events.**
-/

namespace LinearProgram

namespace Backend

/-- A run with a cache finds no answer in the cache, and comes to solving the problem. -/
def Unanswered {β : Type} [Backend β] (path : String) (format : ProblemFormat) (s t : Bench β) : Prop :=
  (BenchM.onBackend (loadProblem path format s.cache) >>= answer path) s = (.ok .unknown, t)

end Backend

namespace Bench

open Backend (Unanswered solved saved)
open CommandSolver (keepsToItself_of_same)

variable {t u v w r : Bench CommandSolver} {path file : String} {format : ProblemFormat} {status : Status} {e : Error}

/-- **A report that a run has saved for the cache and that is not registered is gone.** -/
lemma not_holds_of_runCached_error (hrun : t.host.launcher.KeepsToItself t.host.IsTemporary) (ht : t.HasFiles)
    (hunanswered : Unanswered path format t v) (hsolved : solved v = (.ok status, u)) (hsaved : saved u = (.ok file, w))
    (herror : Backend.runCached path format t = (.error e, r)) :
    r.cache = t.cache ∧ r.host.files.holds file = false := by
  have hbefore : Keeps (BenchM.onBackend (Backend.loadProblem path format t.cache) >>= Backend.answer path) :=
    (keeps_onBackend (CommandSolver.confines_loadProblem path format t.cache)).bind (keeps_answer path)
  have hconfined := hbefore.1 t hrun ht
  have hcache := hbefore.2 t
  rw [hunanswered] at hconfined hcache
  have hsolving := (keeps_onBackend CommandSolver.confines_solve).1 v (keepsToItself_of_same hconfined.same hrun)
    hconfined.files
  change v.Confined (solved v).2 at hsolving
  rw [hsolved] at hsolving
  have hcourse : Backend.runCached path format t = Backend.solveAndRegister path v := by
    rw [Backend.runCached_apply, ← bind_assoc, bind_apply_ok _ hunanswered, Backend.concluded, if_neg (by simp)]
  rw [hcourse, Backend.solveAndRegister_of_solved hsolved] at herror
  obtain ⟨hsave, -⟩ := Backend.cacheOnHost_eq_iff.mp (Backend.onCache_eq_iff.mp hsaved).1
  rcases bind_eq_error_iff.mp (Backend.onCache_eq_iff.mp herror).1 with hregister | ⟨_, _, -, hlast⟩
  · obtain ⟨hsame, hgone⟩ := CommandSolver.not_holds_of_registerSolution_error hsolving.files.backend hsave hregister
    exact ⟨hsame.trans ((Backend.onBackend_eq_iff.mp hsolved).2.trans hcache), hgone⟩
  · cases hlast

end Bench

namespace Fleet

open CommandSolver (keepsToItself_of_same)

/-! ### Events -/

/-- What can happen to backends and caches that share a host. -/
inductive Event (ι κ : Type) where
  /-- Somebody asks for something. -/
  | request (r : Request ι κ)
  /-- A cache is given a temporary file with a solution of a problem file. -/
  | register (cache : κ) (problem : String) (known : KnownSolution)
  /-- A backend makes way for another one. -/
  | putSolver (solver : ι) (s : CommandSolver)
  /-- A cache makes way for an empty one. -/
  | putCache (cache : κ) (capacity : ℕ)

section Definitions

variable {ι κ : Type} [DecidableEq ι] [DecidableEq κ]

/-- The fleet once a backend has made way for another one. -/
def withSolver (x : Fleet ι κ) (i : ι) (s : CommandSolver) (h : Host) : Fleet ι κ :=
  { x with solvers := Function.update x.solvers i s, host := h }

/-- What becomes of a fleet, and the reply. What makes way is given up with its files. -/
def happen (x : Fleet ι κ) : Event ι κ → Except Error (Option Status) × Fleet ι κ
  | .request r => x.step r
  | .register k problem known =>
    let (result, (c, h)) := Cache.register problem known (x.caches k, x.host)
    (result.map fun _ => none, x.withCache k c h)
  | .putSolver i s => (.ok none, x.withSolver i s (Backend.dispose (x.solvers i) x.host).2)
  | .putCache k capacity => (.ok none, x.withCache k (.new capacity) ((x.caches k).dispose x.host).2)

/-- The fleet after some events. -/
def afterAll (x : Fleet ι κ) (events : List (Event ι κ)) : Fleet ι κ := events.foldl (fun x ev => (x.happen ev).2) x

/-- An event that keeps away from the files of caches. A file that is given to a cache is a temporary file that nobody
has, and a backend that is new has no solution. -/
def Event.Proper (x : Fleet ι κ) : Event ι κ → Prop
  | .request r => r.Careful x
  | .register _ _ known => x.host.IsTemporary known.file ∧ x.host.files.IsFile known.file
      ∧ ∀ o p, x.Holds p o → x.host.files.placeOf p ≠ x.host.files.placeOf known.file
  | .putSolver _ s => s.solutionFile = none
  | .putCache .. => True

/-- Every event keeps away from the files of caches when it comes. -/
def Orderly (x : Fleet ι κ) : List (Event ι κ) → Prop
  | [] => True
  | ev :: later => ev.Proper x ∧ (x.happen ev).2.Orderly later

/-- An entry is in a cache, and stays there through some events. -/
def Lasts (x : Fleet ι κ) (k : κ) (e : Digest × KnownSolution) : List (Event ι κ) → Prop
  | [] => e ∈ (x.caches k).entries
  | ev :: later => e ∈ (x.caches k).entries ∧ (x.happen ev).2.Lasts k e later

/-- An event that is the business of a cache: something is registered there, or the cache is cleared or makes way. -/
def Event.OnCache : Event ι κ → Prop
  | .request (.ask _ _ (.registerSolution ..)) => True
  | .request (.clear _) => True
  | .register .. => True
  | .putCache .. => True
  | _ => False

/-- An event gives a cache an entry with a content: that of the file which the cache is given, or that of the report
which the backend keeps at another place. -/
def Brings (x : Fleet ι κ) (k : κ) (e : Digest × KnownSolution) (bytes : List UInt8) : Event ι κ → Prop
  | .request (.ask i l op) => l = k ∧ op.Registers
      ∧ let y := (x.happen (.request (.ask i l op))).2
        ∃ own ∈ (y.solvers i).solutionFile, y.host.files.read own = .ok bytes
          ∧ y.host.files.placeOf own ≠ y.host.files.placeOf e.2.file
  | .register l _ known => l = k ∧ e.2 = known ∧ x.host.files.read known.file = .ok bytes
  | _ => False

/-- A temporary file that is given to a cache in the course of an event: by the user, or by a backend that has saved its
solution there. -/
def Hands (x : Fleet ι κ) (file : String) : Event ι κ → Prop
  | .register _ _ known => known.file = file
  | .request (.ask i _ (.registerSolution ..)) =>
    ∃ h, Backend.saveSolutionToTemporary (x.solvers i) .basic x.host = (.ok file, h)
  | .request (.ask i k (.runCached path format)) =>
    ∃ t status u v, Backend.Unanswered path format (x.bench i k) t ∧ Backend.solved t = (.ok status, u)
      ∧ Backend.saved u = (.ok file, v)
  | _ => False

end Definitions

section Events

variable {ι κ : Type} [DecidableEq ι] [DecidableEq κ] {x : Fleet ι κ} {i : ι} {k : κ} {e : Digest × KnownSolution}
  {ev : Event ι κ} {events : List (Event ι κ)}

/-! ### What an event does -/

/-- **A cache takes over the file that it is given, or the file is gone.** -/
lemma Kept.happen_register (hx : x.Kept) (problem : String) {known : KnownSolution}
    (hproper : (Event.register k problem known).Proper x) :
    (∃ fault h, x.happen (.register k problem known) = (.error (.file fault), x.withCache k (x.caches k) h)
        ∧ h = (Host.discard known.file x.host).2 ∧ h.files.holds known.file = false)
      ∨ ∃ d h, x.happen (.register k problem known) = (.ok none, x.withCache k ((x.caches k).insert d known) h)
        ∧ (x.caches k).Takes x.host d known h := by
  obtain ⟨htemporary, hfile, hnew⟩ := hproper
  cases hread : x.host.files.read problem with
  | error fault =>
      refine .inl ⟨fault, _, ?_, rfl, Host.not_holds_discard hfile⟩
      rw [happen, Cache.register_of_error hread]
      rfl
  | ok content =>
      obtain ⟨h, hregister, htakes⟩ := (hx.caches k).registerAs (.ofBytes content) problem known htemporary hfile
        fun e he => hnew (.inr k) _ ⟨e, he, rfl⟩
      refine .inr ⟨_, h, ?_, htakes⟩
      rw [happen, Cache.register_of_ok hread, hregister]
      rfl

lemma Kept.alters_register (hx : x.Kept) (problem : String) {known : KnownSolution}
    (hproper : (Event.register k problem known).Proper x) :
    x.Alters (x.happen (.register k problem known)).2 fun o => o = .inr k := by
  have hfile := hproper.2.1
  have hnew := hproper.2.2
  rcases hx.happen_register problem hproper with ⟨fault, h, hfailed, rfl, -⟩ | ⟨d, h, htaken, htakes⟩
  · have huntouched : ∀ {o p}, x.Holds p o → x.host.files.Untouched (Host.discard known.file x.host).2.files p :=
      fun hp => Host.discard_untouched (hfile.clear (hnew _ _ hp).symm)
    have hentries : ∀ e ∈ (x.caches k).entries,
        x.host.files.Untouched (Host.discard known.file x.host).2.files e.2.file :=
      fun e he => huntouched (o := .inr k) ⟨e, he, rfl⟩
    have hsame := Host.discard_same known.file x.host
    rw [hfailed]
    refine alters_withCache hsame ((hx.caches k).of_untouched hsame hentries) (fun o p ho hp => ⟨huntouched hp, ?_⟩)
      (fun e he _ => hentries e he) fun e he hleft => absurd he hleft
    intro e he
    rw [(hentries e he).placeOf ((hx.caches k).file e he).2, (huntouched hp).placeOf (hx.file hp).2]
    exact hx.apart (o := .inr k) ho.symm ⟨e, he, rfl⟩ hp
  · rw [htaken]
    refine alters_withCache htakes.same htakes.owns (fun o p ho hp => ?_) (fun e _ he' => htakes.entries e he') htakes.gone
    have hapart : ∀ e ∈ (x.caches k).entries, x.host.files.placeOf e.2.file ≠ x.host.files.placeOf p := fun e he =>
      hx.apart (o := .inr k) ho.symm ⟨e, he, rfl⟩ hp
    have hp' := htakes.others p (hx.file hp).2 hapart
    refine ⟨hp', fun e he => ?_⟩
    rw [hp'.placeOf (hx.file hp).2]
    rcases Cache.mem_entries_insert he with rfl | ⟨hold, -, -⟩
    · rw [(htakes.entries _ he).placeOf hfile]
      exact (hnew o p hp).symm
    · rw [(htakes.entries e he).placeOf ((hx.caches k).file e hold).2]
      exact hapart e hold

/-- **A backend that makes way takes its file with it**, and all others keep theirs. -/
lemma Kept.alters_putSolver (hx : x.Kept) {s : CommandSolver} (hs : s.solutionFile = none) :
    x.Alters (x.happen (.putSolver i s)).2 fun o => o = .inl i := by
  have hself : (x.happen (.putSolver i s)).2.solvers i = s := Function.update_self ..
  constructor
  case same => exact CommandSolver.discardAny_same _ _
  case solvers => exact fun j hj => Function.update_of_ne (fun heq => hj (congrArg Sum.inl heq)) ..
  case caches => exact fun l hl => rfl
  case others =>
    intro o p ho hp
    refine Host.discardAny_untouched fun own hown => ?_
    exact ((hx.solvers i) own hown).2.clear (hx.apart (o := .inl i) (fun heq => ho heq.symm) hown hp)
  case file =>
    intro j hj file hfile
    obtain rfl := Sum.inl.inj hj
    rw [hself, hs] at hfile
    cases hfile
  case owns => exact fun l hl => absurd hl (by simp)
  case aside =>
    rintro o o' p p' rfl ho' hp
    rw [Holds, hself, hs] at hp
    cases hp
  case apart => exact fun ho ho' hne => absurd (ho.trans ho'.symm) hne
  case entries => exact fun hl => absurd hl (by simp)
  case gone => exact fun hl => absurd hl (by simp)

lemma Kept.alters_putCache (hx : x.Kept) (k : κ) (capacity : ℕ) :
    x.Alters (x.happen (.putCache k capacity)).2 fun o => o = .inr k := by
  rw [happen]
  exact hx.alters_dispose k rfl

/-- **Whatever happens, every owner still has its files.** -/
lemma Kept.alters_happen (hx : x.Kept) (hrun : x.KeepsToItself) (hproper : ev.Proper x) :
    ∃ acting, x.Alters (x.happen ev).2 acting := by
  cases ev with
  | request r => exact hx.alters_step hrun hproper
  | register k problem known => exact ⟨_, hx.alters_register problem hproper⟩
  | putSolver i s => exact ⟨_, hx.alters_putSolver hproper⟩
  | putCache k capacity => exact ⟨_, hx.alters_putCache k capacity⟩

/-- What is the business of a cache leaves the backends as they are, and their files alone. -/
lemma Kept.spares_solvers (hx : x.Kept) (hproper : ev.Proper x) (hcache : ev.OnCache) (j : ι) :
    (x.happen ev).2.solvers j = x.solvers j
      ∧ ∀ file ∈ (x.solvers j).solutionFile, x.host.files.Untouched (x.happen ev).2.host.files file := by
  have hspares : ∀ {k : κ}, x.Alters (x.happen ev).2 (fun o => o = .inr k) →
      (x.happen ev).2.solvers j = x.solvers j
        ∧ ∀ file ∈ (x.solvers j).solutionFile, x.host.files.Untouched (x.happen ev).2.host.files file := fun ha =>
    ⟨ha.solvers j (by simp), fun file hfile => ha.others (o := .inl j) (by simp) hfile⟩
  cases ev with
  | register k problem known => exact hspares (hx.alters_register problem hproper)
  | putSolver i s => exact absurd hcache id
  | putCache k capacity => exact hspares (hx.alters_putCache k capacity)
  | request r =>
      cases r with
      | outside change => exact absurd hcache id
      | clear k => exact hspares (hx.alters_clear k)
      | ask i k op =>
          cases op with
          | registerSolution path status =>
              obtain ⟨hconfined, hbackend, huntouched⟩ := Bench.register_cases (hx.bench i k) path status
              rw [happen, step_registerSolution]
              generalize Bench.register path status (x.bench i k) = outcome at hconfined hbackend huntouched ⊢
              by_cases hj : j = i
              · subst hj
                rw [seat_solvers_self]
                exact ⟨hbackend, huntouched⟩
              · have ha := hx.alters_seat hconfined
                have hidle : ¬((.inl j : ι ⊕ κ) = .inl i ∨ (.inl j : ι ⊕ κ) = .inr k) := by simp [hj]
                exact ⟨ha.solvers j hidle, fun file hfile => ha.others (o := .inl j) hidle hfile⟩
          | _ => exact absurd hcache id

/-- A new entry after a registration is the one that the cache has been given. -/
lemma Kept.new_entry_of_register (hx : x.Kept) {l : κ} {problem : String} {known : KnownSolution}
    (hproper : (Event.register l problem known).Proper x)
    (he : e ∈ ((x.happen (.register l problem known)).2.caches k).entries) (hnew : e ∉ (x.caches k).entries) :
    l = k ∧ e.2 = known
      ∧ x.host.files.Untouched (x.happen (.register l problem known)).2.host.files known.file := by
  rcases hx.happen_register problem hproper with ⟨fault, h, hfailed, -⟩ | ⟨d, h, htaken, htakes⟩
  · rw [hfailed] at he
    rcases mem_withCache he with hold | ⟨rfl, hold⟩
    · exact absurd hold hnew
    · exact absurd hold hnew
  · rw [htaken] at he ⊢
    rcases mem_withCache he with hold | ⟨rfl, hinserted⟩
    · exact absurd hold hnew
    · rcases Cache.mem_entries_insert hinserted with rfl | ⟨hold, -, -⟩
      · exact ⟨rfl, rfl, htakes.entries _ hinserted⟩
      · exact absurd hold hnew

/-- A new entry after a request has the content of the report that the backend keeps at another place. -/
lemma Kept.new_entry_of_ask (hx : x.Kept) (hrun : x.KeepsToItself) {op : Operation} (hop : op.Registers)
    (he : e ∈ ((x.happen (.request (.ask i k op))).2.caches k).entries) (hnew : e ∉ (x.caches k).entries) :
    ∃ own, (x.happen (.request (.ask i k op))).2.Holds own (.inl i)
      ∧ (x.happen (.request (.ask i k op))).2.host.files.read e.2.file
        = (x.happen (.request (.ask i k op))).2.host.files.read own := by
  have hsaves : ¬op.Saves := by
    cases op with
    | saveProblem path format => exact absurd hop id
    | saveSolution path kind => exact absurd hop id
    | _ => exact id
  have hconfined := Bench.confines_perform hsaves (x.bench i k) hrun (hx.bench i k)
  rw [happen, step_ask, seat_caches_self] at he
  obtain ⟨own, hown, hread⟩ := hconfined.new e he hnew
  refine ⟨own, ?_, hread⟩
  rw [happen, step_ask, holds_seat_backend]
  exact hown

/-- **A new entry is brought by an event, with its content.** -/
lemma Kept.brings_of_new_entry (hx : x.Kept) (hrun : x.KeepsToItself) (hproper : ev.Proper x)
    (he : e ∈ ((x.happen ev).2.caches k).entries) (hnew : e ∉ (x.caches k).entries) :
    ∃ bytes, (x.happen ev).2.host.files.read e.2.file = .ok bytes ∧ x.Brings k e bytes ev := by
  obtain ⟨acting, halters⟩ := hx.alters_happen hrun hproper
  have hkept := halters.kept hx
  have hholds : (x.happen ev).2.Holds e.2.file (.inr k) := ⟨e, he, rfl⟩
  obtain ⟨place, number, hstands⟩ := (hkept.file hholds).2
  refine ⟨_, hstands.read, ?_⟩
  cases ev with
  | putSolver i s => exact absurd he hnew
  | putCache l capacity =>
      rcases mem_withCache he with hold | ⟨-, hnone⟩
      · exact absurd hold hnew
      · cases hnone
  | register l problem known =>
      obtain ⟨rfl, rfl, huntouched⟩ := hx.new_entry_of_register hproper he hnew
      exact ⟨rfl, rfl, (huntouched.read hproper.2.1).symm.trans hstands.read⟩
  | request r =>
      obtain ⟨i, op, hop, rfl⟩ := exists_of_new_entry hnew he
      obtain ⟨own, hown, hread⟩ := hx.new_entry_of_ask hrun hop he hnew
      exact ⟨rfl, hop, own, hown, hread.symm.trans hstands.read, hkept.apart (by simp) hown hholds⟩

lemma seat_caches_eq {t : Bench CommandSolver} (hcache : t.cache = x.caches k) : (x.seat i k t).caches = x.caches := by
  change Function.update x.caches k t.cache = x.caches
  rw [hcache, Function.update_eq_self]

/-- A solution that a backend has saved for a cache in vain is gone. -/
lemma Kept.not_holds_of_registerSolution_error (hx : x.Kept) {file problem : String} {status : Status} {error : Error}
    {h : Host} (hsave : Backend.saveSolutionToTemporary (x.solvers i) .basic x.host = (.ok file, h))
    (herror : (x.step (.ask i k (.registerSolution problem status))).1 = .error error) :
    (x.step (.ask i k (.registerSolution problem status))).2.caches = x.caches
      ∧ (x.step (.ask i k (.registerSolution problem status))).2.host.files.holds file = false := by
  rw [step_registerSolution] at herror ⊢
  cases hregister : Bench.register problem status (x.bench i k) with
  | mk result t =>
      rw [hregister] at herror
      rw [Bench.register, bind_apply_ok _ (get_apply _)] at hregister
      cases result with
      | ok => cases herror
      | error error' =>
          obtain ⟨hcache, hgone⟩ := CommandSolver.not_holds_of_registerSolution_error (hx.solvers i) hsave
            (Backend.onCache_eq_iff.mp hregister).1
          exact ⟨seat_caches_eq hcache, hgone⟩

/-- A report that a run has saved for a cache in vain is gone. -/
lemma Kept.not_holds_of_runCached_error (hx : x.Kept) (hrun : x.KeepsToItself) {file path : String}
    {format : ProblemFormat} {status : Status} {error : Error} {t u v : Bench CommandSolver}
    (hunanswered : Backend.Unanswered path format (x.bench i k) t) (hsolved : Backend.solved t = (.ok status, u))
    (hsaved : Backend.saved u = (.ok file, v)) (herror : (x.step (.ask i k (.runCached path format))).1 = .error error) :
    (x.step (.ask i k (.runCached path format))).2.caches = x.caches
      ∧ (x.step (.ask i k (.runCached path format))).2.host.files.holds file = false := by
  rw [step_runCached] at herror ⊢
  cases hresult : Backend.runCached path format (x.bench i k) with
  | mk result r =>
      rw [hresult] at herror
      cases result with
      | ok status => cases herror
      | error error' =>
          obtain ⟨hcache, hgone⟩ :=
            Bench.not_holds_of_runCached_error (t := x.bench i k) hrun (hx.bench i k) hunanswered hsolved hsaved hresult
          exact ⟨seat_caches_eq hcache, hgone⟩

/-- **A file that is given to a cache in vain is gone**, and the caches are as before. -/
lemma Kept.not_holds_of_error (hx : x.Kept) (hrun : x.KeepsToItself) (hproper : ev.Proper x) {file : String}
    {error : Error} (hhands : x.Hands file ev) (herror : (x.happen ev).1 = .error error) :
    (x.happen ev).2.caches = x.caches ∧ (x.happen ev).2.host.files.holds file = false := by
  cases ev with
  | putSolver i s => exact absurd hhands id
  | putCache k capacity => exact absurd hhands id
  | register k problem known =>
      obtain rfl : known.file = file := hhands
      rcases hx.happen_register problem hproper with ⟨fault, h, hfailed, -, hgone⟩ | ⟨d, h, htaken, -⟩
      · rw [hfailed]
        exact ⟨Function.update_eq_self .., hgone⟩
      · rw [htaken] at herror
        cases herror
  | request r =>
      cases r with
      | clear k => exact absurd hhands id
      | outside change => exact absurd hhands id
      | ask i k op =>
          rw [happen] at herror ⊢
          cases op with
          | registerSolution path status =>
              obtain ⟨h, hsave⟩ := hhands
              exact hx.not_holds_of_registerSolution_error hsave herror
          | runCached path format =>
              obtain ⟨t, status, u, v, hunanswered, hsolved, hsaved⟩ := hhands
              exact hx.not_holds_of_runCached_error hrun hunanswered hsolved hsaved herror
          | _ => exact absurd hhands id

/-! ### What some events do -/

/-- **Every owner still has its files after some events.** -/
lemma Kept.afterAll (hx : x.Kept) (hrun : x.KeepsToItself) (horderly : x.Orderly events) :
    (x.afterAll events).Kept ∧ (x.afterAll events).KeepsToItself := by
  induction events generalizing x with
  | nil => exact ⟨hx, hrun⟩
  | cons ev later ih =>
      obtain ⟨acting, halters⟩ := hx.alters_happen hrun horderly.1
      exact ih (halters.kept hx) (keepsToItself_of_same halters.same hrun) horderly.2

lemma Lasts.mem (h : x.Lasts k e events) : e ∈ (x.caches k).entries := by
  cases events with
  | nil => exact h
  | cons ev later => exact h.1

/-- **The file of an entry is left alone as long as the entry stays.** -/
lemma Kept.untouched_of_lasts (hx : x.Kept) (hrun : x.KeepsToItself) (horderly : x.Orderly events)
    (hlasts : x.Lasts k e events) : x.host.files.Untouched (x.afterAll events).host.files e.2.file := by
  induction events generalizing x with
  | nil => exact .refl _ _
  | cons ev later ih =>
      obtain ⟨acting, halters⟩ := hx.alters_happen hrun horderly.1
      have hnow := halters.untouched_entry hlasts.1 hlasts.2.mem
      exact hnow.trans (ih (halters.kept hx) (keepsToItself_of_same halters.same hrun) horderly.2 hlasts.2)

/-- **The files of caches.** Backends and caches start out empty and share a host, and events keep away from the files
of caches, but not from those of backends. Then the file of every entry can be read, and as long as the entry stays it
can still be read with the same content, whatever happens. The content of a new entry is that of the file which the
cache has been given, or of the report which the backend has at another place. The file of an entry that leaves its
cache, for whatever reason, is gone, and so is a file that has been given to a cache in vain. What is the business of
caches leaves all backends as they are, and their files with what is in them. -/
theorem files_of_entries (x : Fleet ι κ) (events : List (Event ι κ)) (hfresh : x.Fresh) (hrun : x.KeepsToItself)
    (horderly : x.Orderly events) :
    let y := x.afterAll events
    (∀ k, ∀ e ∈ (y.caches k).entries, ∃ bytes, y.host.files.read e.2.file = .ok bytes
        ∧ ∀ later, y.Orderly later → y.Lasts k e later →
            (y.afterAll later).host.files.IsFile e.2.file ∧ (y.afterAll later).host.files.read e.2.file = .ok bytes)
      ∧ ∀ ev, ev.Proper y →
          let z := (y.happen ev).2
          (∀ k, ∀ e ∈ (z.caches k).entries, e ∉ (y.caches k).entries →
              ∃ bytes, z.host.files.read e.2.file = .ok bytes ∧ y.Brings k e bytes ev)
            ∧ (∀ k, ∀ e ∈ (y.caches k).entries, e ∉ (z.caches k).entries → z.host.files.holds e.2.file = false)
            ∧ (∀ file error, y.Hands file ev → (y.happen ev).1 = .error error →
                z.caches = y.caches ∧ z.host.files.holds file = false)
            ∧ (ev.OnCache → ∀ i, z.solvers i = y.solvers i ∧ ∀ file ∈ (y.solvers i).solutionFile,
                z.host.files.IsFile file ∧ z.host.files.read file = y.host.files.read file) := by
  intro y
  obtain ⟨hy, hrun'⟩ := hfresh.sound.kept.afterAll hrun horderly
  refine ⟨fun k e he => ?_, fun ev hproper => ⟨fun k e he hnew => hy.brings_of_new_entry hrun' hproper he hnew,
    fun k e he hleft => ?_, fun file error hhands herror => hy.not_holds_of_error hrun' hproper hhands herror,
    fun hcache i => ?_⟩⟩
  · obtain ⟨place, number, hstands⟩ := ((hy.caches k).file e he).2
    refine ⟨_, hstands.read, fun later horderly' hlasts => ?_⟩
    have huntouched := hy.untouched_of_lasts hrun' horderly' hlasts
    exact ⟨huntouched.isFile hstands.isFile, (huntouched.read hstands.isFile).trans hstands.read⟩
  · obtain ⟨acting, halters⟩ := hy.alters_happen hrun' hproper
    exact halters.not_holds_entry he hleft
  · obtain ⟨hsame, huntouched⟩ := hy.spares_solvers hproper hcache i
    refine ⟨hsame, fun file hfile => ?_⟩
    have hstands := (hy.solvers i file hfile).2
    exact ⟨(huntouched file hfile).isFile hstands, (huntouched file hfile).read hstands⟩

end Events

/-- The pair once one backend has run with the cache. -/
def ranPair : Fleet Bool Unit := pair.afterAll [.request (.ask false () (.runCached "/p.lp" .cplex))]

/-- The entry outlives the backend that has made it, and goes with its file when the cache is cleared. -/
theorem files_of_entries_ranPair :
    ∃ e ∈ (ranPair.caches ()).entries,
      (ranPair.happen (.putSolver false (.new (.clp "clp")))).2.host.files.read e.2.file = ranPair.host.files.read e.2.file
        ∧ (ranPair.happen (.request (.clear ()))).2.host.files.holds e.2.file = false := by
  have horderly : pair.Orderly [.request (.ask false () (.runCached "/p.lp" .cplex))] := ⟨trivial, trivial⟩
  obtain ⟨hentries, hevent⟩ :=
    files_of_entries pair _ (fresh_duo _ _) (Launcher.keepsToItself_reporting _ _) horderly
  rw [← ranPair] at hentries hevent
  have hsome : (ranPair.caches ()).entries ≠ [] := by decide +kernel
  -- stated for every fleet, so that the pair is not run
  have hlasts : ∀ (x : Fleet Bool Unit) e, e ∈ (x.caches ()).entries →
      x.Orderly [.putSolver false (.new (.clp "clp"))] ∧ x.Lasts () e [.putSolver false (.new (.clp "clp"))] :=
    fun x e he => ⟨⟨rfl, trivial⟩, he, he⟩
  have hcleared : ∀ (x : Fleet Bool Unit) e, e ∉ ((x.happen (.request (.clear ()))).2.caches ()).entries := by
    intro x e
    rw [happen, step_clear, withCache_caches_self]
    exact List.not_mem_nil
  obtain ⟨e, he⟩ := List.exists_mem_of_ne_nil _ hsome
  refine ⟨e, he, ?_, ?_⟩
  · obtain ⟨bytes, hread, hlater⟩ := hentries () e he
    obtain ⟨hlater', hlast⟩ := hlasts ranPair e he
    obtain ⟨-, hread'⟩ := hlater _ hlater' hlast
    exact hread'.trans hread.symm
  · obtain ⟨-, hgone, -⟩ := hevent (.request (.clear ())) trivial
    exact hgone () e he (hcleared ranPair e)

end Fleet

end LinearProgram
