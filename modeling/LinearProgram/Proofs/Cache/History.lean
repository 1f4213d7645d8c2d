import LinearProgram.Cache.Register
import LinearProgram.Proofs.Host.Computation

/-!
A cache by its history.

What has been registered is forgotten all at once: when the cache is cleared, and just before a new problem is
registered for which there is no place left. So a cache is known from what has been registered since then.

* `Cache.Request`, `Cache.afterAll`: what is asked of a cache, in any order, while the host changes as it likes.
* `Cache.recent`: the registrations since everything was forgotten last, and `Cache.registered`, all of them.
* `Cache.run_cases`: what a request does to a cache.
* `Cache.Recalls`: a cache that holds the latest of some registrations for each problem, and nothing else.
* `Cache.Recalls.step`: **every request keeps a cache in step with its history**, and `Cache.size_le_step` its size
  within bounds.
* `Cache.Counts.afterAll`: registrations of different problems fill a cache again and again.
* `Cache.holds_recent`: a new cache and its history, in closed form.
-/

namespace LinearProgram

namespace Cache

/-! ### Entries -/

section Entries

variable {c : Cache} {d e : Digest} {known : KnownSolution}

lemma overflows_iff : c.overflows d = true ↔ c.get? d = none ∧ c.capacity ≤ c.size := by
  rw [overflows, contains, Bool.and_eq_true, decide_eq_true_iff, Bool.not_eq_true', Option.isSome_eq_false_iff,
    Option.isNone_iff_eq_none]

lemma get?_insert_self : (c.insert d known).get? d = some known := by
  rw [insert, get?, List.lookup_cons_self]

lemma get?_insert_of_ne (hne : e ≠ d) :
    (c.insert d known).get? e = if c.overflows d then none else c.get? e := by
  have hkey : (e == d) = false := by simpa using hne
  rw [insert, get?, List.lookup_cons, hkey]
  split_ifs with hfull
  · rfl
  · exact lookup_filter_ne hne c.entries

/-- A problem is not looked up exactly if it is not among the keys of a table. -/
lemma lookup_eq_none_iff_not_mem {es : List (Digest × KnownSolution)} :
    es.lookup d = none ↔ d ∉ es.map Prod.fst := by
  rw [List.lookup_eq_none_iff, List.mem_map]
  constructor
  · rintro h ⟨e, he, rfl⟩
    simpa using h e he
  · intro h e he
    have hne : d ≠ e.1 := fun heq => h ⟨e, he, heq.symm⟩
    simpa using hne

/-- The problems of a cache. -/
def problems (c : Cache) : List Digest := c.entries.map Prod.fst

lemma get?_eq_none_iff : c.get? d = none ↔ d ∉ c.problems := lookup_eq_none_iff_not_mem

lemma problems_insert :
    (c.insert d known).problems = d :: if c.overflows d then [] else c.problems.filter fun e => e ≠ d := by
  rw [problems, insert]
  split_ifs
  · rfl
  · simp only [List.map_cons, problems, List.filter_map]
    rfl

lemma size_eq_length_problems : c.size = c.problems.length := by
  rw [size, problems, List.length_map]

lemma nodup_problems_insert (h : c.problems.Nodup) : (c.insert d known).problems.Nodup := by
  rw [problems_insert]
  split_ifs
  · exact List.nodup_singleton d
  · exact List.nodup_cons.mpr ⟨by simp, h.filter _⟩

lemma mem_problems_insert (he : e ∈ (c.insert d known).problems) : e = d ∨ e ∈ c.problems := by
  rw [problems_insert, List.mem_cons] at he
  refine he.imp_right fun he => ?_
  split_ifs at he
  · cases he
  · exact List.mem_of_mem_filter he

/-- A problem that is known takes no new place. -/
lemma size_insert (h : c.problems.Nodup) :
    (c.insert d known).size
      = if c.get? d = none then (if c.capacity ≤ c.size then 1 else c.size + 1) else c.size := by
  have hsize := size_eq_length_problems (c := c)
  rw [size_eq_length_problems, problems_insert, List.length_cons]
  by_cases hnone : c.get? d = none
  · rw [if_pos hnone]
    by_cases hfull : c.capacity ≤ c.size
    · rw [if_pos (overflows_iff.mpr ⟨hnone, hfull⟩), if_pos hfull, List.length_nil]
    · have hstays : c.problems.filter (fun e => e ≠ d) = c.problems := by
        refine List.filter_eq_self.mpr fun e he => ?_
        have hne : e ≠ d := by
          rintro rfl
          exact get?_eq_none_iff.mp hnone he
        simpa using hne
      rw [if_neg fun h => hfull (overflows_iff.mp h).2, if_neg hfull, hstays, hsize]
  · have hmem : d ∈ c.problems := by
      by_contra hmem
      exact hnone (get?_eq_none_iff.mpr hmem)
    have hone : (c.problems.filter fun e => e ≠ d).length + 1 = c.problems.length := by
      have herase : (c.problems.filter fun e => e ≠ d) = c.problems.erase d := by
        rw [h.erase_eq_filter]
        simp [bne, decide_not, beq_eq_decide]
      rw [herase, List.length_erase_of_mem hmem]
      have := List.length_pos_of_mem hmem
      omega
    rw [if_neg hnone, if_neg fun h => hnone (overflows_iff.mp h).1, hone, hsize]

end Entries

/-! ### Requests -/

/-- What is asked of a cache, or happens to the host. -/
inductive Request where
  /-- Register a solution of a problem file. -/
  | register (problemFile : String) (known : KnownSolution)
  /-- Drop all entries. -/
  | clear
  /-- Something else happens to the host: files come, change and go. -/
  | outside (change : Host → Host)

/-- Do what is asked. -/
def Request.run : Request → CacheM Unit
  | register problemFile known => Cache.register problemFile known
  | clear => clearOnHost
  | outside change => fun (c, h) => (.ok (), (c, change h))

/-- A cache and its host after some requests. -/
def afterAll (x : Cache × Host) : List Request → Cache × Host
  | [] => x
  | request :: requests => afterAll (request.run x).2 requests

/-- The registration that a request makes, if it asks for one and the problem file can be read. -/
def Request.registration? (h : Host) : Request → Option (Digest × KnownSolution)
  | register problemFile known =>
    match h.files.read problemFile with
    | .ok bytes => some (.ofBytes bytes, known)
    | .error _ => none
  | _ => none

/-- The registrations of some requests, in order. -/
def registered (x : Cache × Host) : List Request → List (Digest × KnownSolution)
  | [] => []
  | request :: requests => (request.registration? x.2).toList ++ registered (request.run x).2 requests

/-- The registrations since everything was forgotten last, after one more request. Everything is forgotten when the
cache is cleared, and just before a problem is registered that is not known while there are as many entries as there
may be. -/
def Request.extend (x : Cache × Host) (recent : List (Digest × KnownSolution)) (request : Request) :
    List (Digest × KnownSolution) :=
  match request with
  | clear => []
  | request =>
    match request.registration? x.2 with
    | none => recent
    | some (d, known) =>
      (if x.1.get? d = none ∧ x.1.capacity ≤ x.1.size then [] else recent) ++ [(d, known)]

/-- The registrations since everything was forgotten last, after some requests. -/
def recentAfter (x : Cache × Host) (recent : List (Digest × KnownSolution)) :
    List Request → List (Digest × KnownSolution)
  | [] => recent
  | request :: requests => recentAfter (request.run x).2 (request.extend x recent) requests

/-- The registrations since everything was forgotten last, of a cache that has been new. -/
def recent (capacity : ℕ) (h : Host) (requests : List Request) : List (Digest × KnownSolution) :=
  recentAfter (new capacity, h) [] requests

/-- The latest of some registrations of a problem. -/
def latest? (registrations : List (Digest × KnownSolution)) (d : Digest) : Option KnownSolution :=
  registrations.reverse.lookup d

/-- What is not clearing may only forget for the sake of a new entry. -/
lemma Request.extend_of_ne_clear {request : Request} (h : request ≠ .clear) (x : Cache × Host)
    (recent : List (Digest × KnownSolution)) :
    request.extend x recent = match request.registration? x.2 with
      | none => recent
      | some (d, known) => (if x.1.get? d = none ∧ x.1.capacity ≤ x.1.size then [] else recent) ++ [(d, known)] := by
  cases request with
  | clear => exact absurd rfl h
  | register problemFile known => rfl
  | outside change => rfl

/-! ### One registration -/

section Registering

variable {c : Cache} {h : Host} {problemFile : String} {known : KnownSolution}

lemma digestOfFile_of_ok {bytes : List UInt8} (hread : h.files.read problemFile = .ok bytes) :
    digestOfFile problemFile h = (.ok (.ofBytes bytes), h) := by
  rw [digestOfFile, map_eq_pure_bind]
  exact bind_apply_ok _ (Host.read_of_ok hread)

lemma digestOfFile_of_error {fault : FileFault} (hread : h.files.read problemFile = .error fault) :
    digestOfFile problemFile h = (.error (.file fault), h) := by
  rw [digestOfFile, map_eq_pure_bind]
  exact bind_apply_error _ (Host.read_of_error hread)

/-- A solution of a problem file that can be read is registered. -/
lemma register_of_ok {bytes : List UInt8} (hread : h.files.read problemFile = .ok bytes) :
    register problemFile known (c, h) = registerAs (.ofBytes bytes) problemFile known (c, h) := by
  have hdigest : onHost (Host.discardOnError known.file (digestOfFile problemFile)) (c, h)
      = (.ok (.ofBytes bytes), (c, h)) := by
    rw [onHost, Host.discardOnError_of_ok _ (digestOfFile_of_ok hread)]
  exact bind_apply_ok _ hdigest

/-- **A registration that fails changes nothing**; the solution file that it was given is gone. -/
lemma register_of_error {fault : FileFault} (hread : h.files.read problemFile = .error fault) :
    register problemFile known (c, h) = (.error (.file fault), (c, (Host.discard known.file h).2)) := by
  have hdigest : onHost (Host.discardOnError known.file (digestOfFile problemFile)) (c, h)
      = (.error (.file fault), (c, (Host.discard known.file h).2)) := by
    rw [onHost, Host.discardOnError_of_error _ (digestOfFile_of_error hread)]
  exact bind_apply_error _ hdigest

/-- **What a request does to a cache.** It drops all entries, or it makes an entry of its registration if it makes one. -/
lemma run_cases (x : Cache × Host) (request : Request) :
    request = .clear ∧ (request.run x).2.1 = new x.1.capacity
      ∨ request ≠ .clear ∧ (request.registration? x.2 = none ∧ (request.run x).2.1 = x.1
        ∨ ∃ d known, request.registration? x.2 = some (d, known) ∧ (request.run x).2.1 = x.1.insert d known) := by
  obtain ⟨c, host⟩ := x
  cases request with
  | clear => exact .inl ⟨rfl, rfl⟩
  | outside change => exact .inr ⟨nofun, .inl ⟨rfl, rfl⟩⟩
  | register problemFile known =>
      refine .inr ⟨nofun, ?_⟩
      simp only [Request.registration?, Request.run]
      cases hread : host.files.read problemFile with
      | error fault =>
          rw [register_of_error hread]
          exact .inl ⟨rfl, rfl⟩
      | ok bytes =>
          rw [register_of_ok hread]
          exact .inr ⟨.ofBytes bytes, known, rfl, rfl⟩

end Registering

/-! ### A cache in step with its history -/

/-- A cache that holds, for each problem, the latest of some registrations, and nothing else. -/
structure Recalls (c : Cache) (registrations : List (Digest × KnownSolution)) : Prop where
  nodup : c.problems.Nodup
  get? : ∀ d, c.get? d = latest? registrations d

lemma latest?_concat (registrations : List (Digest × KnownSolution)) (d e : Digest) (known : KnownSolution) :
    latest? (registrations ++ [(d, known)]) e = if e = d then some known else latest? registrations e := by
  rw [latest?, List.reverse_concat, List.lookup_cons]
  by_cases hne : e = d
  · simp [hne]
  · have hkey : (e == d) = false := by simpa using hne
    rw [hkey, if_neg hne, latest?]

lemma recalls_new (capacity : ℕ) : (new capacity).Recalls [] := ⟨List.nodup_nil, fun _ => rfl⟩

/-- The number of entries is the number of problems that have been registered. -/
lemma Recalls.size {c : Cache} {registrations : List (Digest × KnownSolution)} (h : c.Recalls registrations) :
    c.size = (registrations.map Prod.fst).toFinset.card := by
  rw [size_eq_length_problems, ← List.toFinset_card_of_nodup h.nodup]
  congr 1
  ext d
  have hmem : d ∈ c.problems ↔ ¬c.get? d = none := by rw [get?_eq_none_iff, not_not]
  rw [List.mem_toFinset, List.mem_toFinset, hmem, h.get?, latest?, lookup_eq_none_iff_not_mem, not_not,
    List.map_reverse, List.mem_reverse]

/-- A cache that makes an entry of a registration is in step with one more of them. -/
lemma Recalls.insert {c : Cache} {registrations : List (Digest × KnownSolution)} (h : c.Recalls registrations)
    (d : Digest) (known : KnownSolution) :
    (c.insert d known).Recalls ((if c.overflows d then [] else registrations) ++ [(d, known)]) := by
  refine ⟨nodup_problems_insert h.nodup, fun e => ?_⟩
  rw [latest?_concat]
  by_cases hne : e = d
  · rw [hne, get?_insert_self, if_pos rfl]
  · rw [get?_insert_of_ne hne, if_neg hne]
    split_ifs
    · rfl
    · exact h.get? e

/-- **Every request keeps a cache in step with its history.** -/
lemma Recalls.step {x : Cache × Host} {registrations : List (Digest × KnownSolution)} (h : x.1.Recalls registrations)
    (request : Request) : (request.run x).2.1.Recalls (request.extend x registrations) := by
  rcases run_cases x request with ⟨rfl, hcache⟩ | ⟨hne, ⟨hnone, hcache⟩ | ⟨d, known, hsome, hcache⟩⟩
  · rw [hcache]
    exact recalls_new x.1.capacity
  · rw [hcache, Request.extend_of_ne_clear hne, hnone]
    exact h
  · rw [hcache, Request.extend_of_ne_clear hne, hsome]
    simp only [← overflows_iff]
    exact h.insert d known

/-- A request leaves a cache its capacity. -/
lemma capacity_step (x : Cache × Host) (request : Request) : (request.run x).2.1.capacity = x.1.capacity := by
  rcases run_cases x request with ⟨-, hcache⟩ | ⟨-, ⟨-, hcache⟩ | ⟨d, known, -, hcache⟩⟩
  · rw [hcache, new]
  · rw [hcache]
  · rw [hcache, insert]

/-- **A request keeps the size of a cache within bounds**, which are its capacity and one. -/
lemma size_le_step {x : Cache × Host} (hnodup : x.1.problems.Nodup) (h : x.1.size ≤ max x.1.capacity 1)
    (request : Request) : (request.run x).2.1.size ≤ max x.1.capacity 1 := by
  rcases run_cases x request with ⟨-, hcache⟩ | ⟨-, ⟨-, hcache⟩ | ⟨d, known, -, hcache⟩⟩
  · rw [hcache]
    exact Nat.zero_le _
  · rw [hcache]
    exact h
  · rw [hcache, size_insert hnodup]
    split_ifs <;> omega

/-! ### Whole histories -/

/-- A cache is in step with its history, and within bounds. -/
lemma recalls_recentAfter {x : Cache × Host} {registrations : List (Digest × KnownSolution)}
    (h : x.1.Recalls registrations) (hsize : x.1.size ≤ max x.1.capacity 1) (requests : List Request) :
    (afterAll x requests).1.Recalls (recentAfter x registrations requests)
      ∧ (afterAll x requests).1.size ≤ max x.1.capacity 1 := by
  induction requests generalizing x registrations with
  | nil => exact ⟨h, hsize⟩
  | cons request requests ih =>
      have hcapacity := capacity_step x request
      have hstep := size_le_step h.nodup hsize request
      rw [← hcapacity]
      exact ih (h.step request) (by rwa [hcapacity])

/-- The size of a cache after a number of registrations of different problems. -/
def sizeAfter (capacity : ℕ) : ℕ → ℕ
  | 0 => 0
  | n + 1 => n % max capacity 1 + 1

/-- **A full cache starts again with one entry**, and any other one grows by one. -/
lemma sizeAfter_succ (capacity n : ℕ) :
    sizeAfter capacity (n + 1) = if capacity ≤ sizeAfter capacity n then 1 else sizeAfter capacity n + 1 := by
  cases n with
  | zero => simp [sizeAfter]
  | succ n =>
      have hlt : n % max capacity 1 < max capacity 1 := Nat.mod_lt _ (by omega)
      have hnext : (n + 1) % max capacity 1 = (n % max capacity 1 + 1) % max capacity 1 := (Nat.mod_add_mod n _ 1).symm
      change (n + 1) % max capacity 1 + 1 = if capacity ≤ n % max capacity 1 + 1 then 1 else n % max capacity 1 + 1 + 1
      rw [hnext]
      by_cases hlast : n % max capacity 1 + 1 = max capacity 1
      · rw [hlast, Nat.mod_self, if_pos (le_max_left capacity 1)]
      · have hroom : n % max capacity 1 + 1 < max capacity 1 := by omega
        rw [Nat.mod_eq_of_lt hroom, if_neg (by omega)]

/-- A cache that has been filled with registrations of different problems. -/
structure Counts (c : Cache) (capacity : ℕ) (done : List Digest) : Prop where
  capacity_eq : c.capacity = capacity
  nodup : c.problems.Nodup
  mem_done : ∀ d ∈ c.problems, d ∈ done
  size : c.size = sizeAfter capacity done.length

lemma counts_new (capacity : ℕ) : (new capacity).Counts capacity [] := ⟨rfl, List.nodup_nil, nofun, rfl⟩

/-- One more problem takes the next place, or the first one of a cache that is full. -/
lemma Counts.insert {c : Cache} {capacity : ℕ} {done : List Digest} (h : c.Counts capacity done) {d : Digest}
    (hnew : d ∉ done) (known : KnownSolution) : (c.insert d known).Counts capacity (done ++ [d]) where
  capacity_eq := h.capacity_eq
  nodup := nodup_problems_insert h.nodup
  mem_done e he := by
    rcases mem_problems_insert he with rfl | hold
    · exact List.mem_concat_self
    · exact List.mem_append_left _ (h.mem_done e hold)
  size := by
    have hnone : c.get? d = none := get?_eq_none_iff.mpr fun hmem => hnew (h.mem_done d hmem)
    rw [size_insert h.nodup, if_pos hnone, List.length_append, List.length_singleton, sizeAfter_succ, ← h.size,
      h.capacity_eq]

/-- **Registrations of different problems fill a cache again and again.** -/
lemma Counts.afterAll {x : Cache × Host} {capacity : ℕ} {done : List Digest} (h : x.1.Counts capacity done)
    {requests : List Request} (hclear : ∀ request ∈ requests, request ≠ .clear)
    (hdistinct : (done ++ (registered x requests).map Prod.fst).Nodup) :
    (afterAll x requests).1.Counts capacity (done ++ (registered x requests).map Prod.fst) := by
  induction requests generalizing x done with
  | nil =>
      rw [registered, List.map_nil, List.append_nil]
      exact h
  | cons request requests ih =>
      have hrest : ∀ r ∈ requests, r ≠ .clear := fun r hr => hclear r (List.mem_cons_of_mem _ hr)
      rcases run_cases x request with ⟨rfl, -⟩ | ⟨-, ⟨hnone, hcache⟩ | ⟨d, known, hsome, hcache⟩⟩
      · exact absurd rfl (hclear _ List.mem_cons_self)
      · rw [registered, hnone, Option.toList_none, List.nil_append] at hdistinct ⊢
        exact ih (hcache ▸ h) hrest hdistinct
      · rw [registered, hsome, Option.toList_some, List.singleton_append, List.map_cons, List.append_cons] at hdistinct ⊢
        have hnew : d ∉ done := fun hmem =>
          List.disjoint_of_nodup_append (List.nodup_append.mp hdistinct).1 hmem (List.mem_singleton_self d)
        exact ih (hcache ▸ h.insert hnew known) hrest hdistinct

/-! ### The closed form -/

/-- **A new cache holds what has been registered since everything was forgotten last**: the latest solution of each
problem, and nothing else. So it never has more entries than it may, except for the one that a cache without room
takes; a problem that is known costs no other one its entry; a registration that fails changes nothing; and
registrations of different problems fill the cache again and again. -/
theorem holds_recent (capacity : ℕ) (h : Host) (requests : List Request) :
    let x := afterAll (new capacity, h) requests
    (∀ d, x.1.get? d = latest? (recent capacity h requests) d)
      ∧ x.1.size = ((recent capacity h requests).map Prod.fst).toFinset.card
      ∧ x.1.size ≤ max capacity 1
      ∧ (∀ problemFile known bytes, x.2.files.read problemFile = .ok bytes → x.1.contains (.ofBytes bytes) = true →
          (register problemFile known x).1 = .ok ()
            ∧ (register problemFile known x).2.1.size = x.1.size
            ∧ ∀ d ≠ .ofBytes bytes, (register problemFile known x).2.1.get? d = x.1.get? d)
      ∧ (∀ problemFile known fault, x.2.files.read problemFile = .error fault →
          register problemFile known x = (.error (.file fault), (x.1, (Host.discard known.file x.2).2)))
      ∧ ((∀ request ∈ requests, request ≠ .clear) → registered (new capacity, h) requests ≠ [] →
          ((registered (new capacity, h) requests).map Prod.fst).Nodup →
          x.1.size = ((registered (new capacity, h) requests).length - 1) % max capacity 1 + 1) := by
  intro x
  obtain ⟨hrecalls, hsize⟩ := recalls_recentAfter (recalls_new capacity) (Nat.zero_le _) (x := (new capacity, h)) requests
  refine ⟨hrecalls.get?, hrecalls.size, hsize, ?_, fun _ _ _ hread => register_of_error hread, ?_⟩
  · intro problemFile known bytes hread hknown
    have hroom : ¬x.1.overflows (.ofBytes bytes) = true := by simp [overflows, hknown]
    have hsome : ¬x.1.get? (.ofBytes bytes) = none := by
      intro hnone
      simp [contains, hnone] at hknown
    rw [register_of_ok hread]
    refine ⟨rfl, (size_insert hrecalls.nodup).trans (if_neg hsome), fun d hne => ?_⟩
    exact (get?_insert_of_ne hne).trans (if_neg hroom)
  · intro hclear hsome hdistinct
    have hall := ((counts_new capacity).afterAll (x := (new capacity, h)) hclear hdistinct).size
    obtain ⟨n, hn⟩ := Nat.exists_eq_add_one_of_ne_zero (List.length_pos_of_ne_nil hsome).ne'
    rw [hall, List.nil_append, List.length_map, hn]
    rfl

/-- A host with three problem files. -/
def threeProblems : Host where
  files :=
    { entries := [(["a.lp"], .file 0), (["b.lp"], .file 1), (["c.lp"], .file 2)]
      numbered := #[⟨[0x61], false⟩, ⟨[0x62], false⟩, ⟨[0x63], false⟩] }
  tempDirectory := "/tmp"
  nextTemp := 0
  tempNames := []
  journal := []
  launcher := fun _ files => (.error .notFound, files)

/-- Solutions of three problems, and of one that is not there. -/
def threeRegistrations : List Request :=
  [.register "/a.lp" ⟨"/tmp/a", .optimal, .basic⟩, .register "/b.lp" ⟨"/tmp/b", .infeasible, .basic⟩,
    .register "/missing.lp" ⟨"/tmp/d", .optimal, .basic⟩, .register "/c.lp" ⟨"/tmp/c", .unbounded, .basic⟩]

theorem holds_recent_threeProblems :
    (afterAll (new 2, threeProblems) threeRegistrations).1.size = 1
      ∧ (afterAll (new 2, threeProblems) threeRegistrations).1.get? (.ofBytes [0x63])
          = some ⟨"/tmp/c", .unbounded, .basic⟩ := by
  obtain ⟨hlatest, -, -, -, -, hsize⟩ := holds_recent 2 threeProblems threeRegistrations
  constructor
  · have hregistered : (registered (new 2, threeProblems) threeRegistrations).length = 3 := by decide +kernel
    rw [hsize (by simp [threeRegistrations]) (by decide +kernel) (by decide +kernel), hregistered]
    rfl
  · rw [hlatest]
    decide +kernel

end Cache

end LinearProgram
