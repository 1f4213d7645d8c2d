import LinearProgram.Proofs.Cache.History

/-!
The files of a cache.

The entries of a cache have temporary files at places of their own. When a solution is registered, the files of the
entries that give way are removed, and every other file is left alone.

* `Cache.Owns`: the entries of a cache have files of their own.
* `Cache.discardAll_untouched`: removing some files leaves alone every file at another place;
  `Cache.not_holds_discardAll`: the files that are removed are gone.
* `Cache.Owns.dispose`: a cache that is given up.
* `Cache.Takes`: what becomes of a cache and a host when a solution is registered.
* `Cache.Owns.registerAs`: **registering a solution keeps the files of all entries that stay.**
-/

namespace LinearProgram

namespace Cache

variable {c : Cache} {d : Digest} {known : KnownSolution} {h h' : Host} {path : String}

/-- The entries of a cache have temporary files at places of their own. -/
structure Owns (c : Cache) (h : Host) : Prop where
  nodup : c.problems.Nodup
  file : ∀ e ∈ c.entries, h.IsTemporary e.2.file ∧ h.files.IsFile e.2.file
  places : (c.entries.map fun e => h.files.placeOf e.2.file).Nodup

lemma owns_empty (capacity : ℕ) (h : Host) : (new capacity).Owns h :=
  ⟨List.nodup_nil, by simp [new], List.nodup_nil⟩

lemma Owns.ne_placeOf (howns : c.Owns h) {e e' : Digest × KnownSolution} (he : e ∈ c.entries) (he' : e' ∈ c.entries)
    (hne : e ≠ e') : h.files.placeOf e.2.file ≠ h.files.placeOf e'.2.file :=
  fun heq => hne (List.inj_on_of_nodup_map howns.places he he' heq)

/-- A cache keeps its files as long as they are left alone. -/
lemma Owns.of_untouched (howns : c.Owns h) (hsame : h.SameSurroundings h')
    (huntouched : ∀ e ∈ c.entries, h.files.Untouched h'.files e.2.file) : c.Owns h' where
  nodup := howns.nodup
  file e he :=
    ⟨hsame.isTemporary_iff.mpr (howns.file e he).1, (huntouched e he).isFile (howns.file e he).2⟩
  places := by
    have hplaces : (c.entries.map fun e => h'.files.placeOf e.2.file) = c.entries.map fun e => h.files.placeOf e.2.file :=
      List.map_congr_left fun e he => (huntouched e he).placeOf (howns.file e he).2
    rw [hplaces]
    exact howns.places

lemma mem_of_get? (h : c.get? d = some known) : (d, known) ∈ c.entries := by
  obtain ⟨before, after, heq, -⟩ := List.lookup_eq_some_iff.mp h
  rw [heq]
  exact List.mem_append_right before List.mem_cons_self

lemma get?_of_mem (hnodup : c.problems.Nodup) {e : Digest × KnownSolution} (he : e ∈ c.entries) :
    c.get? e.1 = some e.2 := by
  obtain ⟨before, after, heq⟩ := List.append_of_mem he
  rw [problems, heq, List.map_append, List.map_cons] at hnodup
  refine List.lookup_eq_some_iff.mpr ⟨before, after, heq, fun p hp => ?_⟩
  have hne := (List.nodup_append.mp hnodup).2.2 _ (List.mem_map_of_mem hp) _ List.mem_cons_self
  simpa using hne.symm

/-! ### Files that go -/

lemma discardAll_same (solutions : List KnownSolution) (h : Host) : h.SameSurroundings (discardAll solutions h).2 := by
  induction solutions generalizing h with
  | nil => exact .refl h
  | cons k ks ih => exact (Host.discard_same k.file h).trans (ih _)

/-- Solutions whose files stand at places of their own. -/
structure Separate (solutions : List KnownSolution) (h : Host) : Prop where
  file : ∀ k ∈ solutions, h.files.IsFile k.file
  places : (solutions.map fun k => h.files.placeOf k.file).Nodup

/-- The files that are left when the first one goes. -/
lemma Separate.discard {k : KnownSolution} {ks : List KnownSolution} (hs : Separate (k :: ks) h) :
    Separate ks (Host.discard k.file h).2
      ∧ ∀ k' ∈ ks, (Host.discard k.file h).2.files.placeOf k'.file = h.files.placeOf k'.file := by
  obtain ⟨hfile, hplaces⟩ := hs
  rw [List.map_cons, List.nodup_cons] at hplaces
  have hrest : ∀ k' ∈ ks, h.files.Untouched (Host.discard k.file h).2.files k'.file := by
    intro k' hk'
    refine Host.discard_untouched ((hfile k List.mem_cons_self).clear fun heq => hplaces.1 ?_)
    rw [heq]
    exact List.mem_map_of_mem hk'
  have hsame : ∀ k' ∈ ks, (Host.discard k.file h).2.files.placeOf k'.file = h.files.placeOf k'.file := fun k' hk' =>
    (hrest k' hk').placeOf (hfile k' (List.mem_cons_of_mem k hk'))
  refine ⟨⟨fun k' hk' => (hrest k' hk').isFile (hfile k' (List.mem_cons_of_mem k hk')), ?_⟩, hsame⟩
  rw [List.map_congr_left hsame]
  exact hplaces.2

/-- **Removing files at different places leaves alone every file at another place.** -/
lemma discardAll_untouched {solutions : List KnownSolution} (hs : Separate solutions h)
    (hne : ∀ k ∈ solutions, h.files.placeOf k.file ≠ h.files.placeOf path) (hpath : h.files.IsFile path) :
    h.files.Untouched (discardAll solutions h).2.files path := by
  induction solutions generalizing h with
  | nil => exact Files.Untouched.refl _ _
  | cons k ks ih =>
      have hself : h.files.Untouched (Host.discard k.file h).2.files path :=
        Host.discard_untouched ((hs.file k List.mem_cons_self).clear (hne k List.mem_cons_self))
      obtain ⟨hrest, hsame⟩ := hs.discard
      refine hself.trans (ih hrest (fun k' hk' => ?_) (hself.isFile hpath))
      rw [hsame k' hk', hself.placeOf hpath]
      exact hne k' (List.mem_cons_of_mem k hk')

/-- What is gone does not come back when files are removed. -/
lemma not_holds_of_discardAll {solutions : List KnownSolution} (hs : Separate solutions h)
    (hgone : h.files.holds path = false) : (discardAll solutions h).2.files.holds path = false := by
  induction solutions generalizing h with
  | nil => exact hgone
  | cons k ks ih => exact ih hs.discard.1 (Host.not_holds_of_discard (hs.file k List.mem_cons_self) hgone)

/-- **Files that are removed are gone.** -/
lemma not_holds_discardAll {solutions : List KnownSolution} (hs : Separate solutions h) {k : KnownSolution}
    (hk : k ∈ solutions) : (discardAll solutions h).2.files.holds k.file = false := by
  induction solutions generalizing h with
  | nil => cases hk
  | cons first ks ih =>
      rcases List.mem_cons.mp hk with rfl | hrest
      · have hgone := Host.not_holds_discard (hs.file k List.mem_cons_self)
        have hstill := not_holds_of_discardAll hs.discard.1 hgone
        exact hstill
      · exact ih hs.discard.1 hrest

lemma Owns.separate (howns : c.Owns h) : Separate c.solutions h where
  file k hk := by
    obtain ⟨e, he, rfl⟩ := List.mem_map.mp hk
    exact (howns.file e he).2
  places := by
    rw [solutions, List.map_map]
    exact howns.places

/-- **A cache that is given up loses its files**, and no other file is touched. -/
lemma Owns.dispose (howns : c.Owns h) :
    (∀ e ∈ c.entries, (c.dispose h).2.files.holds e.2.file = false)
      ∧ ∀ p, h.files.IsFile p → (∀ e ∈ c.entries, h.files.placeOf e.2.file ≠ h.files.placeOf p) →
          h.files.Untouched (c.dispose h).2.files p := by
  refine ⟨fun e he => not_holds_discardAll howns.separate (List.mem_map_of_mem he), fun p hp hne => ?_⟩
  refine discardAll_untouched howns.separate (fun k hk => ?_) hp
  obtain ⟨e, he, rfl⟩ := List.mem_map.mp hk
  exact hne e he

/-! ### Registering -/

/-- What gives way has been in the cache. -/
lemma exists_of_mem_displaced {k : KnownSolution} (hk : k ∈ c.displaced d) :
    ∃ e, (e, k) ∈ c.entries ∧ (c.overflows d = true ∨ e = d) := by
  rw [displaced] at hk
  split_ifs at hk with hfull
  · obtain ⟨e, he, rfl⟩ := List.mem_map.mp hk
    exact ⟨e.1, he, .inl hfull⟩
  · exact ⟨d, mem_of_get? (Option.mem_toList.mp hk), .inr rfl⟩

lemma Owns.separate_displaced (howns : c.Owns h) : Separate (c.displaced d) h where
  file k hk := by
    obtain ⟨e, he, -⟩ := exists_of_mem_displaced hk
    exact (howns.file _ he).2
  places := by
    rw [displaced]
    split_ifs
    · exact howns.separate.places
    · cases c.get? d with
      | none => exact List.nodup_nil
      | some k => exact List.nodup_singleton _

lemma mem_entries_insert {e : Digest × KnownSolution} (he : e ∈ (c.insert d known).entries) :
    e = (d, known) ∨ e ∈ c.entries ∧ ¬c.overflows d = true ∧ e.1 ≠ d := by
  rcases List.mem_cons.mp he with rfl | he
  · exact .inl rfl
  · split_ifs at he with hfull
    · cases he
    · obtain ⟨he, hne⟩ := List.mem_filter.mp he
      exact .inr ⟨he, hfull, by simpa using hne⟩

/-- **What leaves the cache gives way.** -/
lemma mem_displaced (hnodup : c.problems.Nodup) {e : Digest × KnownSolution} (he : e ∈ c.entries)
    (hleft : e ∉ (c.insert d known).entries) : e.2 ∈ c.displaced d := by
  rw [displaced]
  split_ifs with hfull
  · exact List.mem_map_of_mem he
  · have hd : e.1 = d := by
      by_contra hne
      refine hleft (List.mem_cons_of_mem _ ?_)
      rw [if_neg hfull]
      exact List.mem_filter.mpr ⟨he, by simpa using hne⟩
    rw [← hd, get?_of_mem hnodup he]
    exact List.mem_singleton_self _

/-- A new entry with a file of its own. -/
lemma Owns.insert (howns : c.Owns h) (htemporary : h.IsTemporary known.file) (hfile : h.files.IsFile known.file)
    (hnew : ∀ e ∈ c.entries, h.files.placeOf e.2.file ≠ h.files.placeOf known.file) : (c.insert d known).Owns h where
  nodup := nodup_problems_insert howns.nodup
  file e he := by
    rcases mem_entries_insert he with rfl | ⟨he, -, -⟩
    · exact ⟨htemporary, hfile⟩
    · exact howns.file e he
  places := by
    have hrest : ((if c.overflows d then [] else c.entries.filter fun e => e.1 ≠ d)).Sublist c.entries := by
      split_ifs
      · exact List.nil_sublist _
      · exact List.filter_sublist
    rw [Cache.insert, List.map_cons, List.nodup_cons]
    refine ⟨fun hmem => ?_, (hrest.map _).nodup howns.places⟩
    obtain ⟨e, he, heq⟩ := List.mem_map.mp hmem
    exact hnew e (hrest.subset he) heq

/-- **Removing the files of what gives way** leaves alone the files of all entries that stay, and every file that no
entry has. -/
lemma Owns.displace (howns : c.Owns h) (hfile : h.files.IsFile known.file)
    (hnew : ∀ e ∈ c.entries, h.files.placeOf e.2.file ≠ h.files.placeOf known.file) :
    (∀ e ∈ (c.insert d known).entries, h.files.Untouched (discardAll (c.displaced d) h).2.files e.2.file)
      ∧ ∀ p, h.files.IsFile p → (∀ e ∈ c.entries, h.files.placeOf e.2.file ≠ h.files.placeOf p) →
          h.files.Untouched (discardAll (c.displaced d) h).2.files p := by
  have hothers : ∀ p, h.files.IsFile p → (∀ e ∈ c.entries, h.files.placeOf e.2.file ≠ h.files.placeOf p) →
      h.files.Untouched (discardAll (c.displaced d) h).2.files p := by
    intro p hp hne
    refine discardAll_untouched howns.separate_displaced (fun k hk => ?_) hp
    obtain ⟨d', hentry, -⟩ := exists_of_mem_displaced hk
    have hplaces := hne (d', k) hentry
    exact hplaces
  refine ⟨fun e he => ?_, hothers⟩
  rcases mem_entries_insert he with rfl | ⟨hold, hroom, hne⟩
  · exact hothers _ hfile hnew
  · refine discardAll_untouched howns.separate_displaced (fun k hk => ?_) (howns.file e hold).2
    obtain ⟨d', hentry, hfull | rfl⟩ := exists_of_mem_displaced hk
    · exact absurd hfull hroom
    · have hdiffers : (d', k) ≠ e := fun heq => hne (congrArg Prod.fst heq).symm
      have hplaces := howns.ne_placeOf hentry hold hdiffers
      exact hplaces

/-- The surroundings do not change when a solution is registered, and the files only by those that give way. -/
lemma registerAs_apply (d : Digest) (problemFile : String) (known : KnownSolution) (c : Cache) (h : Host) :
    ∃ h₁, h.SameSurroundings h₁ ∧ h₁.files = h.files
      ∧ registerAs d problemFile known (c, h) = (.ok ⟨⟩, (c.insert d known, (discardAll (c.displaced d) h₁).2)) :=
  ⟨(Host.note (c.registrationEntries d problemFile known) h).2, ⟨rfl, rfl⟩, rfl, rfl⟩

/-- A cache has taken over a solution with its file. The files of the entries that stay, and those that no entry has, are
left alone, and the files of the entries that give way are gone. -/
structure Takes (c : Cache) (h : Host) (d : Digest) (known : KnownSolution) (h' : Host) : Prop where
  same : h.SameSurroundings h'
  owns : (c.insert d known).Owns h'
  entries : ∀ e ∈ (c.insert d known).entries, h.files.Untouched h'.files e.2.file
  gone : ∀ e ∈ c.entries, e ∉ (c.insert d known).entries → h'.files.holds e.2.file = false
  others : ∀ p, h.files.IsFile p → (∀ e ∈ c.entries, h.files.placeOf e.2.file ≠ h.files.placeOf p) →
    h.files.Untouched h'.files p

/-- **Registering a solution keeps the files of all entries that stay**, and leaves alone every file that no entry
has. -/
lemma Owns.registerAs (howns : c.Owns h) (d : Digest) (problemFile : String) (known : KnownSolution)
    (htemporary : h.IsTemporary known.file) (hfile : h.files.IsFile known.file)
    (hnew : ∀ e ∈ c.entries, h.files.placeOf e.2.file ≠ h.files.placeOf known.file) :
    ∃ h', Cache.registerAs d problemFile known (c, h) = (.ok ⟨⟩, (c.insert d known, h')) ∧ c.Takes h d known h' := by
  obtain ⟨h₁, hsame, hfiles, hregister⟩ := registerAs_apply d problemFile known c h
  have howns₁ : c.Owns h₁ := howns.of_untouched hsame fun e _ => hfiles ▸ Files.Untouched.refl _ _
  have hinsert : (c.insert d known).Owns h := howns.insert htemporary hfile hnew
  have hall : h.SameSurroundings (discardAll (c.displaced d) h₁).2 := hsame.trans (discardAll_same _ _)
  rw [← hfiles] at hfile hnew
  obtain ⟨hentries, hothers⟩ := howns₁.displace hfile hnew (d := d)
  rw [hfiles] at hentries hothers
  exact ⟨_, hregister, hall, hinsert.of_untouched hall hentries, hentries,
    fun e he hleft => not_holds_discardAll howns₁.separate_displaced (mem_displaced howns.nodup he hleft), hothers⟩

/-- **A solution file whose registration fails is gone**, and the cache is as before. -/
lemma not_holds_of_register_error {problemFile : String} {e : Error} {c' : Cache} (hfile : h.files.IsFile known.file)
    (hregister : Cache.register problemFile known (c, h) = (.error e, (c', h'))) :
    c' = c ∧ h' = (Host.discard known.file h).2 ∧ h'.files.holds known.file = false := by
  cases hread : h.files.read problemFile with
  | error fault =>
      obtain ⟨-, hstate⟩ := Prod.mk.inj ((register_of_error hread).symm.trans hregister)
      obtain ⟨rfl, rfl⟩ := Prod.mk.inj hstate
      exact ⟨rfl, rfl, Host.not_holds_discard hfile⟩
  | ok bytes =>
      obtain ⟨h₁, -, -, hregisterAs⟩ := registerAs_apply (.ofBytes bytes) problemFile known c h
      cases hregister.symm.trans ((register_of_ok hread).trans hregisterAs)

end Cache

end LinearProgram
