import Mathlib.Tactic
import LinearProgram.Host.Files
import LinearProgram.Proofs.Text.Fields

/-!
Paths and the places that they lead to.

A walk that succeeds has met directories and links only, except perhaps at its end. So it depends on nothing but the
directories and links of the store: it leads to the same place in every store that has them as well, whatever files
come and go.

* `Files.Walks`: a successful walk, step by step; `Files.walk_eq_ok_iff` says that the walks of a store are these.
* `Files.Keeps`: a store that has all directories and links of another one.
* `Files.Walks.keeps`: **directories and links decide where a walk leads.**
* `Files.Walks.follow_end`, `Files.Walks.directory_of_slash`: walks to something that is no link, and walks behind whose
  last name there is a slash.
* `Files.locateWith_eq_ok_iff`: the place of a path is where a walk from the root leads.
-/

namespace LinearProgram

namespace Files

/-! ### Walks -/

/-- A name that leads on from a directory to what is in it. -/
structure IsStep (name : String) : Prop where
  notHere : ¬(name = "" ∨ name = ".")
  notBack : name ≠ ".."
  short : ¬longestName < name.utf8ByteSize

/-- A successful walk: from a place, through no more than the given number of links, along names, to a place. -/
inductive Walks (fs : Files) (through : Bool) : ℕ → Place → List String → Place → Prop where
  /-- There is no name to follow. -/
  | arrive {links : ℕ} {place : Place} : Walks fs through links place [] place
  /-- A name that stays in the directory. -/
  | stay {links : ℕ} {place goal : Place} {name : String} {names : List String}
      (here : fs.node? place = some .directory) (hname : name = "" ∨ name = ".")
      (rest : Walks fs through links place names goal) : Walks fs through links place (name :: names) goal
  /-- The name that leads back to the directory above. -/
  | back {links : ℕ} {place goal : Place} {names : List String} (here : fs.node? place = some .directory)
      (rest : Walks fs through links place.dropLast names goal) : Walks fs through links place (".." :: names) goal
  /-- The name of something that is no link. -/
  | down {links : ℕ} {place goal : Place} {name : String} {names : List String}
      (here : fs.node? place = some .directory) (hname : IsStep name)
      (next : ∀ target, fs.node? (place ++ [name]) ≠ some (.link target))
      (rest : Walks fs through links (place ++ [name]) names goal) :
      Walks fs through links place (name :: names) goal
  /-- The name of a link at the very end that is not followed. -/
  | last {links : ℕ} {place : Place} {name target : String} (here : fs.node? place = some .directory)
      (hname : IsStep name) (next : fs.node? (place ++ [name]) = some (.link target)) (hthrough : through = false) :
      Walks fs through links place [name] (place ++ [name])
  /-- The name of a link that is followed. -/
  | along {links : ℕ} {place goal : Place} {name target : String} {names : List String}
      (here : fs.node? place = some .directory) (hname : IsStep name)
      (next : fs.node? (place ++ [name]) = some (.link target)) (hfollow : names ≠ [] ∨ through = true)
      (rest : Walks fs through links (if isAbsolute target then [] else place) (namesOf target ++ names) goal) :
      Walks fs through (links + 1) place (name :: names) goal

section Walks

variable {fs : Files} {through : Bool} {links : ℕ} {place goal : Place} {names : List String}

/-- A walk along a name starts in a directory. -/
lemma Walks.directory {name : String} (h : fs.Walks through links place (name :: names) goal) :
    fs.node? place = some .directory := by
  cases h <;> assumption

lemma walkWith_of_directory {follow : Place → List String → Except FileFault Place} {name : String}
    (here : fs.node? place = some .directory) :
    fs.walkWith through follow place (name :: names)
      = if name = "" ∨ name = "." then fs.walkWith through follow place names
        else if name = ".." then fs.walkWith through follow place.dropLast names
        else if longestName < name.utf8ByteSize then .error .invalidFilename
        else
          match fs.node? (place ++ [name]) with
          | some (.link target) =>
            if names.isEmpty && !through then .ok (place ++ [name])
            else follow (if isAbsolute target then [] else place) (namesOf target ++ names)
          | _ => fs.walkWith through follow (place ++ [name]) names := by
  rewrite [walkWith, here]
  rfl

/-- A walk along a name fails unless it starts in a directory. -/
lemma directory_of_walkWith {follow : Place → List String → Except FileFault Place} {name : String}
    (h : fs.walkWith through follow place (name :: names) = .ok goal) : fs.node? place = some .directory := by
  rw [walkWith] at h
  split at h
  · cases h
  · cases h
  · cases h
  · cases h
  · assumption

/-- A name that leads on takes the walk to what it names, and from there on, or back to follow a link. -/
lemma walkWith_of_isStep {follow : Place → List String → Except FileFault Place} {name : String}
    (here : fs.node? place = some .directory) (hname : IsStep name) :
    fs.walkWith through follow place (name :: names)
      = match fs.node? (place ++ [name]) with
        | some (.link target) =>
          if names.isEmpty && !through then .ok (place ++ [name])
          else follow (if isAbsolute target then [] else place) (namesOf target ++ names)
        | _ => fs.walkWith through follow (place ++ [name]) names := by
  rw [walkWith_of_directory here, if_neg hname.notHere, if_neg hname.notBack, if_neg hname.short]

/-- A link is where a walk ends if its name is the last one and the last one is not followed. -/
lemma ends_at_link_iff : (names.isEmpty && !through) = true ↔ names = [] ∧ through = false := by
  rw [Bool.and_eq_true, List.isEmpty_iff, Bool.not_eq_true']

/-- A walk that succeeds is a successful walk, if those are that go on from its links. -/
lemma walks_of_walkWith {follow : Place → List String → Except FileFault Place}
    (hfollow : ∀ {place names goal}, follow place names = .ok goal
      → ∃ n, links = n + 1 ∧ fs.Walks through n place names goal)
    (h : fs.walkWith through follow place names = .ok goal) : fs.Walks through links place names goal := by
  induction names generalizing place with
  | nil =>
      rw [walkWith] at h
      obtain rfl := Except.ok.inj h
      exact .arrive
  | cons name names ih =>
      have here := directory_of_walkWith h
      by_cases hhere : name = "" ∨ name = "."
      · rw [walkWith_of_directory here, if_pos hhere] at h
        exact .stay here hhere (ih h)
      by_cases hback : name = ".."
      · rw [walkWith_of_directory here, if_neg hhere, if_pos hback] at h
        exact hback ▸ .back here (ih h)
      by_cases hlong : longestName < name.utf8ByteSize
      · rw [walkWith_of_directory here, if_neg hhere, if_neg hback, if_pos hlong] at h
        cases h
      have hname : IsStep name := ⟨hhere, hback, hlong⟩
      rw [walkWith_of_isStep here hname] at h
      split at h
      · rename_i target next
        by_cases hend : (names.isEmpty && !through) = true
        · rw [if_pos hend] at h
          obtain rfl := Except.ok.inj h
          obtain ⟨rfl, hthrough⟩ := ends_at_link_iff.mp hend
          exact .last here hname next hthrough
        · rw [if_neg hend] at h
          obtain ⟨n, rfl, hrest⟩ := hfollow h
          rw [ends_at_link_iff, not_and_or, Bool.not_eq_false] at hend
          exact .along here hname next hend hrest
      · rename_i next
        exact .down here hname next (ih h)

/-- A successful walk succeeds, if those do that go on from its links. -/
lemma Walks.walkWith_eq_ok {follow : Place → List String → Except FileFault Place}
    (hfollow : ∀ {n place names goal}, links = n + 1 → fs.Walks through n place names goal
      → follow place names = .ok goal)
    (h : fs.Walks through links place names goal) : fs.walkWith through follow place names = .ok goal := by
  induction names generalizing place with
  | nil =>
      cases h
      rfl
  | cons name names ih =>
      cases h with
      | stay here hname rest => rw [walkWith_of_directory here, if_pos hname, ih rest]
      | back here rest => rw [walkWith_of_directory here, if_neg (by decide), if_pos rfl, ih rest]
      | down here hname next rest =>
          rw [walkWith_of_isStep here hname]
          split
          · rename_i target htarget
            exact absurd htarget (next target)
          · exact ih rest
      | last here hname next hthrough =>
          rw [walkWith_of_isStep here hname, next]
          simp only [if_pos (ends_at_link_iff.mpr ⟨rfl, hthrough⟩)]
      | along here hname next hnames rest =>
          have hend : ¬(names.isEmpty && !through) = true := by
            rwa [ends_at_link_iff, not_and_or, Bool.not_eq_false]
          rw [walkWith_of_isStep here hname, next]
          simp only [if_neg hend]
          exact hfollow rfl rest

/-- Walks that go on from links in a known way are known. -/
lemma walkWith_eq_ok_iff {follow : Place → List String → Except FileFault Place}
    (hfollow : ∀ {place names goal}, follow place names = .ok goal
      ↔ ∃ n, links = n + 1 ∧ fs.Walks through n place names goal) :
    fs.walkWith through follow place names = .ok goal ↔ fs.Walks through links place names goal :=
  ⟨walks_of_walkWith hfollow.mp, Walks.walkWith_eq_ok fun hlinks h => hfollow.mpr ⟨_, hlinks, h⟩⟩

/-- **The successful walks of a store.** -/
lemma walk_eq_ok_iff : fs.walk through links place names = .ok goal ↔ fs.Walks through links place names goal := by
  induction links generalizing place names goal with
  | zero =>
      rw [walk]
      refine walkWith_eq_ok_iff ?_
      intro place names goal
      exact ⟨fun h => absurd h (by simp), fun ⟨n, hn, _⟩ => absurd hn (by omega)⟩
  | succ links ih =>
      rw [walk]
      refine walkWith_eq_ok_iff ?_
      intro place names goal
      rw [ih]
      refine ⟨fun h => ⟨links, rfl, h⟩, ?_⟩
      rintro ⟨n, hn, h⟩
      obtain rfl : links = n := by omega
      exact h

/-! ### What decides a walk -/

/-- A store that has all directories and links of another one. -/
structure Keeps (fs fs' : Files) : Prop where
  directory : ∀ {place}, fs.node? place = some .directory → fs'.node? place = some .directory
  link : ∀ {place target}, fs.node? place = some (.link target) → fs'.node? place = some (.link target)

/-- **Directories and links decide where a walk leads**, unless there is a new link at its end. -/
lemma Walks.keeps {fs' : Files} (hkeeps : fs.Keeps fs') (h : fs.Walks through links place names goal)
    (hgoal : ∀ {target}, fs'.node? goal = some (.link target) → fs.node? goal = some (.link target)) :
    fs'.Walks through links place names goal := by
  induction h with
  | arrive => exact .arrive
  | stay here hname _ ih => exact .stay (hkeeps.directory here) hname (ih hgoal)
  | back here _ ih => exact .back (hkeeps.directory here) (ih hgoal)
  | down here hname next rest ih =>
      refine .down (hkeeps.directory here) hname ?_ (ih hgoal)
      intro target htarget
      cases rest with
      | arrive => exact next target (hgoal htarget)
      | _ =>
          -- the walk goes on, so there is a directory
          have hdirectory := hkeeps.directory (by assumption : fs.node? _ = some .directory)
          rw [hdirectory] at htarget
          cases htarget
  | last here hname next hthrough => exact .last (hkeeps.directory here) hname (hkeeps.link next) hthrough
  | along here hname next hfollow _ ih =>
      exact .along (hkeeps.directory here) hname (hkeeps.link next) hfollow (ih hgoal)

/-- A walk to something that is no link is also one on which a link at the end would be followed. -/
lemma Walks.follow_end (h : fs.Walks through links place names goal)
    (hgoal : ∀ target, fs.node? goal ≠ some (.link target)) : fs.Walks true links place names goal := by
  induction h with
  | arrive => exact .arrive
  | stay here hname _ ih => exact .stay here hname (ih hgoal)
  | back here _ ih => exact .back here (ih hgoal)
  | down here hname next _ ih => exact .down here hname next (ih hgoal)
  | last _ _ next _ => exact absurd next (hgoal _)
  | along here hname next _ _ ih => exact .along here hname next (.inr rfl) (ih hgoal)

/-- Where a link at the end can be followed, there is also a walk to the link itself. -/
lemma Walks.exists_unfollowed (h : fs.Walks through links place names goal) :
    ∃ goal', fs.Walks false links place names goal' := by
  induction h with
  | arrive => exact ⟨_, .arrive⟩
  | stay here hname _ ih => exact ih.imp fun _ h => .stay here hname h
  | back here _ ih => exact ih.imp fun _ h => .back here h
  | down here hname next _ ih => exact ih.imp fun _ h => .down here hname next h
  | last here hname next _ => exact ⟨_, .last here hname next rfl⟩
  | @along _ _ _ _ _ names here hname next _ _ ih =>
      by_cases hnames : names = []
      · subst hnames
        exact ⟨_, .last here hname next rfl⟩
      · exact ih.imp fun _ h => .along here hname next (.inl hnames) h

/-- A walk that follows every link does not end at one, if everything above its start is a directory. -/
lemma Walks.not_link (h : fs.Walks through links place names goal) (hthrough : through = true)
    (habove : ∀ above, above <+: place → above ≠ place → fs.node? above = some .directory)
    (hplace : ∀ target, fs.node? place ≠ some (.link target)) (target : String) :
    fs.node? goal ≠ some (.link target) := by
  induction h with
  | arrive => exact hplace target
  | stay _ _ _ ih => exact ih habove hplace
  | @back _ place _ _ here _ ih =>
      have hprefix : place.dropLast <+: place := List.dropLast_prefix place
      have hdirectory : fs.node? place.dropLast = some .directory := by
        by_cases heq : place.dropLast = place
        · rw [heq, here]
        · exact habove _ hprefix heq
      refine ih (fun above h hne => habove above (h.trans hprefix) ?_) fun target' => by rw [hdirectory]; simp
      rintro rfl
      exact hne (h.eq_of_length_le hprefix.length_le)
  | @down _ place _ name _ here _ next _ ih =>
      refine ih (fun above h hne => ?_) next
      rcases List.prefix_concat_iff.mp h with rfl | h
      · exact absurd rfl hne
      · by_cases heq : above = place
        · rw [heq, here]
        · exact habove above h heq
  | last _ _ _ hfalse => exact absurd (hthrough.symm.trans hfalse) (by simp)
  | @along _ place _ _ target' _ here _ _ _ _ ih =>
      by_cases habsolute : isAbsolute target' = true
      · rw [if_pos habsolute] at ih
        exact ih (fun above h hne => absurd (List.prefix_nil.mp h) hne) fun target'' => by simp [node?]
      · rw [if_neg habsolute] at ih
        exact ih habove fun target'' => by rw [here]; simp

/-- Behind a slash at the end of its names, a walk ends in a directory. -/
lemma Walks.directory_of_slash (h : fs.Walks through links place names goal) (hslash : names.getLast? = some "") :
    fs.node? goal = some .directory := by
  induction h with
  | arrive => simp at hslash
  | @stay _ place _ name names here _ rest ih =>
      cases rest with
      | arrive => exact here
      | _ => exact ih (by simpa using hslash)
  | back here rest ih =>
      cases rest with
      | arrive => simp at hslash
      | _ => exact ih (by simpa using hslash)
  | down _ hname _ rest ih =>
      cases rest with
      | arrive => exact absurd (by simpa using hslash) (fun h => hname.notHere (.inl h))
      | _ => exact ih (by simpa using hslash)
  | last _ hname _ _ => exact absurd (by simpa using hslash) (fun h => hname.notHere (.inl h))
  | @along _ _ _ name target names _ hname _ _ _ ih =>
      cases names with
      | nil => exact absurd (by simpa using hslash) (fun h => hname.notHere (.inl h))
      | cons n ns =>
          refine ih ?_
          rw [List.getLast?_append_of_ne_nil _ (by simp)]
          simpa using hslash

end Walks

/-! ### Places of paths -/

/-- A text that can be a path. -/
structure IsPath (path : String) : Prop where
  noNul : path.toList.contains '\x00' = false
  short : ¬longestPath < path.utf8ByteSize
  nonempty : path ≠ ""

/-- **The place of a path** is where a walk from the root leads. -/
lemma locateWith_eq_ok_iff {fs : Files} {through : Bool} {path : String} {place : Place} :
    fs.locateWith through path = .ok place
      ↔ IsPath path ∧ fs.Walks through maxLinks [] (namesOf path) place := by
  rw [locateWith]
  split_ifs with hnul hlong hempty
  · exact ⟨fun h => absurd h (by simp), fun h => absurd h.1.noNul (by simpa using hnul)⟩
  · exact ⟨fun h => absurd h (by simp), fun h => absurd hlong h.1.short⟩
  · exact ⟨fun h => absurd h (by simp), fun h => absurd hempty h.1.nonempty⟩
  · rw [walk_eq_ok_iff]
    exact ⟨fun h => ⟨⟨by simpa using hnul, hlong, hempty⟩, h⟩, And.right⟩

section Places

variable {fs fs' : Files} {through : Bool} {path : String} {place : Place}

lemma locateWith_of_keeps (hkeeps : fs.Keeps fs') (h : fs.locateWith through path = .ok place)
    (hplace : ∀ {target}, fs'.node? place = some (.link target) → fs.node? place = some (.link target)) :
    fs'.locateWith through path = .ok place := by
  rw [locateWith_eq_ok_iff] at h ⊢
  exact ⟨h.1, h.2.keeps hkeeps hplace⟩

lemma locate_of_locateWith (h : fs.locateWith through path = .ok place)
    (hplace : ∀ target, fs.node? place ≠ some (.link target)) : fs.locate path = .ok place := by
  rw [locate, locateWith_eq_ok_iff]
  rw [locateWith_eq_ok_iff] at h
  exact ⟨h.1, h.2.follow_end hplace⟩

/-- A path that leads somewhere also leads somewhere if the link at its end is not followed. -/
lemma exists_locateWith_of_locate (h : fs.locate path = .ok place) : ∃ q, fs.locateWith false path = .ok q := by
  rw [locate, locateWith_eq_ok_iff] at h
  obtain ⟨q, hq⟩ := h.2.exists_unfollowed
  exact ⟨q, locateWith_eq_ok_iff.mpr ⟨h.1, hq⟩⟩

/-- A path does not lead to a link if the link at its end is followed. -/
lemma not_link_of_locate (h : fs.locate path = .ok place) (target : String) :
    fs.node? place ≠ some (.link target) := by
  rw [locate, locateWith_eq_ok_iff] at h
  refine h.2.not_link rfl (fun above hprefix hne => absurd (List.prefix_nil.mp hprefix) hne) ?_ target
  simp [node?]

/-- A path with a slash at its end leads to a directory. -/
lemma directory_of_slash (h : fs.locateWith through path = .ok place) (hslash : path.toList.getLast? = some '/') :
    fs.node? place = some .directory := by
  refine (locateWith_eq_ok_iff.mp h).2.directory_of_slash ?_
  obtain ⟨front, hfront⟩ : ∃ front, path.toList = front ++ ['/'] := by
    refine ⟨path.toList.dropLast, ?_⟩
    obtain ⟨hne, hlast⟩ := List.getLast?_eq_some_iff.mp hslash
    rw [hlast, List.dropLast_concat]
  rw [namesOf, hfront, pieces_append_cons (by decide), pieces, List.map_append,
    List.getLast?_append_of_ne_nil _ (by simp)]
  rfl

end Places

end Files

end LinearProgram
