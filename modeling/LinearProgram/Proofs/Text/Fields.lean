import Mathlib.Tactic
import LinearProgram.Text.Blank

/-!
The fields of a text, by equations.

A text is cut at blanks, so everything about its fields follows from how a list is cut at one of its
elements.

* `pieces_append_cons`: a list is cut at an element that satisfies the test; `pieces_append_of_not_cut`,
  `getLast?_pieces_append`: what holds none goes to the first or to the last piece.
* `IsWord`: characters without a blank; every field is a word (`isWord_of_mem_fieldsOf`), and a word is the
  one field of itself (`fieldsOf_eq_singleton`).
* `fieldsOf_append_cons`: **fields are cut at a blank**, from which `fieldsOf_append_words` reads the words
  behind a blank each; `flatMap_fieldsOf_pieces`: no field goes beyond a line; `fieldsOf_trim`: the blanks at the ends
  belong to no field.
* `containsChars_iff`: the parts of a text.
-/

namespace LinearProgram

/-! ### Cutting a list -/

section Pieces

variable {α : Type} {cut : α → Bool}

lemma pieces_ne_nil (cut : α → Bool) (as : List α) : pieces cut as ≠ [] := by
  cases as with
  | nil => simp [pieces]
  | cons a as =>
      rw [pieces]
      split
      · simp
      · split <;> simp

lemma pieces_cons_of_cut {a : α} (ha : cut a = true) (as : List α) :
    pieces cut (a :: as) = [] :: pieces cut as := by
  rw [pieces, if_pos ha]

/-- An element that is not cut at goes to the front of the first piece. -/
lemma pieces_cons_of_not_cut {a : α} (ha : cut a = false) {as p : List α} {ps : List (List α)}
    (h : pieces cut as = p :: ps) : pieces cut (a :: as) = (a :: p) :: ps := by
  rw [pieces, if_neg (by simp [ha]), h]

/-- A list is cut at an element that satisfies the test. -/
lemma pieces_append_cons {a : α} (ha : cut a = true) (xs ys : List α) :
    pieces cut (xs ++ a :: ys) = pieces cut xs ++ pieces cut ys := by
  induction xs with
  | nil => rw [List.nil_append, pieces_cons_of_cut ha, pieces, List.singleton_append]
  | cons x xs ih =>
      rw [List.cons_append]
      by_cases hx : cut x = true
      · rw [pieces_cons_of_cut hx, pieces_cons_of_cut hx, ih, List.cons_append]
      · have hx' : cut x = false := by simpa using hx
        obtain ⟨p, ps, hp⟩ := List.exists_cons_of_ne_nil (pieces_ne_nil cut xs)
        have happ : pieces cut (xs ++ a :: ys) = p :: (ps ++ pieces cut ys) := by
          rw [ih, hp, List.cons_append]
        rw [pieces_cons_of_not_cut hx' hp, pieces_cons_of_not_cut hx' happ, List.cons_append]

/-- What holds nothing to cut at goes to the front of the first piece. -/
lemma pieces_append_of_not_cut {xs : List α} (hxs : ∀ x ∈ xs, cut x = false) {ys p : List α} {ps : List (List α)}
    (h : pieces cut ys = p :: ps) : pieces cut (xs ++ ys) = (xs ++ p) :: ps := by
  induction xs with
  | nil => exact h
  | cons x xs ih =>
      exact pieces_cons_of_not_cut (hxs x List.mem_cons_self) (ih fun y hy => hxs y (List.mem_cons_of_mem x hy))

/-- A list with nothing to cut at is one piece. -/
lemma pieces_eq_singleton {as : List α} (h : ∀ a ∈ as, cut a = false) : pieces cut as = [as] := by
  induction as with
  | nil => rfl
  | cons a as ih =>
      exact pieces_cons_of_not_cut (h a List.mem_cons_self)
        (ih fun b hb => h b (List.mem_cons_of_mem a hb))

/-- What holds nothing to cut at stands at the end of the last piece. -/
lemma getLast?_pieces_append (xs : List α) {ys : List α} (hys : ∀ y ∈ ys, cut y = false) :
    ∃ p, (pieces cut (xs ++ ys)).getLast? = some (p ++ ys) := by
  induction xs with
  | nil => exact ⟨[], by rw [List.nil_append, pieces_eq_singleton hys]; rfl⟩
  | cons x xs ih =>
      obtain ⟨last, hlast⟩ := ih
      obtain ⟨p, ps, hp⟩ := List.exists_cons_of_ne_nil (pieces_ne_nil cut (xs ++ ys))
      rw [List.cons_append]
      by_cases hx : cut x = true
      · rw [pieces_cons_of_cut hx, hp, List.getLast?_cons_cons, ← hp]
        exact ⟨last, hlast⟩
      · rw [pieces_cons_of_not_cut (by simpa using hx) hp]
        rw [hp] at hlast
        cases ps with
        | nil =>
            obtain rfl := Option.some.inj hlast
            exact ⟨x :: last, rfl⟩
        | cons q ps =>
            rw [List.getLast?_cons_cons] at hlast ⊢
            exact ⟨last, hlast⟩

/-- A piece holds no element that is cut at. -/
lemma not_cut_of_mem_pieces {as p : List α} (hp : p ∈ pieces cut as) : ∀ a ∈ p, cut a = false := by
  induction as generalizing p with
  | nil =>
      rw [pieces, List.mem_singleton] at hp
      simp [hp]
  | cons a as ih =>
      by_cases ha : cut a = true
      · rw [pieces_cons_of_cut ha] at hp
        rcases List.mem_cons.mp hp with rfl | hp
        · simp
        · exact ih hp
      · have ha' : cut a = false := by simpa using ha
        obtain ⟨q, qs, hq⟩ := List.exists_cons_of_ne_nil (pieces_ne_nil cut as)
        rw [pieces_cons_of_not_cut ha' hq] at hp
        rcases List.mem_cons.mp hp with rfl | hp
        · intro b hb
          rcases List.mem_cons.mp hb with rfl | hb
          · exact ha'
          · exact ih (hq ▸ List.mem_cons_self) b hb
        · exact ih (hq ▸ List.mem_cons_of_mem q hp)

end Pieces

/-! ### Words -/

/-- A word: some characters, none of them blank. -/
structure IsWord (w : List Char) : Prop where
  nonempty : w ≠ []
  solid : ∀ c ∈ w, isBlank c = false

lemma isWord_iff {w : List Char} : IsWord w ↔ w.isEmpty = false ∧ (w.all fun c => !isBlank c) = true := by
  rw [List.all_eq_true]
  constructor
  · intro h
    exact ⟨by simpa using h.nonempty, fun c hc => by simp [h.solid c hc]⟩
  · rintro ⟨hne, hsolid⟩
    exact ⟨by simpa using hne, fun c hc => by simpa using hsolid c hc⟩

instance (w : List Char) : Decidable (IsWord w) := decidable_of_iff _ isWord_iff.symm

/-- Every field of a text is a word. -/
lemma isWord_of_mem_fieldsOf {s w : List Char} (h : w ∈ fieldsOf s) : IsWord w := by
  obtain ⟨hw, hne⟩ := List.mem_filter.mp h
  exact ⟨by simpa using hne, not_cut_of_mem_pieces hw⟩

@[simp] lemma fieldsOf_nil : fieldsOf [] = [] := rfl

/-- A word is the one field of itself. -/
lemma fieldsOf_eq_singleton {w : List Char} (h : IsWord w) : fieldsOf w = [w] := by
  rw [fieldsOf, pieces_eq_singleton h.solid]
  simp [h.nonempty]

/-- **Fields are cut at a blank.** -/
lemma fieldsOf_append_cons {c : Char} (hc : isBlank c = true) (s t : List Char) :
    fieldsOf (s ++ c :: t) = fieldsOf s ++ fieldsOf t := by
  rw [fieldsOf, pieces_append_cons hc, List.filter_append]
  rfl

/-- A text has the fields of its pieces, if it is cut at blanks. -/
lemma flatMap_fieldsOf_pieces {cut : Char → Bool} (hcut : ∀ c, cut c = true → isBlank c = true) (s : List Char) :
    (pieces cut s).flatMap fieldsOf = fieldsOf s := by
  obtain ⟨n, hn⟩ : ∃ n, n = s.length := ⟨_, rfl⟩
  induction n using Nat.strong_induction_on generalizing s with
  | _ n ih =>
      by_cases h : ∀ c ∈ s, cut c = false
      · rw [pieces_eq_singleton h, List.flatMap_singleton]
      · push Not at h
        obtain ⟨c, hc, hcc⟩ := h
        obtain ⟨before, after, rfl⟩ := List.append_of_mem hc
        have hcc' : cut c = true := by simpa using hcc
        rw [List.length_append, List.length_cons] at hn
        rw [pieces_append_cons hcc', List.flatMap_append, ih before.length (by omega) before rfl,
          ih after.length (by omega) after rfl, fieldsOf_append_cons (hcut c hcc')]

/-- A text that begins with a sign has a first field, which begins with it. -/
lemma exists_fieldsOf_cons {c : Char} (hc : isBlank c = false) (s : List Char) :
    ∃ w ws, fieldsOf (c :: s) = (c :: w) :: ws := by
  obtain ⟨p, ps, hp⟩ := List.exists_cons_of_ne_nil (pieces_ne_nil isBlank s)
  exact ⟨p, ps.filter fun q => !q.isEmpty, by rw [fieldsOf, pieces_cons_of_not_cut hc hp]; rfl⟩

/-- A blank at the front belongs to no field. -/
lemma fieldsOf_cons_blank {c : Char} (hc : isBlank c = true) (s : List Char) :
    fieldsOf (c :: s) = fieldsOf s := by
  simpa using fieldsOf_append_cons hc [] s

/-- A blank at the end belongs to no field. -/
lemma fieldsOf_append_blank {c : Char} (hc : isBlank c = true) (s : List Char) :
    fieldsOf (s ++ [c]) = fieldsOf s := by
  simpa using fieldsOf_append_cons hc s []

/-- **The blanks at the ends of a text belong to no field.** -/
lemma fieldsOf_trim (s : List Char) : fieldsOf (trim s) = fieldsOf s := by
  have hstart (s : List Char) : fieldsOf (trimStart s) = fieldsOf s := by
    induction s with
    | nil => rfl
    | cons c s ih =>
        rw [trimStart, List.dropWhile_cons]
        split_ifs with hc
        · rw [fieldsOf_cons_blank hc, ← ih, trimStart]
        · rfl
  have hend (s : List Char) : fieldsOf (trimEnd s) = fieldsOf s := by
    induction s using List.reverseRecOn with
    | nil => rfl
    | append_singleton s c ih =>
        rw [trimEnd, List.reverse_append, List.reverse_singleton, List.singleton_append, List.dropWhile_cons]
        split_ifs with hc
        · rw [fieldsOf_append_blank hc, ← ih, trimEnd]
        · rw [List.reverse_cons, List.reverse_reverse]
  rw [trim, hend, hstart]

/-- A blank at the end of a text goes when it is trimmed. -/
lemma trim_append_blank {c : Char} (hc : isBlank c = true) (s : List Char) : trim (s ++ [c]) = trim s := by
  have hend (s : List Char) : trimEnd (s ++ [c]) = trimEnd s := by
    rw [trimEnd, List.reverse_append, List.reverse_singleton, List.singleton_append, List.dropWhile_cons, if_pos hc,
      trimEnd]
  rw [trim, trimStart, List.dropWhile_append, trim, trimStart]
  split_ifs with hblank
  · rw [List.isEmpty_iff.mp hblank, List.dropWhile_cons, if_pos hc, List.dropWhile_nil]
  · exact hend _

/-- Blanks at the front belong to no field. -/
lemma fieldsOf_replicate_append {c : Char} (hc : isBlank c = true) (n : ℕ) (s : List Char) :
    fieldsOf (List.replicate n c ++ s) = fieldsOf s := by
  induction n with
  | zero => simp
  | succ n ih => rw [List.replicate_succ, List.cons_append, fieldsOf_cons_blank hc, ih]

/-- A word in front of a blank is the first field. -/
lemma fieldsOf_word_append {w : List Char} (hw : IsWord w) {c : Char} (hc : isBlank c = true)
    (s : List Char) : fieldsOf (w ++ c :: s) = w :: fieldsOf s := by
  rw [fieldsOf_append_cons hc, fieldsOf_eq_singleton hw, List.singleton_append]

/-- Words behind a blank each are the fields behind what stands before them. -/
lemma fieldsOf_append_words (s : List Char) {ws : List (List Char)} (hws : ∀ w ∈ ws, IsWord w) :
    fieldsOf (s ++ ws.flatMap fun w => ' ' :: w) = fieldsOf s ++ ws := by
  induction ws generalizing s with
  | nil => simp
  | cons w ws ih =>
      have hw := hws w List.mem_cons_self
      have hrest := ih (' ' :: w) fun v hv => hws v (List.mem_cons_of_mem w hv)
      calc fieldsOf (s ++ (w :: ws).flatMap fun w => ' ' :: w)
          = fieldsOf (s ++ ' ' :: (w ++ ws.flatMap fun w => ' ' :: w)) := by simp
        _ = fieldsOf s ++ fieldsOf (w ++ ws.flatMap fun w => ' ' :: w) :=
            fieldsOf_append_cons rfl _ _
        _ = fieldsOf s ++ fieldsOf (' ' :: w ++ ws.flatMap fun w => ' ' :: w) := by
            rw [List.cons_append, fieldsOf_cons_blank rfl]
        _ = fieldsOf s ++ w :: ws := by
            rw [hrest, fieldsOf_cons_blank rfl, fieldsOf_eq_singleton hw, List.singleton_append]

/-! ### Parts of a text -/

lemma containsChars_iff {part s : List Char} : containsChars part s = true ↔ part <:+: s := by
  induction s with
  | nil => rw [containsChars, List.isEmpty_iff, List.infix_nil]
  | cons c s ih => rw [containsChars, Bool.or_eq_true, List.isPrefixOf_iff_prefix, ih, List.infix_cons_iff]

end LinearProgram
