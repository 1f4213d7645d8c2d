import Mathlib.Data.List.DropRight
import LinearProgram.Proofs.Text.Encoding
import LinearProgram.Proofs.Text.Fields
import LinearProgram.Text.Line

/-!
The lines of a text: those that are ended, and the unfinished one behind them.

* `ended`: lines behind one another, each with its end.
* `IsCut`: a text as ended lines and an unfinished one; `exists_isCut`, `IsCut.append`: **every text is cut in one way,
  and what is put behind it goes on from its unfinished line.**
* `IsCut.linesWith`: its lines; `exists_linesWith_take`: **a text can be cut off behind any of them.**
* `linesWith_ended`: **ended lines are cut at their ends.**
* `fileLines_encode_text`: **a file holds the lines of its text**; `fileLines_encode`: a file of ended lines holds
  these.
* `firstLines`, `firstLines_ended`: a text cut off behind some of its lines.
-/

namespace LinearProgram

/-- Lines behind one another, each with its end. -/
def ended {α : Type} (feed : α) (ls : List (List α)) : List α := ls.flatMap fun l => l ++ [feed]

lemma ended_append {α : Type} (feed : α) (ls ms : List (List α)) :
    ended feed (ls ++ ms) = ended feed ls ++ ended feed ms :=
  List.flatMap_append

/-- A text is cut into ended lines and what follows the last line end. -/
structure IsCut {α : Type} (feed : α) (as : List α) (ls : List (List α)) (unfinished : List α) : Prop where
  whole : as = ended feed ls ++ unfinished
  lines : ∀ l ∈ ls, feed ∉ l
  rest : feed ∉ unfinished

/-- What is put behind a text goes on from its unfinished line. -/
lemma IsCut.append {α : Type} {feed : α} {as bs u v : List α} {ls ms : List (List α)} (h : IsCut feed as ls u)
    (h' : IsCut feed (u ++ bs) ms v) : IsCut feed (as ++ bs) (ls ++ ms) v where
  whole := by rw [h.whole, List.append_assoc, h'.whole, ended_append, List.append_assoc]
  lines l hl := (List.mem_append.mp hl).elim (h.lines l) (h'.lines l)
  rest := h'.rest

section Cutting

variable {α : Type} [DecidableEq α] {feed ret : α}

instance (as : List α) (ls : List (List α)) (unfinished : List α) : Decidable (IsCut feed as ls unfinished) :=
  decidable_of_iff (as = ended feed ls ++ unfinished ∧ (∀ l ∈ ls, feed ∉ l) ∧ feed ∉ unfinished)
    ⟨fun ⟨h, h', h''⟩ => ⟨h, h', h''⟩, fun h => ⟨h.whole, h.lines, h.rest⟩⟩

/-- The pieces between the line ends are the ended lines and the unfinished one. -/
lemma IsCut.pieces {as unfinished : List α} {ls : List (List α)} (h : IsCut feed as ls unfinished) :
    pieces (fun a => a = feed) as = ls ++ [unfinished] := by
  obtain ⟨rfl, hlines, hrest⟩ := h
  induction ls with
  | nil =>
      refine pieces_eq_singleton fun a ha => decide_eq_false ?_
      rintro rfl
      exact hrest ha
  | cons l ls ih =>
      have hl : ∀ a ∈ l, decide (a = feed) = false := by
        intro a ha
        rw [decide_eq_false_iff_not]
        rintro rfl
        exact hlines l List.mem_cons_self ha
      have htail := ih fun m hm => hlines m (List.mem_cons_of_mem l hm)
      rw [ended, List.flatMap_cons, List.append_assoc, List.append_assoc, List.singleton_append,
        pieces_append_cons (by simp), pieces_eq_singleton hl, ← ended, htail]
      rfl

lemma IsCut.unique {as u v : List α} {ls ms : List (List α)} (h : IsCut feed as ls u) (h' : IsCut feed as ms v) :
    ls = ms ∧ u = v := by
  obtain ⟨hlines, hrest⟩ := List.append_inj' (h.pieces.symm.trans h'.pieces) rfl
  exact ⟨hlines, List.singleton_inj.mp hrest⟩

/-- What stands in front of the unfinished line ends with the last line end. -/
lemma IsCut.rdropWhile {as unfinished : List α} {ls : List (List α)} (h : IsCut feed as ls unfinished) :
    as.rdropWhile (fun a => a ≠ feed) = ended feed ls := by
  obtain ⟨rfl, -, hrest⟩ := h
  induction unfinished using List.reverseRecOn with
  | nil =>
      rw [List.append_nil]
      cases ls using List.reverseRecOn with
      | nil => rfl
      | append_singleton ls l =>
          have hended : ended feed (ls ++ [l]) = ended feed ls ++ l ++ [feed] := by
            rw [ended_append, List.append_assoc]
            simp [ended]
          rw [hended, List.rdropWhile_concat_neg _ _ _ (by simp)]
  | append_singleton cs c ih =>
      rw [List.mem_append, List.mem_singleton, not_or] at hrest
      rw [← List.append_assoc, List.rdropWhile_concat_pos _ _ _ (by simpa using Ne.symm hrest.2), ih hrest.1]

/-- **Every text is cut into ended lines and an unfinished one.** -/
lemma exists_isCut (feed : α) (as : List α) : ∃ ls unfinished, IsCut feed as ls unfinished := by
  induction as with
  | nil => exact ⟨[], [], ⟨rfl, by simp, by simp⟩⟩
  | cons a as ih =>
      obtain ⟨ls, unfinished, hcut⟩ := ih
      by_cases ha : a = feed
      · subst ha
        refine ⟨[] :: ls, unfinished, ⟨by rw [hcut.whole]; rfl, fun l hl => ?_, hcut.rest⟩⟩
        rcases List.mem_cons.mp hl with rfl | hl
        · simp
        · exact hcut.lines l hl
      · cases ls with
        | nil =>
            refine ⟨[], a :: unfinished, ⟨by rw [hcut.whole]; rfl, by simp, ?_⟩⟩
            rw [List.mem_cons, not_or]
            exact ⟨Ne.symm ha, hcut.rest⟩
        | cons l ls =>
            refine ⟨(a :: l) :: ls, unfinished, ⟨by rw [hcut.whole]; rfl, fun m hm => ?_, hcut.rest⟩⟩
            rcases List.mem_cons.mp hm with rfl | hm
            · rw [List.mem_cons, not_or]
              exact ⟨Ne.symm ha, hcut.lines l List.mem_cons_self⟩
            · exact hcut.lines m (List.mem_cons_of_mem l hm)

/-- The lines of a text, by how it is cut. -/
lemma IsCut.linesWith {as unfinished : List α} {ls : List (List α)} (h : IsCut feed as ls unfinished) :
    linesWith feed ret as = ls.map (dropReturn ret) ++ (if unfinished.isEmpty then [] else [unfinished]) := by
  rw [LinearProgram.linesWith, h.pieces]
  simp only [List.dropLast_concat, List.getLast?_concat, Option.getD_some]

/-- **A text can be cut off behind any of its lines.** -/
lemma exists_linesWith_take (feed ret : α) (as : List α) (k : ℕ) :
    ∃ bs, bs <+: as ∧ linesWith feed ret bs = (linesWith feed ret as).take k := by
  obtain ⟨ls, unfinished, hcut⟩ := exists_isCut feed as
  by_cases hk : k ≤ ls.length
  · have hhead : IsCut feed (ended feed (ls.take k)) (ls.take k) [] :=
      ⟨(List.append_nil _).symm, fun l hl => hcut.lines l (List.mem_of_mem_take hl), by simp⟩
    refine ⟨ended feed (ls.take k), ⟨ended feed (ls.drop k) ++ unfinished, ?_⟩, ?_⟩
    · rw [← List.append_assoc, ← ended_append, List.take_append_drop, hcut.whole]
    · have hlength : k ≤ (ls.map (dropReturn ret)).length := by rwa [List.length_map]
      rw [hhead.linesWith, hcut.linesWith, List.take_append_of_le_length hlength, List.map_take, List.isEmpty_nil,
        if_pos rfl, List.append_nil]
  · refine ⟨as, List.prefix_refl as, (List.take_of_length_le ?_).symm⟩
    rw [hcut.linesWith, List.length_append, List.length_map]
    split_ifs <;> simp <;> omega

/-- **Ended lines are cut at their ends.** -/
lemma linesWith_ended {ls : List (List α)} (hfeed : ∀ l ∈ ls, feed ∉ l) (hret : ∀ l ∈ ls, ret ∉ l) :
    linesWith feed ret (ended feed ls) = ls := by
  have hkeep : ∀ l ∈ ls, dropReturn ret l = l := by
    intro l hl
    rw [dropReturn, if_neg]
    intro hlast
    exact hret l hl (List.mem_of_getLast? hlast)
  have hcut : IsCut feed (ended feed ls) ls [] := ⟨(List.append_nil _).symm, hfeed, by simp⟩
  rw [hcut.linesWith, List.isEmpty_nil, if_pos rfl, List.append_nil]
  exact (List.map_congr_left hkeep).trans (List.map_id ls)

end Cutting

/-! ### Files -/

/-- A line of text: it holds neither of the characters that end lines. -/
structure IsLine (l : List Char) : Prop where
  feed : '\n' ∉ l
  ret : '\r' ∉ l

lemma encodeChars_ended (ls : List (List Char)) :
    Utf8.encodeChars (ended '\n' ls) = ended 10 (ls.map Utf8.encodeChars) := by
  induction ls with
  | nil => rfl
  | cons l ls ih =>
      rw [ended, List.flatMap_cons, ← ended, Utf8.encodeChars_append, Utf8.encodeChars_append, ih]
      rfl

/-- An ASCII byte of a text is a character of the text. -/
lemma mem_of_mem_encodeChars {cs : List Char} {b : UInt8} {c : Char} (hb : b.toNat = c.toNat)
    (hascii : c.toNat < 0x80) (h : b ∈ Utf8.encodeChars cs) : c ∈ cs := by
  obtain ⟨d, hd, hbd⟩ := List.mem_flatMap.mp h
  have hdc : d.toNat = c.toNat := by
    rcases Utf8.mem_encodeChar hbd with heq | ⟨hlarge, -⟩
    · omega
    · omega
  rw [← Char.toNat_inj.mp hdc]
  exact hd

lemma encodeChars_eq_nil_iff {cs : List Char} : Utf8.encodeChars cs = [] ↔ cs = [] := by
  cases cs with
  | nil => simp [Utf8.encodeChars]
  | cons c cs =>
      have hchar : String.utf8EncodeChar c ≠ [] := by
        have hsize := Char.utf8Size_pos c
        rw [← String.length_utf8EncodeChar] at hsize
        exact List.ne_nil_of_length_pos hsize
      simp [Utf8.encodeChars, hchar]

/-- The carriage return that may end a line is one byte of it. -/
lemma dropReturn_encodeChars (l : List Char) :
    dropReturn 13 (Utf8.encodeChars l) = Utf8.encodeChars (dropReturn '\r' l) := by
  induction l using List.reverseRecOn with
  | nil => rfl
  | append_singleton init c _ =>
      rw [dropReturn, dropReturn, List.getLast?_concat, List.dropLast_concat, Utf8.encodeChars_append]
      by_cases hc : c = '\r'
      · subst hc
        have hret : Utf8.encodeChars ['\r'] = [13] := rfl
        rw [hret, List.getLast?_concat, if_pos rfl, if_pos rfl, List.dropLast_concat]
      · have hlast : (Utf8.encodeChars init ++ Utf8.encodeChars [c]).getLast? ≠ some 13 := by
          intro h
          rw [List.getLast?_append_of_ne_nil _ (by simp [encodeChars_eq_nil_iff])] at h
          have hmem := mem_of_mem_encodeChars (c := '\r') (by decide) (by decide) (List.mem_of_getLast? h)
          exact hc (List.mem_singleton.mp hmem).symm
        rw [if_neg hlast, if_neg fun h => hc (Option.some.inj h), Utf8.encodeChars_append]

/-- **A file holds the lines of its text.** -/
lemma fileLines_encode_text (s : String) : fileLines (Utf8.encode s) = (textLines s).map .text := by
  obtain ⟨ls, unfinished, hcut⟩ := exists_isCut '\n' s.toList
  have hfeed : ∀ {l : List Char}, '\n' ∉ l → (10 : UInt8) ∉ Utf8.encodeChars l := fun h hmem =>
    h (mem_of_mem_encodeChars (by decide) (by decide) hmem)
  have hbytes : IsCut 10 (Utf8.encodeChars s.toList) (ls.map Utf8.encodeChars) (Utf8.encodeChars unfinished) := by
    refine ⟨?_, fun bs hbs => ?_, hfeed hcut.rest⟩
    · rw [hcut.whole, Utf8.encodeChars_append, encodeChars_ended]
    · obtain ⟨l, hl, rfl⟩ := List.mem_map.mp hbs
      exact hfeed (hcut.lines l hl)
  have hdecode : ∀ l : List Char, Line.ofBytes (Utf8.encodeChars l) = .text (String.ofList l) := fun l => by
    rw [Line.ofBytes, Utf8.decode?_encodeChars]
  have hlines : linesOfBytes (Utf8.encode s) = (linesWith '\n' '\r' s.toList).map Utf8.encodeChars := by
    rw [linesOfBytes, Utf8.encode, hbytes.linesWith, hcut.linesWith, List.map_append, List.map_map, List.map_map]
    refine congrArg₂ _ (List.map_congr_left fun l _ => dropReturn_encodeChars l) ?_
    cases unfinished with
    | nil => rfl
    | cons c cs => rw [List.isEmpty_cons, if_neg Bool.false_ne_true, if_neg (by simp [encodeChars_eq_nil_iff])]; rfl
  rw [fileLines, hlines, textLines, List.map_map, List.map_map]
  exact List.map_congr_left fun l _ => hdecode l

/-- **A file of ended lines holds these lines.** -/
lemma fileLines_encode {ls : List (List Char)} (h : ∀ l ∈ ls, IsLine l) :
    fileLines (Utf8.encodeChars (ended '\n' ls)) = ls.map fun l => .text (String.ofList l) := by
  have htext := fileLines_encode_text (String.ofList (ended '\n' ls))
  have hlines : linesWith '\n' '\r' (ended '\n' ls) = ls :=
    linesWith_ended (fun l hl => (h l hl).feed) fun l hl => (h l hl).ret
  rw [Utf8.encode, textLines, String.toList_ofList, hlines, List.map_map] at htext
  exact htext

/-! ### Texts that are cut off -/

/-- A file can be cut off behind any of its lines. -/
lemma exists_fileLines_take (bytes : List UInt8) (k : ℕ) :
    ∃ cut, cut <+: bytes ∧ fileLines cut = (fileLines bytes).take k := by
  obtain ⟨cut, hprefix, hlines⟩ := exists_linesWith_take 10 13 bytes k
  refine ⟨cut, hprefix, ?_⟩
  rw [fileLines, linesOfBytes, hlines, List.map_take]
  rfl

/-- The first lines of a text, with their ends. -/
def firstLines : ℕ → List Char → List Char
  | 0, _ => []
  | _ + 1, [] => []
  | k + 1, c :: cs => c :: (if c = '\n' then firstLines k cs else firstLines (k + 1) cs)

lemma firstLines_line {l : List Char} (h : '\n' ∉ l) (k : ℕ) (cs : List Char) :
    firstLines (k + 1) (l ++ '\n' :: cs) = l ++ '\n' :: firstLines k cs := by
  induction l with
  | nil => rfl
  | cons c l ih =>
      have hc : c ≠ '\n' := fun hc => h (hc ▸ List.mem_cons_self)
      rw [List.cons_append, firstLines, if_neg hc, ih fun hmem => h (List.mem_cons_of_mem c hmem)]
      rfl

/-- **The first lines of ended lines are the first of them.** -/
lemma firstLines_ended {ls : List (List Char)} (h : ∀ l ∈ ls, '\n' ∉ l) (k : ℕ) :
    firstLines k (ended '\n' ls) = ended '\n' (ls.take k) := by
  induction ls generalizing k with
  | nil => cases k <;> rfl
  | cons l ls ih =>
      cases k with
      | zero =>
          rw [firstLines.eq_def, List.take_zero]
          rfl
      | succ k =>
          have hl := h l List.mem_cons_self
          have hrest := ih (fun m hm => h m (List.mem_cons_of_mem l hm)) k
          rw [ended, List.flatMap_cons, List.append_assoc, List.singleton_append, ← ended,
            firstLines_line hl, hrest, List.take_succ_cons, ended, ended, List.flatMap_cons, List.append_assoc]
          rfl

end LinearProgram
