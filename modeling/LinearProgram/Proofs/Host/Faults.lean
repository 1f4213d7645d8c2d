import Mathlib.Tactic
import LinearProgram.Host.Files

/-!
Faults of the store are no faults of a text.

The store knows nothing of texts, so none of its operations fails because bytes are no text. A failure of that kind can
only come from a report that has been read.

* `Files.walk_ne_invalidData`, `Files.read_ne_invalidData`, `Files.write_ne_invalidData`: operations of the store.
-/

namespace LinearProgram

namespace Files

variable {fs : Files} {through : Bool} {path : String}

lemma bind_ne_error {α β : Type} {fault : FileFault} {x : Except FileFault α} {f : α → Except FileFault β}
    (hx : x ≠ .error fault) (hf : ∀ a, f a ≠ .error fault) : (x >>= f) ≠ .error fault := by
  cases x with
  | error e => exact fun h => hx (congrArg Except.error (Except.error.inj h))
  | ok a => exact hf a

lemma walkWith_ne_invalidData {follow : Place → List String → Except FileFault Place}
    (hfollow : ∀ place names, follow place names ≠ .error .invalidData) (place : Place) (names : List String) :
    fs.walkWith through follow place names ≠ .error .invalidData := by
  induction names generalizing place with
  | nil => simp [walkWith]
  | cons name names ih =>
      rw [walkWith]
      split
      · simp
      · simp
      · simp
      · simp
      · split_ifs
        · exact ih _
        · exact ih _
        · simp
        · split
          · simp
          · exact ih _
        · split
          · exact hfollow _ _
          · exact ih _

lemma walk_ne_invalidData (links : ℕ) (place : Place) (names : List String) :
    fs.walk through links place names ≠ .error .invalidData := by
  induction links generalizing place names with
  | zero => exact walkWith_ne_invalidData (fun _ _ => by simp) _ _
  | succ links ih => exact walkWith_ne_invalidData ih _ _

lemma locateWith_ne_invalidData : fs.locateWith through path ≠ .error .invalidData := by
  rw [locateWith]
  split_ifs
  · simp
  · simp
  · simp
  · exact walk_ne_invalidData _ _ _

lemma find_ne_invalidData : fs.find path ≠ .error .invalidData := by
  refine bind_ne_error locateWith_ne_invalidData fun place => ?_
  split <;> simp

lemma number_ne_invalidData : fs.number path ≠ .error .invalidData := by
  refine bind_ne_error find_ne_invalidData fun found => ?_
  split <;> simp

lemma read_ne_invalidData : fs.read path ≠ .error .invalidData := by
  rw [read, file]
  have hnumber : fs.number path ≠ .error .invalidData := number_ne_invalidData
  split_ifs
  · simp
  · cases h : fs.number path with
    | error fault => simpa [Except.map, h] using hnumber
    | ok n => simp [Except.map]

lemma openWritten_ne_invalidData : fs.openWritten path ≠ .error .invalidData := by
  refine bind_ne_error (bind_ne_error locateWith_ne_invalidData fun place => ?_) fun place => ?_
  · split_ifs <;> simp
  · rw [openAt]
    split <;> simp

lemma write_ne_invalidData {bytes : List UInt8} : fs.write path bytes ≠ .error .invalidData := by
  rw [write]
  split
  · rw [writeDevice]
    split_ifs <;> simp
  · exact bind_ne_error openWritten_ne_invalidData fun opened => by simp

end Files

end LinearProgram
