/-!
The journal: messages about what the library does, each with a level.

* `Level`, `Entry`: a message and how much it matters.
* `Entry.atLeast`: whether an entry is shown at a given level.
* `Logged`: a value together with the entries written while it was found.
-/

namespace LinearProgram

/-- How much a message matters. -/
inductive Level where
  | warn
  | info
  | debug
  deriving DecidableEq

namespace Level

/-- The name of a level. -/
def name : Level → String
  | warn => "WARN"
  | info => "INFO"
  | debug => "DEBUG"

/-- The place of a level, the most severe first. -/
def rank : Level → Nat
  | warn => 0
  | info => 1
  | debug => 2

end Level

/-- A message of the journal. -/
structure Entry where
  level : Level
  message : String
  deriving DecidableEq

namespace Entry

/-- A warning. -/
def warn (message : String) : Entry := ⟨.warn, message⟩

/-- A message for information. -/
def info (message : String) : Entry := ⟨.info, message⟩

/-- A message for tracing. -/
def debug (message : String) : Entry := ⟨.debug, message⟩

/-- Whether an entry is at least as severe as a level. -/
def atLeast (level : Level) (e : Entry) : Bool := decide (e.level.rank ≤ level.rank)

/-- An entry as a line. -/
def text (e : Entry) : String := e.level.name ++ " " ++ e.message

end Entry

/-- A value together with the entries written to the journal while it was found. -/
structure Logged (α : Type) where
  value : α
  entries : List Entry

namespace Logged

/-- A value found without a word. -/
def silent {α : Type} (value : α) : Logged α := ⟨value, []⟩

/-- Another value with the same entries. -/
def map {α β : Type} (f : α → β) (l : Logged α) : Logged β := ⟨f l.value, l.entries⟩

end Logged

end LinearProgram
