import LinearProgram.Document.Render
import LinearProgram.Host.Basic

/-!
Writing a problem to a temporary file.

* `Problem.save`: the LP text under a new name that begins with the problem's own.
-/

namespace LinearProgram

namespace Problem

/-- A name with an underscore for each slash of either kind, so that it is one name in a path. -/
def asFileName (name : String) : String :=
  String.ofList (name.toList.map fun c => if c = '/' ∨ c = '\\' then '_' else c)

/-- Write the LP text of a problem to a new temporary file and return its path. Only the LP text format can
be written. -/
def save (p : Problem) (format : ProblemFormat) : HostM String := do
  if format ≠ .cplex then throw (.unsupportedFormat p.name format.name)
  let document ← Host.logged (.silent p.document)
  let path ← Host.makeTemporary (asFileName p.name ++ "-") ".lp"
  Host.note document.warnings
  Host.discardOnError path (Host.write path (Utf8.encode (document.text 0)))
  Host.note [.debug s!"{p.name}: problem written to {path}"]
  pure path

end Problem

end LinearProgram
