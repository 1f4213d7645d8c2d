import LinearProgram.Bounds
import LinearProgram.Problem.Basic

/-!
LP documents: a problem laid out in the sections of the LP text, before it is text.

A document holds what the text shows and, beside each integer, the number it stands for, so that the text
and the warnings about altered numbers both come from it.

* `Term`: a column with the sign and the factor that are written for its coefficient.
* `Relation`: what follows the sum in a constraint.
* `Document`: the sections.
* `Document.warnings`: a warning for each number that is not written as it is, in the order of the text.
-/

namespace LinearProgram

/-- A term of a sum. A factor of one is not written. -/
structure Term where
  negative : Bool
  factor : Option Rounded
  column : String
  deriving DecidableEq

/-- The warning about a factor that is not the one it is written for. -/
def Term.warnings (t : Term) : List Entry :=
  match t.factor with
  | none => []
  | some r =>
    if r.isFaithful then []
    else [.warn s!"lp_format: coefficient {r.value.text} of '{t.column}' rendered as {r.written}"]

/-- What a constraint says about its sum. -/
inductive Relation where
  /-- The sum equals the slack variable of the given number, whose range is given elsewhere. -/
  | slack (number : Nat)
  /-- The sum is at least a limit. -/
  | atLeast (limit : Limit)
  /-- The sum is at most a limit. -/
  | atMost (limit : Limit)
  /-- The sum equals a number. -/
  | equals (value : Binary64)
  deriving DecidableEq

/-- The warnings of a relation. -/
def Relation.warnings : Relation → List Entry
  | atLeast limit | atMost limit => limit.warnings
  | _ => []

/-- A constraint. -/
structure Constraint where
  name : String
  terms : List Term
  relation : Relation
  deriving DecidableEq

/-- The range of a variable. -/
structure Range where
  name : String
  lower : Limit
  upper : Limit
  deriving DecidableEq

/-- The warnings of a range. -/
def Range.warnings (r : Range) : List Entry := r.lower.warnings ++ r.upper.warnings

/-- The sections of an LP text. -/
structure Document where
  title : String
  direction : Direction
  objective : List Term
  constraints : List Constraint
  ranges : List Range
  generals : List String
  binaries : List String
  deriving DecidableEq

/-- The warnings of a document. -/
def Document.warnings (d : Document) : List Entry :=
  d.objective.flatMap Term.warnings
    ++ d.constraints.flatMap (fun c => c.terms.flatMap Term.warnings ++ c.relation.warnings)
    ++ d.ranges.flatMap Range.warnings

end LinearProgram
