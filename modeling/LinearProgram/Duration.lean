/-!
Spans of time, counted in nanoseconds.

* `Duration.text`: the text of a span in the largest of four units that it reaches, with as many places as it
  needs.
-/

namespace LinearProgram

/-- A span of time. -/
structure Duration where
  nanos : Nat
  deriving DecidableEq

namespace Duration

/-- The span of some microseconds. -/
def ofMicros (n : Nat) : Duration := ⟨n * 1000⟩

/-- The whole microseconds of a span. -/
def micros (d : Duration) : Nat := d.nanos / 1000

/-- The digits of a fraction with the given number of places, without the zeros at its end. -/
def places : Nat → Nat → List Char
  | 0, _ => []
  | n + 1, fraction =>
    if fraction = 0 then []
    else Nat.digitChar (fraction / Nat.pow 10 n) :: places n (fraction % Nat.pow 10 n)

/-- A span as a number of units of `10 ^ scale` nanoseconds. -/
def inUnits (d : Duration) (scale : Nat) (unit : String) : String :=
  let fraction := String.ofList (places scale (d.nanos % Nat.pow 10 scale))
  toString (d.nanos / Nat.pow 10 scale) ++ (if fraction.isEmpty then "" else "." ++ fraction) ++ unit

/-- The text of a span. -/
def text (d : Duration) : String :=
  if 1000000000 ≤ d.nanos then d.inUnits 9 "s"
  else if 1000000 ≤ d.nanos then d.inUnits 6 "ms"
  else if 1000 ≤ d.nanos then d.inUnits 3 "µs"
  else d.inUnits 0 "ns"

instance : ToString Duration := ⟨text⟩

end Duration

end LinearProgram
