import LinearProgram.Script.Utility.Value

/-!
Numbers in a row.

A number is kept exactly, as it is written, so that no step is lost on the way to the last one.

* `Scaled`: a number with a point, in units of its last place.
* `NumberFormat`: what stands around a number, and how the number is written.
* `seq`: the numbers from one to another in equal steps.
-/

namespace LinearProgram

namespace Script

namespace Utility

/-! ### Numbers with a point -/

/-- A number with a point, in units that are told by the number of its places. -/
structure Scaled where
  units : Int
  places : Nat
  /-- How many characters it takes to write the number out, if that is known. -/
  width : Nat

namespace Scaled

/-- What a word without digits stands for that is greater than all numbers in use. -/
def boundless : Nat := Nat.pow 10 20

/-- The number of digits around a point with an exponent. -/
def ofParts (negative hasPoint : Bool) (whole places : ByteText) (e : Int) : Scaled :=
  let raised := e.toNat - places.length
  let shown := places.length - e.toNat + (-e).toNat
  let magnitude : Int := valueOfDigits (whole ++ places) * Nat.pow 10 raised
  let front := if whole.isEmpty then 1 else whole.length
  let lowered := if e < 0 then (-e).toNat + (if hasPoint && !places.isEmpty then 0 else 1) else 0
  let kept := if places.isEmpty || 0 ≤ e && shown = 0 then 0 else places.length + 1
  let cut := if 0 ≤ e && shown = 0 then places.length else 0
  ⟨if negative then -magnitude else magnitude, shown,
    (if negative then 1 else 0) + front + kept + cut + lowered + raised⟩

/-- The number that a text writes. -/
def ofText? (t : ByteText) : Option Scaled :=
  let (negative, body) := signedFront t
  let signed (n : Nat) : Int := if negative then -(n : Int) else n
  if ["inf", "infinity"].contains (String.ofList (body.map Char.toLower)) then some ⟨signed boundless, 0, 0⟩
  else if beginsHex body then
    (valueToBase? 16 (body.drop 2)).map fun n => ⟨signed n, 0, 0⟩
  else
    match pointedFront? 10 body with
    | none => none
    | some (whole, places, rest) =>
      let (e, rest) := exponentFront 'e' rest
      if rest.isEmpty && e.natAbs < 4096 then some (ofParts negative (body.contains '.') whole places e) else none

/-- A number in units that fit a greater number of places. -/
def unitsAt (s : Scaled) (places : Nat) : Int := s.units * Nat.pow 10 (places - s.places)

/-- The text of a number given in units. -/
def text (places : Nat) (units : Int) : ByteText :=
  let ds := ByteText.ofNat units.natAbs
  let ds := List.replicate (places + 1 - ds.length) '0' ++ ds
  let whole := ds.take (ds.length - places)
  (if units < 0 then ['-'] else []) ++ whole ++ (if places = 0 then [] else '.' :: ds.drop whole.length)

/-- How many characters it takes to write a number out with a number of places. -/
def widthAt (s : Scaled) (places : Nat) : Nat :=
  let point := if s.places = 0 && 0 < places then 1 else 0
  let noPoint := if 0 < s.places && places = 0 then 1 else 0
  s.width + places + point - s.places - noPoint

end Scaled

/-! ### Formats -/

/-- What stands around a number, and how the number is written. -/
structure NumberFormat where
  before : ByteText
  conversion : Conversion
  letter : Char
  after : ByteText

namespace NumberFormat

/-- The text up to the next conversion with doubled signs as single ones, and what follows the sign of the conversion,
if there is one. -/
def plainFront : ByteText → ByteText × Option ByteText
  | '%' :: '%' :: cs =>
    let (plain, behind) := plainFront cs
    ('%' :: plain, behind)
  | '%' :: cs => ([], some cs)
  | c :: cs =>
    let (plain, behind) := plainFront cs
    (c :: plain, behind)
  | [] => ([], none)

/-- The format that a text writes, or what is wrong with it. -/
def ofText (t : ByteText) : Except ByteText NumberFormat :=
  let wrong (reason : ByteText) : Except ByteText NumberFormat :=
    .error ("format ".toList ++ quoted t ++ ' ' :: reason)
  match plainFront t with
  | (_, none) => wrong "has no % directive".toList
  | (before, some behind) =>
    let flags := behind.takeWhile "-+#0 '".toList.contains
    let behind := behind.drop flags.length
    let width := behind.takeWhile isDigit
    let behind := behind.drop width.length
    let places := if behind.head? = some '.' then some ((behind.drop 1).takeWhile isDigit) else none
    let behind := (places.map fun ds => behind.drop (ds.length + 1)).getD behind
    match if behind.head? = some 'L' then behind.drop 1 else behind with
    | [] => wrong "ends in %".toList
    | letter :: rest =>
      if !"efgaEFGA".toList.contains letter then wrong ("has unknown %".toList ++ letter :: " directive".toList)
      else
        match plainFront rest with
        | (_, some _) => wrong "has too many % directives".toList
        | (after, none) =>
          .ok ⟨before, ⟨flags, valueOfDigits width, places.map valueOfDigits⟩, letter, after⟩

/-- A number in a format. -/
def apply (f : NumberFormat) (t : ByteText) : ByteText :=
  let number := match realFront? t with
    | some front => f.conversion.real f.letter front.value
    | none => t
  f.before ++ number ++ f.after

end NumberFormat

/-! ### Options -/

/-- Whether an argument is a number with a sign, and not an option. -/
def isSignedNumber : ByteText → Bool
  | '-' :: c :: _ => c = '.' || c.isDigit
  | _ => false

/-- The options and operands of `seq`, in which a number may have a sign. -/
def sequenceOptions : Nat → List ByteText → Except ByteText Options
  | 0, operands => .ok ⟨[], operands⟩
  | _, [] => .ok ⟨[], []⟩
  | fuel + 1, argument :: rest =>
    if argument = ['-', '-'] then .ok ⟨[], rest⟩
    else if argument = ['-'] || isSignedNumber argument || argument.head? ≠ some '-' then .ok ⟨[], argument :: rest⟩
    else if "--".toList.isPrefixOf argument then
      let long := [("separator", 's'), ("format", 'f'), ("equal-width", 'w')]
      match Options.ofLongName long (argument.drop 2), rest with
      | some ((_, 'w'), _), rest => do
        let o ← sequenceOptions fuel rest
        .ok { o with given := ('w', []) :: o.given }
      | some ((_, letter), some value), rest => do
        let o ← sequenceOptions fuel rest
        .ok { o with given := (letter, value) :: o.given }
      | some ((_, letter), none), value :: rest => do
        let o ← sequenceOptions fuel rest
        .ok { o with given := (letter, value) :: o.given }
      | some ((whole, _), none), [] =>
        .error ("option '--".toList ++ whole.toList ++ "' requires an argument".toList)
      | none, _ => .error ("unrecognized option ".toList ++ enclosed argument)
    else do
      let (given, rest) ← Options.readLetters ['w'] ['s', 'f'] (argument.drop 1) rest
      let o ← sequenceOptions fuel rest
      .ok { o with given := given ++ o.given }

/-! ### Rows -/

/-- Numbers in equal steps. -/
structure Row where
  first : Scaled
  step : Scaled
  last : Scaled

namespace Row

/-- The row that operands tell, or what is wrong with them. -/
def ofOperands (operands : List ByteText) : Except ByteText Row :=
  let one : Scaled := ⟨1, 0, 1⟩
  match operands with
  | [last] => do .ok ⟨one, one, ← number last⟩
  | [first, last] => do .ok ⟨← number first, one, ← number last⟩
  | [first, step, last] => do
    let first ← number first
    let width ← number step
    if width.units = 0 then .error ("invalid Zero increment value: ".toList ++ quoted step)
    else .ok ⟨first, width, ← number last⟩
  | [] => .error "missing operand".toList
  | _ :: _ :: _ :: extra :: _ => .error ("extra operand ".toList ++ quoted extra)
where
  /-- The number that an operand writes. -/
  number (t : ByteText) : Except ByteText Scaled :=
    match Scaled.ofText? t with
    | some s => .ok s
    | none =>
      if ["nan", "-nan", "+nan"].contains (String.ofList (t.map Char.toLower)) then
        .error ("invalid ".toList ++ quoted "not-a-number".toList ++ " argument: ".toList ++ quoted t)
      else .error ("invalid floating point argument: ".toList ++ quoted t)

/-- The number of places that are shown. -/
def shownPlaces (r : Row) : Nat := max r.first.places r.step.places

/-- The number of places in which all of the row is reckoned. -/
def places (r : Row) : Nat := max r.shownPlaces r.last.places

/-- How many numbers there are. -/
def count (r : Row) : Nat :=
  let (first, step, last) := (r.first.unitsAt r.places, r.step.unitsAt r.places, r.last.unitsAt r.places)
  (if 0 < step then (last - first) / step + 1 else (first - last) / (-step) + 1).toNat

/-- The text of the number at a place, from nought on. -/
def textAt (r : Row) (n : Nat) : ByteText :=
  let units := r.first.unitsAt r.places + r.step.unitsAt r.places * (n : Int)
  Scaled.text r.shownPlaces (units / (Nat.pow 10 (r.places - r.shownPlaces) : Nat))

/-- The width that all numbers can be brought to. -/
def width (r : Row) : Nat := max (r.first.widthAt r.shownPlaces) (r.last.widthAt r.shownPlaces)

end Row

/-- How often as many numbers as `plenty` are written at most. -/
def mostRounds : Nat := 100

/-- Write the numbers of a row, each in the form that a function gives it. -/
def writeRow (r : Row) (between : ByteText) (form : ByteText → ByteText) : Shell Nat := do
  let count := r.count
  for round in List.range (min (count / plenty + 1) mostRounds) do
    let places := (List.range (min plenty (count - plenty * round))).map fun n => plenty * round + n
    Shell.say (places.flatMap fun n => (if n = 0 then [] else between) ++ form (r.textAt n))
    if (← get).unsaid.isSome then return 1
  if plenty * mostRounds < count then throw .overran
  if 0 < count then Shell.say ['\n']
  pure 0

/-- Write numbers in a row. -/
def seq : Utility := fun name arguments => do
  match sequenceOptions (arguments.length + 1) arguments with
  | .error complaint => misuse name complaint 1
  | .ok o =>
    match (if o.operands.isEmpty || 3 < o.operands.length then none else o.value? 'f').map NumberFormat.ofText with
    | some (.error complaint) => refuse name complaint 1
    | some (.ok format) =>
      if o.has 'w' then
        misuse name "format string may not be specified when printing equal width strings".toList 1
      else write name o fun _ => format.apply
    | none => write name o fun r => if o.has 'w' then zeroFilled r.width else fun t => t
where
  /-- Write the row that the operands tell. -/
  write (name : ByteText) (o : Options) (form : Row → ByteText → ByteText) : Shell Nat :=
    match Row.ofOperands o.operands with
    | .error complaint => misuse name complaint 1
    | .ok r => writeRow r ((o.value? 's').getD ['\n']) (form r)

end Utility

end Script

end LinearProgram
