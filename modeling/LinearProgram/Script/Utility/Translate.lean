import LinearProgram.Script.Pattern
import LinearProgram.Script.Utility.Basic

/-!
Other characters in the place of characters.

The characters of a set are written one by one, as ranges, by the name of a class, or with the number of times
that they are repeated.

* `SetPart`, `SetPart.ofText`: what the text of a set is made of.
* `SetUnit`, `pairs`: what stands against each character of a set, or against all letters of one case.
* `Translation`: the changes that two sets tell.
* `tr`: a text with its characters replaced, taken away or squeezed.
-/

namespace LinearProgram

namespace Script

namespace Utility

/-! ### Sets -/

/-- The characters of bytes. -/
def allBytes : ByteText := (List.range 256).map Char.ofNat

/-- A part of a set of characters. -/
inductive SetPart where
  | single (c : Char)
  | range (first last : Char)
  /-- The class with a name. -/
  | named (name : String)
  /-- The characters that are put in order as one is: that one alone. -/
  | alike (c : Char)
  /-- A character a number of times; none stands for as often as it is wanted. -/
  | repeated (c : Char) (count : Option Nat)

namespace SetPart

/-- The characters of a part. -/
def members : SetPart → ByteText
  | single c | alike c => [c]
  | range first last => allBytes.filter fun c => decide (first ≤ c) && decide (c ≤ last)
  | named name => allBytes.filter ((classes.lookup name).getD fun _ => false)
  | repeated c count => List.replicate (count.getD 0) c

/-- Whether a part is a character that is repeated as often as it is wanted. -/
def isOpen : SetPart → Bool
  | repeated _ none => true
  | _ => false

/-- Whether a part is a class. -/
def isNamed : SetPart → Bool
  | named _ => true
  | _ => false

/-- Whether a part is a class, and not one of the two that letters can be put against. -/
def isNarrow : SetPart → Bool
  | named name => name ≠ "upper" && name ≠ "lower"
  | _ => false

/-- Whether a part is a character with those that are put in order as it is. -/
def isAlike : SetPart → Bool
  | alike _ => true
  | _ => false

/-- The last character of a part that is no class. -/
def last? : SetPart → Option Char
  | single c | alike c | repeated c _ | range _ c => some c
  | named _ => none

/-- The text up to a sign in front of a closing bracket, and what follows the two. -/
def closedBy (sign : Char) : Marked → Option (ByteText × Marked)
  | [] => none
  | (c, mark) :: rest =>
    if c = sign && !mark && rest.head? = some (']', false) then some ([], rest.drop 1)
    else (closedBy sign rest).map fun (t, behind) => (c :: t, behind)

/-- The greatest number of times that a character is repeated. -/
def mostRepeats : Nat := 65536

/-- The repetition that a text begins with behind its bracket, and what follows it. -/
def repetition? : Marked → Except ByteText (Option (SetPart × Marked))
  | (c, _) :: ('*', false) :: rest =>
    let count := rest.takeWhile fun e => !e.2 && e.1 ≠ ']'
    match rest.drop count.length, plainOf count with
    | (']', false) :: behind, [] => .ok (some (repeated c none, behind))
    | (']', false) :: behind, digits =>
      match valueToBase? (if digits.head? = some '0' then 8 else 10) digits with
      | some 0 => .ok (some (repeated c none, behind))
      | some n => .ok (some (repeated c (some (min n mostRepeats)), behind))
      | none => .error ("invalid repeat count ".toList ++ quoted digits ++ " in [c*n] construct".toList)
    | _, _ => .ok none
  | _ => .ok none

/-- Whether a text begins with an asterisk, digits and a closing bracket. -/
def beginsCount : Marked → Bool
  | ('*', false) :: rest => (rest.dropWhile fun e => isDigit e.1).head? = some (']', false)
  | _ => false

/-- What stands in brackets that a text begins with, from behind the first one, and what follows it. -/
def bracket? : Marked → Except ByteText (Option (SetPart × Marked))
  | (sign, mark) :: rest =>
    match if (sign = ':' || sign = '=') && !mark then closedBy sign rest else none with
    | none => repetition? ((sign, mark) :: rest)
    | some (t, behind) =>
      if t.isEmpty then
        .error (if sign = ':' then "missing character class name '[::]'".toList
          else "missing equivalence class character '[==]'".toList)
      else if sign = ':' then
        if (classes.lookup (String.ofList t)).isSome then .ok (some (named (String.ofList t), behind))
        else if beginsCount rest then repetition? ((sign, mark) :: rest)
        else .error ("invalid character class ".toList ++ quoted t)
      else
        match t with
        | [c] => .ok (some (alike c, behind))
        | t =>
          if beginsCount rest then repetition? ((sign, mark) :: rest)
          else .error (t ++ ": equivalence class operand must be a single character".toList)
  | [] => .ok none

/-- A character in a complaint. -/
def shown (c : Char) : ByteText := if ' ' ≤ c ∧ c ≤ '~' then [c] else quotedByte c

/-- The parts that a text is made of. Brackets and signs mean nothing in its last two characters. -/
def readParts : Nat → Marked → Except ByteText (List SetPart)
  | 0, _ => .ok []
  | fuel + 1, (a, mark) :: b :: c :: rest => do
    let inBrackets ← if a = '[' && !mark then bracket? (b :: c :: rest) else .ok none
    match inBrackets with
    | some (part, behind) => return part :: (← readParts fuel behind)
    | none =>
      if b = ('-', false) then
        if c.1 < a then
          .error ("range-endpoints of '".toList ++ shown a ++ '-' :: shown c.1
            ++ "' are in reverse collating sequence order".toList)
        else return range a c.1 :: (← readParts fuel rest)
      else return single a :: (← readParts fuel (b :: c :: rest))
  | _, rest => .ok (rest.map fun e => single e.1)

/-- A text with its escape sequences replaced, in which what they stand for is marked, and warnings. -/
def unescaped : Nat → ByteText → Marked × List ByteText
  | 0, _ => ([], [])
  | _, [] => ([], [])
  | _, ['\\'] =>
    ([('\\', false)], ["warning: an unescaped backslash at end of string is not portable".toList])
  | fuel + 1, '\\' :: c :: cs =>
    let digits := ((c :: cs).take 3).takeWhile fun c => decide ('0' ≤ c) && decide (c ≤ '7')
    let isWide := digits.length = 3 && decide ('4' ≤ c)
    let used := if isWide then digits.take 2 else digits
    let warnings := if !isWide then [] else
      ["warning: the ambiguous octal escape \\".toList ++ digits ++ " is being\n\t".toList
        ++ "interpreted as the 2-byte sequence \\0".toList ++ used ++ ", ".toList ++ digits.drop 2]
    let (image, rest) := match digits, escapes.lookup c with
      | [], some image => if c = 'e' then (c, cs) else (image, cs)
      | [], none => (c, cs)
      | _, _ => (byteChar ((valueToBase? 8 used).getD 0), (c :: cs).drop used.length)
    let (m, more) := unescaped fuel rest
    ((image, true) :: m, warnings ++ more)
  | fuel + 1, c :: cs =>
    let (m, warnings) := unescaped fuel cs
    ((c, false) :: m, warnings)

/-- The parts that a text is made of, with warnings. -/
def ofText (t : ByteText) : Except ByteText (List SetPart) × List ByteText :=
  let (m, warnings) := unescaped (t.length + 1) t
  (readParts (m.length + 1) m, warnings)

end SetPart

/-- The characters of a set, in order. -/
def membersOf (parts : List SetPart) : ByteText := parts.flatMap SetPart.members

/-- The parts of a set with what is repeated as often as it is wanted, so that there are a number of characters. -/
def filledTo (size : Nat) (parts : List SetPart) : List SetPart :=
  let missing := size - (membersOf parts).length
  parts.map fun
    | .repeated c none => .repeated c (some missing)
    | part => part

/-! ### Pairs -/

/-- A character of a set, or all letters of one case, which stand against all letters of one case. -/
inductive SetUnit where
  | letter (c : Char)
  | letters (isUpper : Bool)

/-- The letters of one case. -/
def lettersOf (isUpper : Bool) : ByteText := allBytes.filter (if isUpper then Char.isUpper else Char.isLower)

/-- What a part of a set is made of. -/
def SetPart.units : SetPart → List SetUnit
  | .named "upper" => [.letters true]
  | .named "lower" => [.letters false]
  | part => part.members.map SetUnit.letter

/-- The characters of two sets that stand against each other, and those of the first one that are left over; none if
letters of one case stand against something else. -/
def pairs : Nat → List SetUnit → List SetUnit → Option (List (Char × Char) × ByteText)
  | 0, _, _ => some ([], [])
  | fuel + 1, .letters u :: as, .letters v :: bs =>
    let own := (lettersOf u).zip (lettersOf v)
    (pairs fuel as bs).map fun (more, left) => ((if u = v then own.take 1 else own) ++ more, left)
  | _, _, .letters _ :: _ => none
  | fuel + 1, .letters u :: as, b :: bs => pairs fuel ((lettersOf u).map SetUnit.letter ++ as) (b :: bs)
  | fuel + 1, .letter a :: as, .letter b :: bs =>
    (pairs fuel as bs).map fun (more, left) => ((a, b) :: more, left)
  | _, [], _ => some ([], [])
  | _, as, [] =>
    some ([], as.flatMap fun
      | .letter c => [c]
      | .letters u => lettersOf u)

/-- The characters that take the place of others. -/
structure Translation where
  /-- Each character with its image; of several images the last one counts. -/
  table : List (Char × Char)
  /-- The characters that images are taken from. -/
  images : ByteText

namespace Translation

/-- The translation that a set of characters and the parts of another one tell. Classes count as they are in the order
of characters. -/
def between (truncates isNarrowed : Bool) (from? : ByteText ⊕ List SetPart) (images : List SetPart) :
    Except String Translation :=
  let size := match from? with
    | .inl set => set.length
    | .inr parts => (membersOf parts).length
  let parts := filledTo size images
  if 1 < images.countP SetPart.isOpen then .error "only one [c*] repeat construct may appear in string2"
  else if images.any SetPart.isAlike then .error "[=c=] expressions may not appear in string2 when translating"
  else if images.any SetPart.isNarrow then
    .error "when translating, the only character classes that may appear in\nstring2 are 'upper' and 'lower'"
  else
    let plain := membersOf parts
    let found := match from? with
      | .inl set => some (set.zip plain, set.drop plain.length)
      | .inr own =>
        let (as, bs) := (own.flatMap SetPart.units, parts.flatMap SetPart.units)
        pairs (27 * as.length + bs.length + 1) as bs
    match found with
    | none => .error "misaligned [:upper:] and/or [:lower:] construct"
    | some (table, left) =>
      let isFull := left.isEmpty || truncates
      match parts.getLast?.map SetPart.last? with
      | some (some last) =>
        let isEmpty := plain.isEmpty && !isFull
        let whole := if isFull then plain else plain ++ left.map fun _ => last
        if isEmpty then .error "when not truncating set1, string2 must be non-empty"
        else if isNarrowed && !(whole.length = size && whole.all fun c => some c = whole.head?) then .error mixed
        else .ok ⟨table ++ if isFull then [] else left.map fun c => (c, last), whole⟩
      | some none =>
        if !isFull then
          .error ("when translating with string1 longer than string2,\n" ++
            "the latter string must not end with a character class")
        else if isNarrowed then .error mixed
        else .ok ⟨table, plain⟩
      | none =>
        if !isFull then .error "when not truncating set1, string2 must be non-empty"
        else if isNarrowed then .error mixed
        else .ok ⟨[], []⟩
where
  /-- What is said about a set that is told by what is not in it. -/
  mixed : String :=
    "when translating with complemented character classes,\nstring2 must map all characters in the domain to one"

/-- A text with its characters replaced. -/
def apply (tr : Translation) (t : ByteText) : ByteText :=
  let table := tr.table.reverse
  t.map fun c => (table.lookup c).getD c

end Translation

/-- A text in which a character of a set is never followed by itself. -/
def squeezed (set : ByteText) : ByteText → ByteText
  | a :: b :: cs => if a = b && set.contains a then squeezed set (b :: cs) else a :: squeezed set (b :: cs)
  | cs => cs

/-! ### The utility -/

/-- What is to be done with a text, or what is wrong with what is told. -/
def changeOf (o : Options) (parts : List SetPart) (others : Option (List SetPart)) :
    Except String (ByteText → ByteText) :=
  let complement := o.has 'c' || o.has 'C'
  let members := membersOf parts
  let set := if complement then allBytes.filter fun c => !members.contains c else members
  let without (t : ByteText) : ByteText := t.filter fun c => !set.contains c
  if parts.any SetPart.isOpen then .error "the [c*] repeat construct may not appear in string1"
  else
    match others with
    | none => .ok (if o.has 'd' then without else squeezed set)
    | some images =>
      if o.has 'd' then
        if 1 < images.countP SetPart.isOpen then .error "only one [c*] repeat construct may appear in string2"
        else if images.any SetPart.isOpen then
          .error "the [c*] construct may appear in string2 only when translating"
        else .ok fun t => squeezed (membersOf images) (without t)
      else
        (Translation.between (o.has 't') (complement && parts.any SetPart.isNamed)
          (if complement then .inl set else .inr parts) images).map fun translation t =>
            if o.has 's' then squeezed translation.images (translation.apply t) else translation.apply t

/-- Put other characters in the place of characters, or take them away. -/
def tr : Utility :=
  withLeadingOptions "cCdst" "" [("delete", 'd'), ("squeeze-repeats", 's'), ("complement", 'c'),
      ("truncate-set1", 't')] 1 fun name o => do
    let least := if o.has 'd' = o.has 's' then 2 else 1
    let most := if o.has 'd' && !o.has 's' then 1 else 2
    match o.operands, o.operands[most]? with
    | [], _ => misuse name "missing operand".toList 1
    | t :: others, none =>
      if others.length + 1 < least then
        complain name ("missing operand after ".toList ++ quoted t)
        Shell.warn (if o.has 's' then "Two strings must be given when both deleting and squeezing repeats.".toList
          else "Two strings must be given when translating.".toList)
        usage name
      else
        let some parts ← partsOf name t | pure 1
        match others with
        | [] => change name (changeOf o parts none)
        | other :: _ =>
          let some images ← partsOf name other | pure 1
          change name (changeOf o parts (some images))
    | _ :: others, some extra =>
      complain name ("extra operand ".toList ++ quoted extra)
      if others.length = 1 then
        Shell.warn "Only one string may be given when deleting without squeezing repeats.".toList
      usage name
where
  /-- Tell where there is help. -/
  usage (name : ByteText) : Shell Nat := do
    Shell.warn ("Try '".toList ++ name ++ " --help' for more information.".toList)
    pure 1
  /-- The parts that a text is made of, if nothing is wrong with it. -/
  partsOf (name t : ByteText) : Shell (Option (List SetPart)) := do
    let (result, warnings) := SetPart.ofText t
    warnings.forM (complain name)
    match result with
    | .ok parts => pure (some parts)
    | .error complaint =>
      complain name complaint
      pure none
  /-- Change the input. -/
  change (name : ByteText) : Except String (ByteText → ByteText) → Shell Nat
    | .error complaint => refuse name complaint.toList 1
    | .ok act => do
      match ← Shell.inputFault? with
      | some fault => refuse name ("read error: ".toList ++ faultText fault) 1
      | none =>
        Shell.say (act (← Shell.readAll 0))
        pure 0

end Utility

end Script

end LinearProgram
