import LinearProgram.Script.Pattern
import LinearProgram.Script.Utility.Basic

/-!
Utilities that work on the lines of texts.

* `cat`, `tac`, `rev`, `head`, `tail`, `tee`: texts as a whole, or parts of them.
* `wc`: how much there is.
* `cut`, `paste`: fields.
* `sort`, `uniq`: lines in order, and equal lines.
-/

namespace LinearProgram

namespace Script

namespace Utility

/-! ### Texts as a whole -/

/-- A number brought to a width with blanks in front. -/
def aligned (width n : Nat) : ByteText :=
  let digits := ByteText.ofNat n
  List.replicate (width - digits.length) ' ' ++ digits

/-- How a text is shown: what is left out, put in or written out. -/
structure Showing where
  /-- Whether lines without text are left out behind another one. -/
  squeezed : Bool
  numbered : Bool
  /-- Whether lines without text get no number. -/
  onlyFull : Bool
  /-- Whether lines get a sign at their ends. -/
  ended : Bool
  /-- Whether what is not printed is written out. -/
  visible : Bool
  /-- Whether tabs are written out. -/
  tabbed : Bool

namespace Showing

/-- A place in what is shown. -/
structure Place where
  /-- The number of the next line. -/
  next : Nat
  /-- The number of lines without text in front of the place, if it is at the beginning of a line. -/
  gaps : Option Nat
  /-- Whether a carriage return is held back until it is known whether the line ends behind it. -/
  returned : Bool

/-- The beginning of all texts. -/
def Place.first : Place := ⟨1, some 0, false⟩

/-- A character with what is not printed written out, but for the tab. -/
def written (c : Char) : ByteText :=
  if c = '\t' then [c]
  else if c.toNat < 128 then low c.toNat
  else "M-".toList ++ low (c.toNat - 128)
where
  /-- A number below 128 written out as a character. -/
  low (n : Nat) : ByteText :=
    if n < 32 then ['^', Char.ofNat (n + 64)] else if n = 127 then ['^', '?'] else [Char.ofNat n]

/-- What is shown for a character at a place, and the place behind it. -/
def step (s : Showing) (p : Place) (c : Char) : ByteText × Place :=
  let number := aligned 6 p.next ++ ['\t']
  if c = '\n' then
    let sign := if s.ended then (if p.returned then "^M$\n" else "$\n").toList else ['\n']
    match p.gaps with
    | none => (sign, ⟨p.next, some 0, false⟩)
    | some gaps =>
      if s.squeezed && gaps != 0 then ([], p)
      else if s.numbered && !s.onlyFull then (number ++ sign, ⟨p.next + 1, some (gaps + 1), false⟩)
      else (sign, ⟨p.next, some (gaps + 1), false⟩)
  else
    let isNumbered := s.numbered && p.gaps.isSome
    let isHeld := c = '\r' && s.ended && !s.visible
    let own := if isHeld then []
      else if c = '\t' && s.tabbed then ['^', 'I']
      else if s.visible then written c else [c]
    ((if p.returned then ['\r'] else []) ++ (if isNumbered then number else []) ++ own,
      ⟨if isNumbered then p.next + 1 else p.next, none, isHeld⟩)

/-- What is shown for a text at a place, and the place behind it. -/
def apply (s : Showing) (p : Place) (t : ByteText) : ByteText × Place :=
  let (shown, p) := t.foldl (fun (shown, p) c =>
    let (own, p) := s.step p c
    (own.reverse ++ shown, p)) ([], p)
  (shown.reverse, p)

end Showing

/-- The number of the file that the output goes to, if the file at a path is that one. -/
def outputAt? (path : ByteText) : Shell (Option Nat) := do
  let number? ← if path = ['-'] then
      pure (match ← Shell.channel? 0 with
        | some (_, .file number ..) => some number
        | _ => none)
    else pure ((← Shell.files).number (← Shell.path path)).toOption
  match ← Shell.channel? 1 with
  | some (_, .file number ..) => return if number? == some number then some number else none
  | _ => return none

/-- Whether the file at a path, which is not empty, is the one that the output goes to. -/
def isOutput (path : ByteText) : Shell Bool := do
  match ← outputAt? path with
  | some number => return !((← Shell.files).stored number).bytes.isEmpty
  | none => return false

/-- Write texts one after the other. -/
def cat : Utility :=
  withOptions "nbsEeAvTtu" "" [("number", 'n'), ("show-ends", 'E'), ("squeeze-blank", 's'), ("show-all", 'A'),
      ("number-nonblank", 'b'), ("show-tabs", 'T'), ("show-nonprinting", 'v')] 1
    fun name o => do
      if (← Shell.channel? 1).isNone then
        return ← refuse name ("standard output: ".toList ++ faultText .badDescriptor) 1
      let has (signs : String) : Bool := signs.toList.any o.has
      let showing : Showing := ⟨has "s", has "nb", has "b", has "EeA", has "vetA", has "TtA"⟩
      let (code, place) ← (if o.operands.isEmpty then [['-']] else o.operands).foldlM (fun (code, place) path => do
        match ← Shell.contentOf path with
        | .error fault =>
          complainOfPath name path fault
          pure (1, place)
        | .ok content =>
          if ← isOutput path then
            return (max code (← refuse name (path ++ ": input file is output file".toList) 1), place)
          let (shown, place) := if has "nbsEeAvTt" then showing.apply place content else (content, place)
          Shell.say shown
          pure (code, place)) (0, Showing.Place.first)
      if place.returned then Shell.say ['\r']
      if (o.operands.isEmpty || o.operands.contains ['-']) && (← Shell.inputFault?) = some .badDescriptor then
        complain name ("closing standard input: ".toList ++ faultText .badDescriptor)
      pure code

/-- Write what is made of texts. Complaints about files that cannot be read come first. -/
def written (make : ByteText → ByteText) (refused : ByteText → FileFault → Shell Unit) (operands : List ByteText) :
    Shell Nat := do
  let (texts, code) ← (if operands.isEmpty then [['-']] else operands).foldlM (fun (texts, code) path => do
    match ← Shell.contentOf path with
    | .ok content => pure (make content :: texts, code)
    | .error fault =>
      refused path fault
      pure (texts, 1)) ([], 0)
  Shell.say texts.reverse.flatten
  pure code

/-- The records of a text with a separator behind each, or in front of each but the first. -/
def records (separator : ByteText) (isFirst : Bool) : ByteText → ByteText → List ByteText
  | own, [] => if own.isEmpty then [] else [own.reverse]
  | own, c :: cs =>
    if separator.isPrefixOf (c :: cs) then
      let rest := cs.drop (separator.length - 1)
      if isFirst then own.reverse :: records separator isFirst separator.reverse rest
      else (own.reverse ++ separator) :: records separator isFirst [] rest
    else records separator isFirst (c :: own) cs
termination_by _ t => t.length
decreasing_by
  all_goals simp only [List.length_drop, List.length_cons]
  all_goals omega

/-- Write the lines of texts, or what else a separator makes of them, the last one first. -/
def tac : Utility :=
  withOptions "br" "s" [("before", 'b'), ("separator", 's')] 1 fun name o =>
    let separator := (o.value? 's').getD ['\n']
    written (fun content => (records separator (o.has 'b') [] content).reverse.flatten) (fun path fault =>
      if fault.showsOnReading then complain name (shownPath path ++ ": read error: ".toList ++ faultText fault)
      else complain name ("failed to open ".toList ++ quotedPath path ++ " for reading: ".toList ++ faultText fault))
      o.operands

/-- Write the lines of texts with their characters turned round. -/
def rev : Utility :=
  withOptions "" "" [] 1 fun name o =>
    written (fun content => (rawLines content).flatMap fun l =>
        if l.getLast? = some '\n' then turned l.dropLast ++ ['\n'] else turned l)
      (fun path fault => complain name ("cannot open ".toList ++ path ++ ": ".toList ++ faultText fault)) o.operands
where
  /-- A text with its characters in the other order. -/
  turned (t : ByteText) : ByteText := .ofCharacters t.characters.reverse

/-- Write the input to the output and to files. -/
def tee : Utility :=
  withOptions "aip" "" [("append", 'a')] 1 fun name o => do
    let opened ← o.operands.mapM fun path => do
      return (path, ← Shell.openPath path (if o.has 'a' then .extend else .write))
    let code ← forEach opened fun (path, result) => do
      match result with
      | .ok _ => pure 0
      | .error fault =>
        complainOfPath name path fault
        pure 1
    if let some fault := ← Shell.inputFault? then complain name ("read error: ".toList ++ faultText fault)
    let text ← Shell.readAll 0
    let toOutput ← complainOfWriting name (enclosed "standard output".toList) (← Shell.put 1 text)
    let toFiles ← forEach opened fun (path, result) => do
      match result with
      | .ok index => complainOfWriting name (shownPath path) (← Shell.writeChannel index text)
      | .error _ => pure 0
    pure (max (if (← Shell.inputFault?).isSome then 1 else code) (max toOutput toFiles))
where
  /-- Complain about what cannot be written. -/
  complainOfWriting (name what : ByteText) : Option FileFault → Shell Nat
    | none => pure 0
    | some fault => refuse name (what ++ ": ".toList ++ faultText fault) 1

/-! ### Beginnings and ends -/

/-- Arguments in which an old form of a number of lines is written as an option. At the end of a text, `plus`, it may
tell where to begin, and there may be no more than one operand. -/
def withLineOption (plus : Bool) : List ByteText → List ByteText
  | (sign :: c :: cs) :: rest =>
    let digits := (c :: cs).takeWhile isDigit
    let behind := (c :: cs).drop digits.length
    let isLone := match rest with
      | [] => true
      | ['-', '-'] :: more => decide (more.length ≤ 1)
      | [operand] => operand = ['-'] || operand.head? ≠ some '-'
      | _ => false
    let isPlus := sign = '+' && plus && isLone
    if digits.isEmpty || !(sign = '-' && (!plus || isLone) || isPlus) then (sign :: c :: cs) :: rest
    else
      let count := if isPlus then '+' :: digits else digits
      if behind = ['c'] then ("-c".toList ++ count) :: rest
      else if behind.isEmpty then ("-n".toList ++ count) :: rest
      else (sign :: c :: cs) :: rest
  | arguments => arguments

/-- How much is written of a text. -/
structure Extract where
  /-- Whether bytes are counted, not lines. -/
  inBytes : Bool
  /-- The sign in front of the number, if any. -/
  sign : Option Char
  count : Nat

/-- A number with a unit of size. -/
def sizeOf? (t : ByteText) : Option Nat := do
  let digits := t.takeWhile isDigit
  let unit ← [([], 1), (['b'], 512), (['k'], 1024), (['K'], 1024), ("kB".toList, 1000), (['M'], 1048576)].lookup
    (t.drop digits.length)
  if digits.isEmpty then none else some (valueOfDigits digits * unit)

/-- How much is written of a text according to options, the last one of which counts. -/
def extractOf (o : Options) : Except ByteText Extract :=
  (o.given.filter fun e => e.1 = 'c' || e.1 = 'n').foldlM (fun _ (letter, value) =>
    let sign := value.head?.filter fun c => c = '+' || c = '-'
    match sizeOf? (if sign.isSome then value.drop 1 else value) with
    | some count => .ok ⟨letter = 'c', sign, count⟩
    | none =>
      let what := if letter = 'c' then "invalid number of bytes: " else "invalid number of lines: "
      .error (what.toList ++ quoted value)) ⟨false, none, 10⟩

/-- A part of a text that `head` or `tail` makes of it. -/
def extracted (part : List ByteText → List ByteText) (e : Extract) (content : ByteText) : ByteText :=
  if e.inBytes then (part (content.map fun c => [c])).flatten else (part (rawLines content)).flatten

/-- The items that `head` keeps. -/
def firstOf {α : Type} (e : Extract) (items : List α) : List α :=
  if e.sign = some '-' then items.take (items.length - e.count) else items.take e.count

/-- The items that `tail` keeps. -/
def lastOf {α : Type} (e : Extract) (items : List α) : List α :=
  if e.sign = some '+' then items.drop (e.count - 1) else items.drop (items.length - e.count)

/-- How many characters are read at a time. -/
def blockSize : Nat := 8192

/-- Write parts of texts, with headings if there are several. -/
def extracts (plus : Bool) (part : Extract → List ByteText → List ByteText) : Utility := fun name arguments =>
  withOptions (if plus then "qvzfFr0123456789" else "qvz") (if plus then "ncs" else "nc")
    [("lines", 'n'), ("bytes", 'c'), ("quiet", 'q'), ("silent", 'q'), ("verbose", 'v')] 1
    (fun name o => do
      if let some (digit, _) := o.given.find? fun e => isDigit e.1 then
        return ← refuse name ("option used in invalid context -- ".toList ++ [digit]) 1
      match extractOf o, (o.value? 's').filter fun t => (nanosOf? t).isNone with
      | .error complaint, _ => refuse name complaint 1
      | _, some t => refuse name ("invalid number of seconds: ".toList ++ quoted t) 1
      | .ok e, none => do
        let operands := if o.operands.isEmpty then [['-']] else o.operands
        let headed := o.has 'v' || decide (1 < operands.length) && !o.has 'q'
        let (code, _) ← operands.foldlM (fun (code, isFirst) path => do
          let isInput := path = ['-'] && (← Shell.inputFault?).isNone
          let content ← if isInput then .ok <$> readInput e else Shell.contentOf path
          match content with
          | .error fault =>
            if headed && fault.showsOnReading then heading path isFirst
            if fault = .badDescriptor then
              let what := if plus then "cannot fstat 'standard input'" else "error reading 'standard input'"
              complain name (what.toList ++ ": ".toList ++ faultText fault)
              complainOfPath name path fault
            else complainOfOpening name (if path = ['-'] then "standard input".toList else path) fault
            pure (1, isFirst)
          | .ok content =>
            if headed then heading (if path = ['-'] then "standard input".toList else path) isFirst
            Shell.say (extracted (part e) e content)
            pure (code, false)) (0, true)
        pure code) name (withLineOption plus arguments)
where
  /-- Write a heading. -/
  heading (path : ByteText) (isFirst : Bool) : Shell Unit :=
    Shell.say ((if isFirst then [] else ['\n']) ++ "==> ".toList ++ path ++ " <==\n".toList)
  /-- Read what is needed of the input: of a file no more than the part in question. -/
  readInput (e : Extract) : Shell ByteText :=
    Shell.readNeeded 0 (if e.inBytes then 1 else blockSize) fun left =>
      let wanted := extracted (part e) e left
      let isFull := if e.inBytes then decide (e.count ≤ wanted.length) else decide (e.count ≤ wanted.count '\n')
      if !plus && e.sign.isNone && isFull then some wanted.length else none

/-- Write the first part of texts. -/
def head : Utility := extracts false fun e => firstOf e

/-- Write the last part of texts. -/
def tail : Utility := extracts true fun e => lastOf e

/-! ### Counting -/

/-- Whether a character shows. -/
def isShown (c : Char) : Bool := decide (' ' ≤ c) && decide (c ≤ '~') || decide ('\xa0' ≤ c) && !ByteText.isStray c

/-- The column behind a character that stands in a column. -/
def columnBehind (column : Nat) (c : Char) : Nat :=
  if c = '\t' then (column / 8 + 1) * 8 else if isShown c then column + 1 else column

/-- The greatest width of a line. -/
def greatestWidth (cs : List Char) : Nat :=
  let endsLine (c : Char) : Bool := c = '\n' || c = '\r' || c = '\x0c'
  ((pieces endsLine cs).map fun l => l.foldl columnBehind 0).foldl max 0

/-- The lines, words, characters and bytes of a text, and the greatest width of a line. Words are those with a
character that shows. -/
def measures (t : ByteText) : List Nat :=
  let cs := t.characters
  let words := pieces (fun c => " \t\n\r\x0b\x0c\xa0".toList.contains c) cs
  [t.count '\n', words.countP fun w => w.any isShown, cs.countP fun c => !ByteText.isStray c, t.length,
    greatestWidth cs]

/-- Count the lines, words, characters and bytes of texts. -/
def wc : Utility :=
  withOptions "lwcmL" "" [("lines", 'l'), ("words", 'w'), ("bytes", 'c'), ("chars", 'm'), ("max-line-length", 'L')] 1
      fun name o => do
    let wanted : List Bool := if o.given.isEmpty then [true, true, false, true, false] else "lwmcL".toList.map o.has
    let chosen (counts : List Nat) : List Nat := ((counts.zip wanted).filter Prod.snd).map Prod.fst
    let single := decide (o.operands.length ≤ 1) && decide (wanted.count true = 1)
    let streamed := match ← Shell.channel? 0 with
      | some (_, .file ..) | none => false
      | _ => true
    let results ← (if o.operands.isEmpty then [['-']] else o.operands).mapM fun path => do
      return (path, (← Shell.contentOf path).map measures)
    let sizes := results.filterMap fun (_, result) => (result.toOption.bind fun counts => counts[3]?)
    let fromStream := streamed && (o.operands.isEmpty || o.operands.contains ['-'])
    let oddFile := results.any fun e => match e.2 with
      | .error fault => fault.showsOnReading
      | _ => false
    let width := if single then 1
      else max (ByteText.ofNat (sizes.foldl (fun a b => a + b) 0)).length (if fromStream || oddFile then 7 else 1)
    let line (counts : List Nat) (label : ByteText) : Shell Unit :=
      Shell.sayLine (spaced ((chosen counts).map (aligned width)) ++ (if label.isEmpty then [] else ' ' :: label))
    let code ← forEach results fun (path, result) => do
      match result with
      | .ok counts =>
        line counts (if o.operands.isEmpty then [] else path)
        pure 0
      | .error fault =>
        let isInput := fault = .badDescriptor || fault = .wrongWay || o.operands.isEmpty
        complainOfPath name (if isInput then "standard input".toList else path) fault
        if fault.showsOnReading || fault = .badDescriptor then
          line [0, 0, 0, 0, 0] (if o.operands.isEmpty then [] else path)
        pure 1
    if results.any fun e => e.2 matches .error .badDescriptor then complainOfPath name ['-'] .badDescriptor
    if 1 < results.length then
      let all := results.filterMap fun (_, result) => result.toOption
      line (all.foldl totals [0, 0, 0, 0, 0]) "total".toList
    pure code
where
  /-- The measures of two texts: how much there is is added, and the widths are not. -/
  totals : List Nat → List Nat → List Nat
    | [a, b], [c, d] => [a + c, max b d]
    | a :: as, b :: bs => (a + b) :: totals as bs
    | _, _ => []

/-! ### Fields -/

/-- Positions from one to another, the last one of which may be open. -/
structure PositionRange where
  low : Nat
  high : Option Nat

namespace PositionRange

/-- Whether a position is in a range. -/
def has (r : PositionRange) (n : Nat) : Bool := decide (r.low ≤ n) && r.high.all fun h => decide (n ≤ h)

/-- What is wrong with a list of ranges. -/
inductive Fault where
  | noPosition (rest : ByteText)
  | tooGreat (digits : ByteText)
  | zero
  | twoDashes
  | noEnd
  | decreasing

/-- What is said about a list of ranges of fields, or of other positions. -/
def Fault.message (byField : Bool) : Fault → ByteText
  | noPosition rest =>
    (if byField then "invalid field value " else "invalid byte/character position ").toList ++ quoted rest
  | tooGreat digits =>
    (if byField then "field number " else "byte/character offset ").toList ++ quoted digits ++ " is too large".toList
  | zero =>
    if byField then "fields are numbered from 1".toList else "byte/character positions are numbered from 1".toList
  | twoDashes => if byField then "invalid field range".toList else "invalid byte or character range".toList
  | noEnd => "invalid range with no endpoint: -".toList
  | decreasing => "invalid decreasing range".toList

/-- The number that a text begins with, if there is one, and what follows it. -/
def number (t : ByteText) : Except Fault (Option Nat × ByteText) :=
  let digits := t.takeWhile isDigit
  if digits.isEmpty then .ok (none, t)
  else if 18446744073709551615 ≤ valueOfDigits digits then .error (.tooGreat digits)
  else .ok (some (valueOfDigits digits), t.drop digits.length)

/-- The range that a text begins with, and what follows it. -/
def read (t : ByteText) : Except Fault (PositionRange × ByteText) := do
  let (low, rest) ← number t
  match rest with
  | '-' :: rest =>
    if low = some 0 then .error .zero
    let (high, rest) ← number rest
    match rest with
    | '-' :: _ => .error .twoDashes
    | c :: cs =>
      if c = ',' || isGap c then close low high (c :: cs) else .error (.noPosition (c :: cs))
    | [] => close low high []
  | c :: cs =>
    if c = ',' || isGap c then alone low (c :: cs) else .error (.noPosition (c :: cs))
  | [] => alone low []
where
  /-- A range between two numbers, one of which may be missing. -/
  close (low high : Option Nat) (rest : ByteText) : Except Fault (PositionRange × ByteText) :=
    match low, high with
    | none, none => .error .noEnd
    | low, none => .ok (⟨low.getD 1, none⟩, rest)
    | low, some high => if high < low.getD 1 then .error .decreasing else .ok (⟨low.getD 1, some high⟩, rest)
  /-- A range of one position. -/
  alone (low : Option Nat) (rest : ByteText) : Except Fault (PositionRange × ByteText) :=
    match low with
    | none | some 0 => .error .zero
    | some n => .ok (⟨n, some n⟩, rest)

/-- The ranges of a list. -/
def readAll : Nat → ByteText → Except Fault (List PositionRange)
  | 0, _ => .ok []
  | fuel + 1, t => do
    let (r, rest) ← read t
    match rest with
    | [] => .ok [r]
    | _ :: rest => return r :: (← readAll fuel rest)

end PositionRange

/-- What is chosen of the items of lines. -/
structure Choice where
  ranges : List PositionRange
  /-- Whether what is not in the ranges is chosen. -/
  isOther : Bool

namespace Choice

/-- Whether the item at a position is chosen. -/
def has (c : Choice) (n : Nat) : Bool := (c.ranges.any fun r => r.has n) != c.isOther

/-- Whether a run of chosen items begins at a position. -/
def begins (c : Choice) (n : Nat) : Bool :=
  if c.isOther then c.has n && (n = 1 || !c.has (n - 1))
  else (c.ranges.any fun r => r.low = n) && !c.ranges.any fun r => decide (r.low < n) && r.has n

/-- The chosen items. -/
def items {α : Type} (c : Choice) (all : List α) : List α := ((all.zipIdx 1).filter fun e => c.has e.2).map Prod.fst

/-- The chosen characters of a line, with a text between runs of them. -/
def characters (c : Choice) (between l : ByteText) : ByteText :=
  (((l.zipIdx 1).filter fun e => c.has e.2).zipIdx).flatMap fun ((x, n), k) =>
    if k ≠ 0 && c.begins n then between ++ [x] else [x]

end Choice

/-- The fault of the options of `cut` that shows first. -/
def cutFault? (o : Options) : Option ByteText :=
  let isList (e : Char × ByteText) : Bool := "fcb".toList.contains e.1
  let wrong := o.given.zipIdx.findSome? fun (e, n) =>
    if isList e && (o.given.take n).any isList then some "only one list may be specified".toList
    else if e.1 = 'd' && 1 < e.2.length then some "the delimiter must be a single character".toList
    else none
  if wrong.isSome then wrong
  else if !o.given.any isList then some "you must specify a list of bytes, characters, or fields".toList
  else if o.has 'f' then none
  else if o.has 'd' then some "an input delimiter may be specified only when operating on fields".toList
  else if o.has 's' then some "suppressing non-delimited lines makes sense\n\tonly when operating on fields".toList
  else none

/-- Write chosen characters or fields of lines. -/
def cut : Utility :=
  withOptions "snzC" "fcbdO" [("fields", 'f'), ("characters", 'c'), ("bytes", 'b'), ("delimiter", 'd'),
      ("only-delimited", 's'), ("output-delimiter", 'O'), ("complement", 'C'), ("zero-terminated", 'z')] 1
    fun name o => do
      let list := ((o.given.find? fun e => "fcb".toList.contains e.1).map Prod.snd).getD []
      match cutFault? o, PositionRange.readAll (list.length + 1) list with
      | some complaint, _ => misuse name complaint 1
      | none, .error fault => misuse name (fault.message (o.has 'f')) 1
      | none, .ok ranges =>
        let choice : Choice := ⟨ranges, o.has 'C'⟩
        let ending := if o.has 'z' then '\x00' else '\n'
        let mark := ((o.value? 'd').map fun t => t.headD '\x00').getD '\t'
        let line (l : ByteText) : Option ByteText :=
          if !o.has 'f' then some (choice.characters ((o.value? 'O').getD []) l)
          else if !l.contains mark then (if o.has 's' then none else some l)
          else some (((o.value? 'O').getD [mark]).intercalate (choice.items (pieces (fun c => c = mark) l)))
        let records (t : ByteText) : List ByteText :=
          let parts := endedBy ending t
          if o.has 'f' && mark = ending && !parts.isEmpty then [[ending].intercalate parts] else parts
        withContents o.operands (complainOfPath name)
          (fun _ content => do
            Shell.say (((records content).filterMap line).flatMap fun l => l ++ [ending])
            pure 0) 1

/-- The lines at the same place of several texts, text by text. -/
def across (texts : List (List ByteText)) : List (List ByteText) :=
  let height := (texts.map List.length).foldl max 0
  (List.range height).map fun n => texts.map fun t => t[n]?.getD []

/-- Texts of which those that are marked as the input take its lines in turn. -/
def shared (marks : List Bool) (texts : List (List ByteText)) : List (List ByteText) :=
  let readers := marks.count true
  let input := ((marks.zip texts).find? fun e => e.1).elim [] Prod.snd
  (marks.zip texts).zipIdx.map fun ((isInput, own), n) =>
    if isInput then
      let turn := (marks.take n).count true
      (input.zipIdx.filter fun e => e.2 % readers = turn).map Prod.fst
    else own

/-- Fields with marks between them, which are taken from a text in turn. -/
def joinedBy (marks : List ByteText) (fields : List ByteText) : ByteText :=
  (fields.zipIdx).flatMap fun (f, n) =>
    if n = 0 then f else (marks[(n - 1) % marks.length]?).getD [] ++ f

/-- The marks that a text lists, a nought behind a backslash being none; a backslash at the end is out of place. -/
def marksOf? : ByteText → Option (List ByteText)
  | [] => some []
  | ['\\'] => none
  | '\\' :: c :: cs =>
    let images := [('b', '\x08'), ('f', '\x0c'), ('n', '\n'), ('r', '\r'), ('t', '\t'), ('v', '\x0b')]
    (marksOf? cs).map fun ms => (if c = '0' then [] else [(images.lookup c).getD c]) :: ms
  | c :: cs => (marksOf? cs).map fun ms => [c] :: ms

/-- Write the lines of several texts side by side. -/
def paste : Utility :=
  withOptions "sz" "d" [("delimiters", 'd'), ("serial", 's')] 1 fun name o => do
    let list := (o.value? 'd').getD ['\t']
    let some marks := marksOf? list
      | refuse name ("delimiter list ends with an unescaped backslash: ".toList ++ list) 1
    let found ← (if o.operands.isEmpty then [['-']] else o.operands).mapM fun path => do
      return (path, ← Shell.contentOf path)
    let texts := found.filterMap fun (_, result) => result.toOption.map linesOfText
    let texts := if o.has 's' then texts else shared (found.map fun e => e.1 = ['-']) texts
    let failures := found.filter fun e => !e.2.toBool
    let code ← forEach (if o.has 's' then failures else failures.take 1) fun (path, result) => do
      match result with
      | .ok _ => pure 0
      | .error fault =>
        complainOfPath name path fault
        pure 1
    let rows := if o.has 's' then texts else across texts
    if code = 0 || o.has 's' then Shell.say (unlines (rows.map (joinedBy marks)))
    pure code

/-! ### Order -/

/-- A part of lines by which they are put in order. -/
structure SortKey where
  /-- The field with which the part begins, and the character in it. -/
  start : Nat × Nat
  /-- The field with which it ends, and the character in it; none for the end of the line. -/
  stop : Option (Nat × Nat)
  flags : List Char

/-- A position that is written as a field and perhaps a character, with letters behind it. -/
def sortPosition? (t : ByteText) (character : Nat) : Option ((Nat × Nat) × List Char) :=
  let field := t.takeWhile isDigit
  let behind := t.drop field.length
  let places := if behind.head? = some '.' then (behind.drop 1).takeWhile isDigit else []
  let flags := if behind.head? = some '.' then behind.drop (places.length + 1) else behind
  if field.isEmpty || !flags.all "bdfgiMhnRrV".toList.contains then none
  else some ((valueOfDigits field, if places.isEmpty then character else valueOfDigits places), flags)

/-- What is wrong with the text of a key. -/
def sortKeyFault (t : ByteText) : ByteText :=
  let parts := pieces (fun c => c = ',') t
  let places := parts.map fun part => (part.takeWhile isDigit, part.dropWhile isDigit)
  match places.zipIdx.find? fun e => e.1.1.isEmpty with
  | some (_, n) =>
    let place := if n = 0 then "invalid number at field start" else "invalid number after ','"
    place.toList ++ ": invalid count at start of ".toList ++ quoted (parts[n]?.getD [])
  | none =>
    let what := if places.any fun e => valueOfDigits e.1 = 0 then "field number is zero"
      else if (places.head?.map fun e => e.2.take 2) = some ['.', '0'] then "character offset is zero"
      else "stray character in field spec"
    what.toList ++ ": invalid field specification ".toList ++ quoted t

/-- The key that an option tells. -/
def SortKey.ofText? (t : ByteText) : Option SortKey := do
  match pieces (fun c => c = ',') t with
  | [first] =>
    let (start, flags) ← sortPosition? first 1
    if start.1 = 0 || start.2 = 0 then none else some ⟨start, none, flags⟩
  | [first, last] =>
    let (start, flags) ← sortPosition? first 1
    let (stop, more) ← sortPosition? last 0
    if start.1 = 0 || start.2 = 0 || stop.1 = 0 then none else some ⟨start, some stop, flags ++ more⟩
  | _ => none

/-- The fields of a line with the blanks in front of them. -/
def blankFields : ByteText → List ByteText
  | [] => []
  | c :: cs =>
    match blankFields cs with
    | [] => [[c]]
    | f :: fs => if !isGap c && (f.head?.map isGap).getD false then [c] :: f :: fs else (c :: f) :: fs

/-- The fields of a line. -/
def fieldsFor (mark : Option Char) (l : ByteText) : List ByteText :=
  match mark with
  | some mark => pieces (fun c => c = mark) l
  | none => blankFields l

/-- A text without the blanks it begins with. -/
def withoutLead (t : ByteText) : ByteText := t.dropWhile isGap

/-- The part of a line that a key tells. -/
def SortKey.part (key : SortKey) (mark : Option Char) (l : ByteText) : ByteText :=
  let fields := fieldsFor mark l
  let size (n : Nat) : Nat :=
    ((fields.take n).map List.length).foldl (fun a b => a + b) 0 + (if mark.isSome then min n fields.length else 0)
  let lead (n : Nat) : Nat :=
    if key.flags.contains 'b' then ((fields[n]?.getD []).takeWhile isGap).length else 0
  let start := size (key.start.1 - 1) + lead (key.start.1 - 1) + (key.start.2 - 1)
  let stop := match key.stop with
    | none => l.length
    | some (field, 0) => size field - (if mark.isSome && field ≤ fields.length then 1 else 0)
    | some (field, character) => size (field - 1) + lead (field - 1) + character
  (l.take stop).drop start

/-- The number that a text begins with, in units so small that all its places count. -/
def leadingNumber (t : ByteText) : Int :=
  let t := t.dropWhile fun c => c = ' ' || c = '\t'
  let negative := t.head? = some '-'
  let t := if negative then t.drop 1 else t
  let whole := t.takeWhile isDigit
  let behind := t.drop whole.length
  let places := if behind.head? = some '.' then (behind.drop 1).takeWhile isDigit else []
  let magnitude : Int := valueOfDigits (whole ++ (places ++ List.replicate 30 '0').take 30)
  if negative then -magnitude else magnitude

/-- The number with an exponent that a text begins with, for an order in which texts without a number come first. -/
def leadingReal (t : ByteText) : Option Int :=
  let t := withoutLead t
  let front := t.takeWhile fun c => c.isDigit || "+-.eE".toList.contains c
  match Binary64.readChars front with
  | .ok (.finite negative u _) => some (if negative then -(u : Int) else u)
  | .ok (.infinite negative) => some (if negative then -(Nat.pow 10 800 : Nat) else (Nat.pow 10 800 : Nat))
  | _ => none

/-- The order of two texts under flags. -/
def orderUnder (flags : List Char) (a b : ByteText) : Ordering :=
  let fold (t : ByteText) : ByteText := if flags.contains 'f' then t.map Char.toUpper else t
  let own :=
    if flags.contains 'n' then orderOf (leadingNumber a) (leadingNumber b)
    else if flags.contains 'g' then
      match leadingReal a, leadingReal b with
      | some m, some n => orderOf m n
      | none, some _ => .lt
      | some _, none => .gt
      | none, none => .eq
    else orderOf (fold a) (fold b)
  if flags.contains 'r' then own.swap else own

/-- How lines are put in order. -/
structure LineOrder where
  keys : List SortKey
  mark : Option Char
  flags : List Char
  /-- Whether lines that are equal in their keys stay in their order. -/
  stable : Bool

namespace LineOrder

/-- The order of two lines by the keys alone. -/
def byKeys (o : LineOrder) (a b : ByteText) : Ordering :=
  if o.keys.isEmpty then
    let text (l : ByteText) : ByteText := if o.flags.contains 'b' then withoutLead l else l
    orderUnder o.flags (text a) (text b)
  else
    o.keys.foldl (fun known key =>
      let flags := if key.flags.isEmpty then o.flags else key.flags
      let key := { key with flags }
      known.then (orderUnder flags (key.part o.mark a) (key.part o.mark b))) .eq

/-- The order of two lines. -/
def order (o : LineOrder) (a b : ByteText) : Ordering :=
  let known := o.byKeys a b
  if o.stable then known
  else known.then (if o.flags.contains 'r' then (orderOf a b).swap else orderOf a b)

/-- Lines of which each is different from the one before it. -/
def distinct (o : LineOrder) : List ByteText → List ByteText
  | a :: b :: ls => if o.byKeys a b = .eq then distinct o (a :: ls) else a :: distinct o (b :: ls)
  | ls => ls
termination_by ls => ls.length

end LineOrder

/-- The first line that is out of order behind another one, with its number. -/
def firstDisorder (wrong : ByteText → ByteText → Bool) : Nat → List ByteText → Option (Nat × ByteText)
  | n, a :: b :: ls => if wrong a b then some (n + 1, b) else firstDisorder wrong (n + 1) (b :: ls)
  | _, _ => none

/-- What is wrong with the options of `sort`. -/
def sortFault? (o : Options) : Option ByteText :=
  let checks := o.has 'c' || o.has 'C'
  match (o.given.filter fun e => e.1 = 'k').find? fun e => (SortKey.ofText? e.2).isNone, o.value? 't' with
  | some (_, t), _ => some (sortKeyFault t)
  | none, some [] => some "empty tab".toList
  | none, mark =>
    if let some t := mark.filter fun t => 1 < t.length && t ≠ "\\0".toList then
      some ("multi-character tab ".toList ++ quoted t)
    else if 1 < (o.given.filter fun e => e.1 = 'o').length then some "multiple output files specified".toList
    else
      match checks, o.operands with
      | true, _ :: other :: _ =>
        let letter := if o.has 'C' then 'C' else 'c'
        some ("extra operand ".toList ++ quotedPath other ++ " not allowed with -".toList ++ [letter])
      | _, _ => none

/-- Write the lines of texts in order. -/
def sort : Utility :=
  withOptions "nrubfgsmcCdiz" "ktoTS" [("numeric-sort", 'n'), ("reverse", 'r'), ("unique", 'u'), ("key", 'k'),
      ("field-separator", 't'), ("output", 'o'), ("stable", 's'), ("check", 'c'), ("ignore-case", 'f')] 2
    fun name o => do
      if let some complaint := sortFault? o then return ← refuse name complaint 2
      let keys := (o.given.filter fun e => e.1 = 'k').filterMap fun e => SortKey.ofText? e.2
      let flags := (o.given.map Prod.fst).filter "nrbfg".toList.contains
      let order : LineOrder := ⟨keys, (o.value? 't').bind List.head?, flags, o.has 's' || o.has 'u'⟩
      let found ← (if o.operands.isEmpty then [['-']] else o.operands).mapM fun path => do
        return (path, ← Shell.contentOf path)
      match found.find? fun e => !e.2.toBool with
      | some (path, .error fault) =>
        let what := if fault.showsOnReading then "read failed: "
          else if fault = .badDescriptor then "stat failed: "
          else "cannot read: "
        complain name (what.toList ++ shownPath path ++ ": ".toList ++ faultText fault)
        pure 2
      | _ =>
        let ls := (found.filterMap fun e => e.2.toOption).flatMap linesOfText
        if o.has 'c' || o.has 'C' then
          let wrong (a b : ByteText) : Bool :=
            let known := order.order a b
            known = .gt || o.has 'u' && known = .eq
          match firstDisorder wrong 1 ls with
          | none => pure 0
          | some (n, l) =>
            if !o.has 'C' then
              complain name (o.operands.headD ['-'] ++ [':'] ++ ByteText.ofNat n ++ ": disorder: ".toList ++ l)
            pure 1
        else
          let sorted := ls.mergeSort fun a b => order.order a b != .gt
          let kept := if o.has 'u' then order.distinct sorted else sorted
          match o.value? 'o' with
          | none =>
            Shell.say (unlines kept)
            pure 0
          | some path =>
            let code ← Shell.writePath path .write (unlines kept) fun fault =>
              complain name ("open failed: ".toList ++ shownPath path ++ ": ".toList ++ faultText fault)
            pure (2 * code)

/-- Runs of things that are alike, each with its length. -/
def runsOf {α : Type} (alike : α → α → Bool) : List α → List (α × Nat)
  | [] => []
  | a :: as =>
    match runsOf alike as with
    | (b, n) :: runs => if alike a b then (a, n + 1) :: runs else (a, 1) :: (b, n) :: runs
    | [] => [(a, 1)]

/-- A line without a number of fields at its beginning. -/
def withoutFields : Nat → ByteText → ByteText
  | 0, l => l
  | n + 1, l => withoutFields n ((withoutLead l).dropWhile fun c => !isGap c)

/-- Write lines of which each is different from the one before it. -/
def uniq : Utility :=
  withOptions "cduiz" "fsw" [("count", 'c'), ("repeated", 'd'), ("unique", 'u'), ("ignore-case", 'i')] 1
    fun name o => do
      let number (letter : Char) : Nat := ((o.value? letter).map valueOfDigits).getD 0
      let isWrong (e : Char × ByteText) : Bool := "fsw".toList.contains e.1 && (e.2.isEmpty || !e.2.all isDigit)
      if let some (letter, t) := o.given.find? isWrong then
        let what :=
          if letter = 'f' then "fields to skip" else if letter = 's' then "bytes to skip" else "bytes to compare"
        return ← refuse name (shownPath t ++ ": invalid number of ".toList ++ what.toList) 1
      if let some extra := o.operands[2]? then return ← misuse name ("extra operand ".toList ++ quoted extra) 1
      let path := o.operands.headD ['-']
      match ← Shell.contentOf path with
      | .error fault =>
        if fault.showsOnReading then
          refuse name ("error reading ".toList ++ quotedPath path ++ ": ".toList ++ faultText fault) 1
        else
          complainOfPath name path fault
          pure 1
      | .ok content =>
        let seen (l : ByteText) : ByteText :=
          let t := (withoutFields (number 'f') l).drop (number 's')
          let t := if o.has 'w' then t.take (number 'w') else t
          if o.has 'i' then t.map Char.toLower else t
        let runs := runsOf (fun a b => seen a == seen b) (linesOfText content)
        let kept := runs.filter fun e => (!o.has 'd' || 1 < e.2) && (!o.has 'u' || e.2 = 1)
        let text := unlines (kept.map fun (l, n) => if o.has 'c' then aligned 7 n ++ ' ' :: l else l)
        match o.operands[1]? with
        | none =>
          Shell.say text
          pure 0
        | some target => Shell.writePath target .write text (complainOfPath name target)

end Utility

end Script

end LinearProgram
