import LinearProgram.Script.Utility.Line
import LinearProgram.Script.Utility.Regex.Reader

/-!
Looking for lines that match.

* `LineTest`: what is looked for in a line, and its matches.
* `Search`: how lines are looked for, and which are shown.
* `Front`: what stands in front of a line.
* `grep`: the lines of texts with a match.
-/

namespace LinearProgram

namespace Script

namespace Utility

/-! ### Lines that match -/

/-- What is looked for in a line. -/
structure LineTest where
  patterns : List Regex
  /-- Whether a match must be the whole line. -/
  whole : Bool
  /-- Whether a match must be made of whole words. -/
  words : Bool

namespace LineTest

/-- Whether a match may begin and end at two places. -/
def fits (lt : LineTest) (t : Array Char) (a b : Nat) : Bool :=
  let side (n : Nat) : Bool := Regex.isWordSide t[n]?
  (!lt.whole || a = 0 && b = t.size) && (!lt.words || !(decide (0 < a) && side (a - 1)) && !side b)

/-- The first match from a place on; of those that begin at one place the longest. -/
def find (lt : LineTest) (t : Array Char) (place : Nat) : Option Regex.Match :=
  let found := lt.patterns.filterMap fun r => r.findFrom t (lt.fits t) (t.size + 1 - place) place
  found.foldl (fun best m => match best with
    | some (b : Regex.Match) =>
      if m.start < b.start || m.start = b.start && b.stop < m.stop then some m else some b
    | none => some m) none

/-- The places of the matches in a line that are not empty, one behind the other, with their texts. -/
def all (lt : LineTest) (t : Array Char) : Nat → Nat → List (Nat × ByteText)
  | 0, _ => []
  | fuel + 1, place =>
    match lt.find t place with
    | none => []
    | some m =>
      if m.start = m.stop then all lt t fuel (m.stop + 1)
      else (m.start, Regex.slice t m.start m.stop) :: all lt t fuel m.stop

end LineTest

/-- How lines are looked for. -/
structure Search where
  test : LineTest
  /-- Whether the lines without a match are the ones that are looked for. -/
  isInverted : Bool
  /-- The sign at the ends of lines. -/
  ending : Char
  /-- The greatest number of lines that are selected, if there is one. -/
  most : Option Nat
  /-- How many lines in front of a selected line and behind it are shown, if there can be groups of lines. -/
  around : Option (Nat × Nat)
  /-- What stands between groups of lines. -/
  gap : Option ByteText

/-- A line with its number, its place in the text, and whether it is one that was looked for. -/
structure Found where
  number : Nat
  place : Nat
  line : ByteText
  selected : Bool

namespace Search

/-- The lines of a text, each with whether it is one that is looked for. -/
def lines (s : Search) (content : ByteText) : List Found :=
  let ls := endedBy s.ending content
  let places := ls.foldl (fun (known, place) l => (place :: known, place + l.length + 1)) ([], 0)
  ((ls.zip places.1.reverse).zipIdx 1).map fun ((l, place), n) =>
    ⟨n, place, l, (s.test.find (Regex.subject l) 0).isSome != s.isInverted⟩

/-- The first of the given number of selected lines, with all lines around them. -/
def firstSelected : Nat → List Found → List Found
  | _, [] => []
  | n, l :: ls =>
    if l.selected then
      match n with
      | 0 => { l with selected := false } :: firstSelected 0 ls
      | n + 1 => l :: firstSelected n ls
    else l :: firstSelected n ls

/-- The selected lines with those around them. -/
def shown (s : Search) (ls : List Found) : List Found :=
  let (before, after) := s.around.getD (0, 0)
  let chosen := (ls.filter (·.selected)).map (·.number)
  ls.filter fun l => chosen.any fun n => decide (n ≤ l.number + before) && decide (l.number ≤ n + after)

end Search

/-- What stands in front of a line: the name of its file, its number and its place, each with a sign behind it. A
number and a place have a width if lines are put below each other. -/
structure Front where
  label : Option ByteText
  /-- The sign behind the name of the file, if it is always the same. -/
  labelSign : Option Char
  hasNumber : Bool
  hasPlace : Bool
  width : Option Nat

namespace Front

/-- What stands in front of a line at a place. -/
def text (f : Front) (l : Found) (place : Nat) (isEmpty : Bool) : ByteText :=
  let sign := if l.selected then ':' else '-'
  let own (n : Nat) : ByteText := aligned (f.width.getD 0) n ++ [sign]
  let parts := (f.label.map fun t => t ++ [f.labelSign.getD sign]).getD [] ++
    (if f.hasNumber then own l.number else []) ++ if f.hasPlace then own place else []
  if f.width.isNone || parts.isEmpty || isEmpty then parts else parts ++ ['\t']

end Front

/-- The texts of lines that are shown, with a sign between groups of them; `isFirst` tells whether nothing has been
shown before. -/
def shownLines (s : Search) (onlyMatches : Bool) (front : Front) (isFirst : Bool) (ls : List Found) : List ByteText :=
  go (if isFirst then none else some 0) ls
where
  /-- The texts of lines behind one with a number; behind those of another file, that number is nought. -/
  go : Option Nat → List Found → List ByteText
    | _, [] => []
    | last, l :: ls =>
      let isApart := s.around.isSome && last.any fun n => n + 1 ≠ l.number || n = 0
      let gap := if isApart then (s.gap.map fun t => t ++ ['\n']).toList else []
      let t := Regex.subject l.line
      let own := if onlyMatches then
          if l.selected && !s.isInverted then
            (s.test.all t (t.size + 1) 0).map fun (start, piece) =>
              front.text l (l.place + start) false ++ piece ++ [s.ending]
          else []
        else [front.text l l.place l.line.isEmpty ++ l.line ++ [s.ending]]
      gap ++ own ++ go (some l.number) ls

/-- Whether a line is not text: bytes in it are not part of UTF-8. -/
def hasStray (l : ByteText) : Bool := l.any (fun c => decide ('\x80' ≤ c)) && l.characters.any ByteText.isStray

/-- The last of some options that is given. -/
def lastAmong (o : Options) (letters : String) : Option Char :=
  ((o.given.map Prod.fst).filter letters.toList.contains).getLast?

/-- How far a search has come. -/
structure SearchState where
  /-- Whether something has been found. -/
  found : Bool
  /-- Whether something went wrong. -/
  failed : Bool
  /-- Whether lines have been shown. -/
  told : Bool

/-- Look for lines in a text, and tell whether there are any and whether they have been shown. Of what is not text no
line is shown. The text behind the greatest number of lines is left over; its length is told, too. -/
def grepText (o : Options) (s : Search) (label : Option ByteText) (path : ByteText) (isStream isFirst : Bool)
    (content : ByteText) : Shell (Bool × Bool × Nat) := do
  let asText := lastAmong o "aI\x05" = some 'a'
  let isText := s.ending = '\x00' || asText || !content.contains '\x00'
  let ls := s.lines (if isText then content else content.map fun c => if c = '\x00' then '\n' else c)
  let ls := (s.most.map fun m => Search.firstSelected m ls).getD ls
  let isSkipped := !isText && lastAmong o "aI\x05" = some 'I'
  let count := if isSkipped then 0 else ls.countP (·.selected)
  let sign := if o.has 'Z' then '\x00' else '\n'
  let mut told := false
  if o.has 'q' then pure ()
  else if (lastAmong o "lL").isSome then
    if (lastAmong o "lL" = some 'l') = (0 < count) then Shell.say (label.getD path ++ [sign])
  else if o.has 'c' then
    let front := (label.map fun t => t ++ [if o.has 'Z' then sign else ':']).getD []
    Shell.sayLine (front ++ ByteText.ofNat count)
  else
    let size := content.length + if o.has 'n' then 1 else 0
    let width := if isStream then 19 else (ByteText.ofNat size).length
    let front : Front := ⟨label, if o.has 'Z' then some sign else none, o.has 'n', o.has 'b',
      if o.has 'T' then some width else none⟩
    let shown := if isText then s.shown ls else []
    let clear := if asText then shown else shown.takeWhile fun l => !hasStray l.line
    let texts := shownLines s (o.has 'o') front isFirst clear
    Shell.say texts.flatten
    told := !texts.isEmpty
    if clear.length < shown.length || !isText && 0 < count then
      Shell.sayLine ("grep: ".toList ++ path ++ ": binary file matches".toList)
  let lastNumber := ((ls.filter (·.selected)).getLast?.map (·.number)).getD 0
  let isFull := s.most.any fun m => decide (m ≤ count)
  pure (decide (0 < count), told, if isFull then ((rawLines content).drop lastNumber).flatten.length else 0)

/-! ### Options -/

/-- The patterns of a text, line by line, with the operators that have nothing in front of them. -/
def patternsOf (o : Options) (text : ByteText) : Except Regex.Fault (List (Regex × List Regex.Sign)) :=
  let folded := (lastAmong o "iy\x02").any fun c => c ≠ '\x02'
  (pieces (fun c => c = '\n') text).mapM fun t =>
    if o.has 'F' then .ok (.ofText folded t, [])
    else Regex.read ⟨o.has 'E' || o.has 'P', false, o.has 'P', folded, false⟩ t

/-- What is said about an operator that has nothing in front of it. -/
def bareWarning (sign : Regex.Sign) : ByteText :=
  let shown := match sign with
    | .plus => "+"
    | .question => "?"
    | .brace => "\x7b...\x7d"
    | _ => "*"
  "warning: ".toList ++ shown.toList ++ " at start of expression".toList

/-- Options in which digits are put together to a number of lines around. -/
def withContextLetters (o : Options) : Options :=
  let given := o.given.foldr (fun (letter, value) known =>
    if !letter.isDigit then (letter, value) :: known
    else
      match known with
      | ('\x07', digits) :: known => ('\x07', letter :: digits) :: known
      | known => ('\x07', [letter]) :: known) []
  { o with given := given.map fun (letter, value) => (if letter = '\x07' then 'C' else letter, value) }

/-- What is wrong with options that are in order by themselves. -/
def grepFault? (o : Options) : Option ByteText :=
  (o.given.zipIdx).findSome? fun ((letter, value), n) =>
    let isKind (c : Char) : Bool := "EFGP".toList.contains c
    if isKind letter && (o.given.take n).any fun e => isKind e.1 && e.1 ≠ letter then
      some "conflicting matchers specified".toList
    else if "ABC".toList.contains letter && !(readDecimal? value).any fun k => 0 ≤ k then
      some (value ++ ": invalid context length argument".toList)
    else if letter = 'm' && (readDecimal? value).isNone then some "invalid max count".toList
    else if letter = '\x04' && !(["text", "binary", "without-match"].contains (String.ofList value)) then
      some "unknown binary-files type".toList
    else none

/-- Options in which what is to be done with files that are not text is told by letters. -/
def withBinaryLetters (o : Options) : Options :=
  let given := o.given.map fun (letter, value) =>
    if letter ≠ '\x04' then (letter, value)
    else (if value = "text".toList then 'a' else if value = "binary".toList then '\x05' else 'I', [])
  { o with given }

/-- What options tell about the lines that are looked for. No patterns at all match no line. -/
def searchOf (o : Options) (patterns : List Regex) (isNothing : Bool) : Search :=
  let number (c : Char) : Option Nat := (o.value? c).bind fun t => (readDecimal? t).bind fun n =>
    if n < 0 then none else some n.toNat
  let around := number 'C'
  let contexts := ((number 'B').orElse fun _ => around, (number 'A').orElse fun _ => around)
  { test := ⟨patterns, o.has 'x' && !isNothing, o.has 'w' && !isNothing⟩
    isInverted := o.has 'v' != isNothing
    ending := if o.has 'z' then '\x00' else '\n'
    most := number 'm'
    around := if contexts.1.isSome || contexts.2.isSome then some (contexts.1.getD 0, contexts.2.getD 0) else none
    gap := if lastAmong o "\x01\x03" = some '\x03' then none else some ((o.value? '\x01').getD "--".toList) }

/-! ### The utility -/

/-- Complain about a file that cannot be searched. -/
def complainOfFile (name path : ByteText) (fault : FileFault) : Shell Unit :=
  complain name (path ++ ": ".toList ++ faultText fault)

/-- The files below a path, if it leads to a directory, or the path itself. Links in directories are passed over,
unless `follows` is set. -/
def filesBelow (follows : Bool) : Nat → ByteText → ByteText → Shell (List ByteText)
  | 0, _, _ => pure []
  | depth + 1, front, path => do
    match (← Shell.files).find (← Shell.path path) with
    | .ok (place, .directory) =>
      let fs ← Shell.files
      let names := (fs.namesIn place).filter fun n => follows || match fs.node? (place ++ [n]) with
        | some (.link _) | some (.device _) => false
        | _ => true
      let inner ← names.mapM fun n =>
        let shown := front ++ ByteText.ofString n
        filesBelow follows depth (shown ++ ['/']) (if path.getLast? = some '/' then path ++ .ofString n
          else path ++ '/' :: ByteText.ofString n)
      pure inner.flatten
    | _ => pure [if front.isEmpty then path else front.dropLast]

/-- Look for lines in the texts of some paths. -/
def searchPaths (name : ByteText) (o : Options) (s : Search) (labelled : Bool) :
    SearchState → List ByteText → Shell Nat
  | state, [] => pure (if state.failed then 2 else if state.found then 0 else 1)
  | state, path :: rest => do
    let told := if path = ['-'] then (o.value? '\x06').getD "(standard input)".toList else path
    let isList := (lastAmong o "lL").isSome
    if !o.has 'q' && !o.has 'c' && !isList && s.most ≠ some 1 && (← outputAt? path).isSome then
      if !o.has 's' then complain name (told ++ ": input file is also the output".toList)
      return ← searchPaths name o s labelled { state with failed := true } rest
    match ← Shell.contentOf path with
    | .ok content =>
      let isStream := path = ['-'] && !((← Shell.channel? 0) matches some (_, .file ..))
      let (here, shown, left) ← grepText o s (if labelled then some told else none) told isStream (!state.told) content
      if path = ['-'] && !o.has 'q' && !isList then Shell.giveBack 0 left
      let state := { state with found := state.found || here, told := state.told || shown }
      if state.found && (o.has 'q' || o.has 'm' || o.has 'l') then Shell.spare 0
      if here && o.has 'q' then pure 0 else searchPaths name o s labelled state rest
    | .error fault =>
      let isSkipped := fault = .isADirectory && o.value? 'd' = some "skip".toList
      if !o.has 's' && !isSkipped then complainOfFile name told fault
      searchPaths name o s labelled { state with failed := state.failed || !isSkipped } rest

/-- Write the lines of texts with a match. -/
def grepWith (more : List (Char × ByteText)) : Utility := fun name arguments =>
  match Options.read? "EFGPivncqslLowxhHryzaIbTUuRZ0123456789" "efmABCdD\x01\x04\x06"
      [("count", 'c'), ("quiet", 'q'), ("silent", 'q'), ("invert-match", 'v'), ("ignore-case", 'i'),
       ("no-ignore-case", '\x02'), ("line-number", 'n'), ("only-matching", 'o'), ("extended-regexp", 'E'),
       ("fixed-strings", 'F'), ("fixed-regexp", 'F'), ("basic-regexp", 'G'), ("perl-regexp", 'P'),
       ("word-regexp", 'w'), ("line-regexp", 'x'), ("no-messages", 's'), ("files-with-matches", 'l'),
       ("files-without-match", 'L'), ("max-count", 'm'), ("regexp", 'e'), ("no-filename", 'h'),
       ("with-filename", 'H'), ("file", 'f'), ("after-context", 'A'), ("before-context", 'B'), ("context", 'C'),
       ("group-separator", '\x01'), ("no-group-separator", '\x03'), ("byte-offset", 'b'), ("text", 'a'),
       ("binary", 'U'), ("binary-files", '\x04'), ("label", '\x06'), ("null", 'Z'), ("null-data", 'z'),
       ("initial-tab", 'T'), ("line-buffered", 'u'), ("color", 'u'), ("colour", 'u'), ("recursive", 'r'),
       ("dereference-recursive", 'R'), ("directories", 'd'), ("devices", 'D')] arguments with
  | .error complaint => do
    complain name complaint
    usage name
  | .ok o => do
    let o := withContextLetters { o with given := more ++ o.given }
    if let some complaint := grepFault? o then return ← refuse name complaint 2
    let o := withBinaryLetters o
    let fromFiles ← ((o.given.filter fun e => e.1 = 'f').map Prod.snd).mapM fun path => do
      return (path, ← Shell.contentOf path)
    let given := (o.given.filter fun e => e.1 = 'e').map Prod.snd
    let texts := given ++ (fromFiles.filterMap fun e => e.2.toOption.map fun t =>
      if t.getLast? = some '\n' then [t.dropLast] else if t.isEmpty then [] else [t]).flatten
    match fromFiles.find? fun e => !e.2.toBool, given.isEmpty && fromFiles.isEmpty, o.operands with
    | some (path, .error fault), _, _ =>
      complainOfFile name path fault
      pure 2
    | _, true, [] => usage name
    | _, isFirst, operands =>
      let (texts, operands) := if isFirst then (operands.take 1, operands.drop 1) else (texts, operands)
      let isNothing := texts.isEmpty
      let texts := if isNothing then [[]] else texts
      let isHopeless := texts = [[]] && o.has 'v' != isNothing && (isNothing || !o.has 'x' && !o.has 'w')
      if (isHopeless || ((o.value? 'm').bind readDecimal?) = some 0) && lastAmong o "lL" ≠ some 'L' then return 1
      match (texts.mapM (patternsOf o)).map List.flatten with
      | .error fault => refuse name fault.message.toList 2
      | .ok patterns =>
        (patterns.flatMap Prod.snd).forM fun sign => complain name (bareWarning sign)
        let isDeep := o.has 'r' || o.has 'R' || o.value? 'd' = some "recurse".toList
        let wholes ← operands.anyM fun path => return (← Shell.files).isDirectory (← Shell.path path)
        let isNamed := match lastAmong o "hH" with
          | some c => c = 'H'
          | none => decide (1 < operands.length) || isDeep && (operands.isEmpty || wholes)
        let paths ← if !isDeep then pure (if operands.isEmpty then [['-']] else operands)
          else if operands.isEmpty then filesBelow (o.has 'R') 40 [] ['.']
          else List.flatten <$> operands.mapM fun path => filesBelow (o.has 'R') 40 (shownFront path) path
        searchPaths name o (searchOf o (patterns.map Prod.fst) isNothing) isNamed ⟨false, false, false⟩ paths
where
  /-- What stands in front of the names in a directory at a path. -/
  shownFront (path : ByteText) : ByteText := if path.getLast? = some '/' then path else path ++ ['/']
  /-- Tell how the utility is called. -/
  usage (name : ByteText) : Shell Nat := do
    Shell.warn ("Usage: ".toList ++ name ++ " [OPTION]... PATTERNS [FILE]...".toList)
    Shell.warn ("Try '".toList ++ name ++ " --help' for more information.".toList)
    pure 2

/-- Write the lines of texts with a match. -/
def grep : Utility := grepWith []

/-- Write the lines of texts that match an expression in the extended notation. -/
def egrep : Utility := fun _ => grepWith [('E', [])] "grep".toList

/-- Write the lines of texts with a text in them. -/
def fgrep : Utility := fun _ => grepWith [('F', [])] "grep".toList

end Utility

end Script

end LinearProgram
