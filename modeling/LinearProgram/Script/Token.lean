import LinearProgram.Number.Decimal
import LinearProgram.Script.Home

/-!
Reading the tokens of a script.

A script is read character by character, since what a character means depends on what stands around it: commands may
stand inside words, and the lines behind a command may be its input. The commands inside a word are read by a
computation that the functions here are given.

* `Reader`, `Read`: what is left of a script, and computations on it.
* `Token`, `Token.name`: tokens, and how complaints call them.
* `readPieces`: the pieces of a word, of quoted text, or of a text that is input.
* `readToken`: the next token.
-/

namespace LinearProgram

namespace Script

/-! ### Tokens -/

/-- How a redirection is written. -/
inductive Arrow where
  /-- To or from a file. -/
  | file (opening : Opening)
  /-- Where another stream goes. -/
  | copy
  /-- From the lines that follow, perhaps without the tabs they begin with. -/
  | here (withoutTabs : Bool)
  deriving DecidableEq

/-- A token. -/
inductive Token where
  /-- The end of the script. -/
  | ending
  /-- The end of a line. -/
  | newline
  | operator (text : String)
  | keyword (text : String)
  | redirection (stream : Nat) (arrow : Arrow)
  | word (quoted : Bool) (pieces : Word)

/-- The words of the language. -/
def keywords : List String :=
  ["!", "case", "do", "done", "elif", "else", "esac", "fi", "for", "if", "in", "then", "until", "while", "\x7b",
   "\x7d"]

namespace Token

/-- What a complaint calls a token. -/
def name : Token → String
  | ending => "end of file"
  | newline => "newline"
  | operator text => "\"" ++ text ++ "\""
  | keyword text => "\"" ++ text ++ "\""
  | redirection .. => "redirection"
  | word .. => "word"

/-- Whether a token is a certain operator. -/
def isOperator (text : String) : Token → Bool
  | operator t => t = text
  | _ => false

/-- Whether a token is a certain word of the language. -/
def isKeyword (text : String) : Token → Bool
  | keyword t => t = text
  | _ => false

/-- Whether a token ends a list of commands. -/
def closes : Token → Bool
  | ending => true
  | operator t => [")", ";;"].contains t
  | keyword t => ["do", "done", "elif", "else", "esac", "fi", "then", "\x7d"].contains t
  | _ => false

end Token

/-- The text of a word that is nothing but unquoted text. -/
def bare? : Word → Option ByteText
  | [.text false t] => some t
  | _ => none

/-- The text of a word, without what is to be substituted. -/
def plainText (word : Word) : ByteText :=
  word.flatMap fun
    | .text _ t => t
    | _ => []

/-! ### What is left of a script -/

/-- What is wrong with a script, and the line that shows it. -/
structure SyntaxFault where
  line : Nat
  reason : String
  deriving DecidableEq

/-- Lines that are the input of a command, up to a line with a mark. -/
structure Awaited where
  label : Nat
  mark : ByteText
  verbatim : Bool
  withoutTabs : Bool

/-- What is left of a script. -/
structure Reader where
  rest : ByteText
  /-- The number of the line that is being read. -/
  line : Nat
  /-- A token that has been put back. -/
  pushed : Option Token
  /-- The input that begins at the end of the line. -/
  awaited : List Awaited
  /-- The input that is being read. -/
  input : Option Awaited
  /-- What is behind the mark of that input, once it has been found. -/
  beyond : ByteText
  /-- The input that has been read, by its label. -/
  texts : List (Nat × Word)
  nextLabel : Nat
  /-- The texts that stand for words in front of arguments. -/
  aliases : List (ByteText × ByteText)
  /-- The words that have been replaced by what they stand for, each with the length of the text behind it. -/
  replaced : List (ByteText × Nat)
  /-- The lengths of the texts behind those that end with a blank, so that the word that comes next may be replaced
  too. -/
  opened : List Nat

/-- The reader at the beginning of a text. -/
def Reader.ofText (text : ByteText) (nextLabel : Nat) : Reader :=
  ⟨text, 1, none, [], none, [], [], nextLabel, [], [], []⟩

/-- A computation on what is left of a script. -/
abbrev Read := StateT Reader (Except SyntaxFault)

/-- The number of times that the characters of a text begin with a backslash and the end of a line, and what is
behind. -/
def dropJoins : ByteText → Nat × ByteText
  | '\\' :: '\n' :: cs => ((dropJoins cs).1 + 1, (dropJoins cs).2)
  | cs => (0, cs)

namespace Read

/-- Something is wrong on the line that is being read. -/
def fault {α : Type} (reason : String) : Read α := do throw ⟨(← get).line, "Syntax error: " ++ reason⟩

/-- A token has no place here. -/
def unexpected {α : Type} (t : Token) : Read α := fault (t.name ++ " unexpected")

/-- A token stands where another one is wanted. -/
def expecting {α : Type} (t wanted : Token) : Read α :=
  fault (t.name ++ " unexpected (expecting " ++ wanted.name ++ ")")

/-- A text ends too early. -/
def unterminated {α : Type} : Read α := fault "Unterminated quoted string"

/-- Take the next character as it is. -/
def take : Read (Option Char) := do
  match (← get).rest with
  | [] => pure none
  | c :: rest =>
    modify fun r => { r with rest, line := if c = '\n' then r.line + 1 else r.line }
    pure (some c)

/-- The next character, lines being joined at a backslash. It stays. -/
def peek : Read (Option Char) := do
  modify fun r =>
    let (joins, rest) := dropJoins r.rest
    { r with rest, line := r.line + joins }
  return (← get).rest.head?

/-- Take the next character, lines being joined at a backslash. -/
def next : Read (Option Char) := do
  discard peek
  take

/-- Take the next character if there is one; the end of a line does not count as one. -/
def skip : Read Unit := modify fun r => { r with rest := r.rest.drop 1 }

/-- Take the next character if it is a certain one. -/
def accept (c : Char) : Read Bool := do
  if (← peek) = some c then
    discard take
    pure true
  else pure false

/-- Take characters as long as they satisfy a test. -/
def takeWhile (test : Char → Bool) : Nat → Read ByteText
  | 0 => pure []
  | fuel + 1 => do
    match ← peek with
    | some c =>
      if test c then
        discard take
        return c :: (← takeWhile test fuel)
      else pure []
    | none => pure []

/-- Pass over a text that comes next. -/
def advance (t : ByteText) : Read Unit :=
  modify fun r => { r with rest := r.rest.drop t.length, line := r.line + t.count '\n' }

/-- At the beginning of a line of input, pass over the tabs in front of it if they do not count. If the line is
nothing but the mark, the text to be read ends in front of it. What would join the line to the next one does not do
so directly behind tabs; it is taken. -/
def beginLine : Read ByteText := do
  discard peek
  let r ← get
  match r.input with
  | none => pure []
  | some a =>
    let rest := if a.withoutTabs then r.rest.dropWhile fun c => c = '\t' else r.rest
    match a.mark.isPrefixOf rest, rest.drop a.mark.length with
    | true, [] =>
      set { r with rest := [], beyond := [], line := r.line + 1 }
      pure []
    | true, '\n' :: beyond =>
      set { r with rest := [], beyond, line := r.line + 1 }
      pure []
    | _, _ =>
      let joint := if ['\\', '\n'].isPrefixOf rest then ['\\', '\n'] else []
      set { r with rest := rest.drop joint.length, line := r.line + joint.count '\n' }
      pure joint

/-- Put a token back. -/
def push (t : Token) : Read Unit := modify fun r => { r with pushed := some t }

end Read

/-! ### Names -/

/-- Whether a character may begin a name. -/
def beginsName (c : Char) : Bool := c.isAlpha || c = '_'

/-- Whether a character may stand in a name. -/
def continuesName (c : Char) : Bool := c.isAlphanum || c = '_'

/-- Whether a text is a name. -/
def isName : ByteText → Bool
  | [] => false
  | c :: cs => beginsName c && cs.all continuesName

/-- The parameters that are not named but written with one sign. -/
def isSpecial (c : Char) : Bool := "@*#?-$!".toList.contains c

/-- Whether a character ends a word. -/
def endsBareWord (c : Char) : Bool := " \t\n;&|<>()".toList.contains c

/-- Whether a character is a blank between words. -/
def isGap (c : Char) : Bool := c = ' ' || c = '\t'

/-- Whether a character stands for nothing but itself everywhere. -/
def isOrdinary (c : Char) : Bool := c.isAlphanum || "_./,:=+-%@".toList.contains c

/-! ### Pieces of words -/

/-- Which commands are to be read. -/
inductive Extent where
  /-- Those of a line. -/
  | line
  /-- Those inside another command; there is at least one. -/
  | body
  /-- Those of a substitution or a branch; there may be none. -/
  | substitution
  /-- A single one. -/
  | single
  deriving DecidableEq

/-- How the commands inside a word are read. -/
abbrev Inner := Extent → Read (Option Command)

/-- Where pieces end. -/
inductive Stop where
  /-- At the end of a bare word. -/
  | word
  /-- At a double quote. -/
  | quote
  /-- At a closing brace. -/
  | brace
  /-- At two closing parentheses, some opening ones being open before. -/
  | parentheses (depth : Nat)
  /-- At the end of the text. -/
  | text
  deriving DecidableEq

/-- A command that does nothing. -/
def nothing : Command := .simple 0 [] [] []

/-- Take the text up to a single quote. -/
def readVerbatim : Read ByteText := do
  let inside := (← get).rest.takeWhile fun c => c ≠ '\''
  Read.advance inside
  match ← Read.take with
  | some _ => pure inside
  | none => Read.unterminated

/-- Take the text up to a backquote, a backslash being dropped in front of some characters. -/
def readBackquoted (double : Bool) : Nat → Read ByteText
  | 0 => Read.unterminated
  | fuel + 1 => do
    match ← Read.next with
    | none => Read.fault "EOF in backquote substitution"
    | some '\x60' => pure []
    | some '\\' =>
      match ← Read.take with
      | none => Read.fault "EOF in backquote substitution"
      | some c =>
        let rest ← readBackquoted double fuel
        pure (if "\\\x60$".toList.contains c || double && c = '"' then c :: rest else '\\' :: c :: rest)
    | some c => return c :: (← readBackquoted double fuel)

/-- Read commands from a text of its own, whose lines are counted from a given one. -/
def within {α : Type} (text : ByteText) (line : Nat) (act : Read α) : Read α := do
  let outer ← get
  set { outer with rest := text, line, pushed := none, awaited := [], input := none, replaced := [], opened := [] }
  let result ← act
  modify fun r => { outer with texts := r.texts, nextLabel := r.nextLabel }
  pure result

/-- The piece of the commands that `inner` reads. Input that would begin behind them is empty. -/
def outputPiece (double : Bool) (inner : Inner) : Read Piece := do
  let outer ← get
  set { outer with awaited := [], input := none }
  let command ← inner .substitution
  modify fun r =>
    let empty := r.awaited.map fun a => (a.label, [])
    { r with awaited := outer.awaited, input := outer.input, texts := empty ++ r.texts }
  return .output double (command.getD nothing)

/-- Pass over the parenthesis behind a list of commands that has been read. -/
def closeParenthesis : Read Unit := do
  let t := (← get).pushed.getD .ending
  modify fun r => { r with pushed := none }
  if !t.isOperator ")" then Read.expecting t (.operator ")")

/-- What is kept of a backslash and the character behind it in double quotes, in which the text may end at
`stop`. -/
def afterBackslash (stop : Stop) (c : Char) : ByteText :=
  if "\\\x60$".toList.contains c || c = '"' && stop ≠ .text || c = '\x7d' && stop = .brace then [c]
  else ['\\', c]

/-- Whether nothing comes of what stands behind some pieces. -/
def endsWord (pieces : Word) : Bool :=
  match pieces.getLast? with
  | some (.parameter _ _ (.before _)) => true
  | _ => false

mutual

/-- Read pieces, inside or outside double quotes, up to a stop. -/
def readPieces (inner : Inner) : Nat → Bool → Stop → Read Word
  | 0, _, _ => Read.unterminated
  | fuel + 1, double, stop => do
    match ← Read.peek with
    | none =>
      match stop, double && (← get).input.isNone with
      | .word, _ => pure []
      | .text, _ => pure []
      | .parentheses _, _ => Read.fault "Missing '))'"
      | _, false => Read.fault "Missing '\x7d'"
      | _, true => Read.unterminated
    | some c =>
      if stop = .word && endsBareWord c then pure []
      else
        discard Read.take
        if c = '\x7d' && stop = .brace || c = '"' && stop = .quote then pure []
        else readPiece inner fuel double stop c

/-- Read pieces that begin with a character already taken. -/
def readPiece (inner : Inner) : Nat → Bool → Stop → Char → Read Word
  | 0, _, _, _ => Read.unterminated
  | fuel + 1, double, stop, c => do
    match c, double, stop with
    | '\\', false, _ =>
      match ← Read.take with
      | none => return consText true ['\\'] []
      | some c => return consText true [c] (← readPieces inner fuel double stop)
    | '\\', true, _ =>
      match ← Read.take with
      | none => return consText true ['\\'] []
      | some c => return consText true (afterBackslash stop c) (← readPieces inner fuel double stop)
    | '\'', false, _ =>
      let t ← readVerbatim
      return consText true t (← readPieces inner fuel double stop)
    | '"', true, .text => return consText true ['"'] (← readPieces inner fuel double stop)
    | '"', true, .parentheses _ => return consText true ['"'] (← readPieces inner fuel double stop)
    | '"', _, _ =>
      let quoted ← readPieces inner fuel true .quote
      let rest ← readPieces inner fuel double stop
      return if quoted.isEmpty then consText true [] rest else if endsWord quoted then quoted
        else quoted.foldr consPiece rest
    | '(', true, .parentheses depth =>
      return consText true ['('] (← readPieces inner fuel double (.parentheses (depth + 1)))
    | ')', true, .parentheses (depth + 1) =>
      return consText true [')'] (← readPieces inner fuel double (.parentheses depth))
    | ')', true, .parentheses 0 =>
      if ← Read.accept ')' then pure []
      else return consText true [')'] (← readPieces inner fuel double stop)
    | '\x60', _, _ =>
      let t ← readBackquoted double (fuel + 1)
      let piece ← within t 1 (outputPiece double inner)
      return piece :: (← readPieces inner fuel double stop)
    | '$', _, _ =>
      let piece ← readSubstitution inner fuel double
      let rest ← readPieces inner fuel double stop
      return if endsWord [piece] then [piece] else consPiece piece rest
    | c, _, _ =>
      let front ← if c = '\n' then Read.beginLine else pure []
      let run := (← get).rest.takeWhile isOrdinary
      Read.advance run
      return consText double (c :: front ++ run) (← readPieces inner fuel double stop)
where
  /-- Put a piece before others. -/
  consPiece : Piece → Word → Word
    | .text quoted t, pieces => consText quoted t pieces
    | piece, pieces => piece :: pieces

/-- Read what follows a dollar sign. -/
def readSubstitution (inner : Inner) : Nat → Bool → Read Piece
  | 0, _ => Read.unterminated
  | fuel + 1, double => do
    match ← Read.peek with
    | some '(' =>
      discard Read.take
      if ← Read.accept '(' then return .arithmetic double (← readPieces inner fuel true (.parentheses 0))
      else
        let piece ← outputPiece double inner
        closeParenthesis
        pure piece
    | some '\x7b' =>
      discard Read.take
      readBraced inner fuel double
    | some c =>
      if beginsName c then return .parameter double (← Read.takeWhile continuesName (fuel + 1)) .plain
      else if c.isDigit || isSpecial c then
        discard Read.take
        return .parameter double [c] .plain
      else return .text double ['$']
    | none => return .text double ['$']

/-- Read what follows a dollar sign and an opening brace. -/
def readBraced (inner : Inner) : Nat → Bool → Read Piece
  | 0, _ => Read.unterminated
  | fuel + 1, double => do
    match ← Read.peek with
    | some '#' =>
      discard Read.take
      match (← Read.peek), (← get).rest.drop 1 with
      | some '\x7d', _ =>
        discard Read.take
        return .parameter double ['#'] .plain
      | some c, after =>
        if continuesName c then
          let name ← Read.takeWhile (if c.isDigit then Char.isDigit else continuesName) (fuel + 1)
          if ← Read.accept '\x7d' then return .parameter double name .length
          else readUnknown inner fuel double
        else if after.head? = some '\x7d' && c ≠ '\x7d' then
          discard Read.take
          discard Read.take
          return .parameter double [c] (if isSpecial c then .length else .unknown)
        else if isSpecial c || "\x7d:%+=".toList.contains c then
          return .parameter double ['#'] (← readUse inner fuel double)
        else
          Read.skip
          readUnknown inner fuel double
      | none, _ => Read.fault "Missing '\x7d'"
    | some c =>
      if beginsName c then
        let name ← Read.takeWhile continuesName (fuel + 1)
        return .parameter double name (← readUse inner fuel double)
      else if c.isDigit then
        let name ← Read.takeWhile Char.isDigit (fuel + 1)
        return .parameter double name (← readUse inner fuel double)
      else if isSpecial c then
        discard Read.take
        return .parameter double [c] (← readUse inner fuel double)
      else
        if c ≠ '\x7d' then Read.skip
        readUnknown inner fuel double
    | none => readUnknown inner fuel double

/-- Read the rest of a form in braces that is not known. -/
def readUnknown (inner : Inner) : Nat → Bool → Read Piece
  | 0, _ => Read.unterminated
  | fuel + 1, double => do
    discard (readPieces inner fuel double .brace)
    return .parameter double [] .unknown

/-- Read what is made of a parameter in braces. -/
def readUse (inner : Inner) : Nat → Bool → Read Use
  | 0, _ => Read.unterminated
  | fuel + 1, double => do
    if (← Read.peek) = some '\n' then
      Read.skip
      return ← readAlternative inner fuel double false '\n'
    match ← Read.next with
    | some '\x7d' => pure .plain
    | some ':' =>
      match ← Read.next with
      | some '\x7d' => return .before (← readPieces inner fuel double .brace)
      | some c => readAlternative inner fuel double true c
      | none => Read.fault "Missing '\x7d'"
    | some '%' =>
      let part := if ← Read.accept '%' then Trim.longestEnd else .shortestEnd
      return .trim part (withHome (← readPieces inner fuel false .brace))
    | some '#' =>
      let part := if ← Read.accept '#' then Trim.longestStart else .shortestStart
      return .trim part (withHome (← readPieces inner fuel false .brace))
    | some c => readAlternative inner fuel double false c
    | none => Read.fault "Missing '\x7d'"

/-- Read the word of a use that is told by a sign. -/
def readAlternative (inner : Inner) : Nat → Bool → Bool → Char → Read Use
  | 0, _, _, _ => Read.unterminated
  | fuel + 1, double, orEmpty, sign => do
    let word := withHome (← readPieces inner fuel double .brace)
    match sign with
    | '-' => pure (.otherwise orEmpty word)
    | '+' => pure (.instead orEmpty word)
    | '=' => pure (.assign orEmpty word)
    | '?' => pure (.require orEmpty word)
    | _ => pure .unknown

end

/-! ### Lines that are input -/

/-- Take a line with its end. -/
def takeLine : Read ByteText := do
  let rest := (← get).rest
  let line := rest.take ((rest.takeWhile fun c => c ≠ '\n').length + 1)
  Read.advance line
  pure line

/-- Take the lines up to one with a mark. -/
def takeLines (a : Awaited) : Nat → Read ByteText
  | 0 => pure []
  | fuel + 1 => do
    if (← get).rest.isEmpty then pure []
    else
      let line ← takeLine
      let line := if a.withoutTabs then line.dropWhile fun c => c = '\t' else line
      if line = a.mark || line = a.mark ++ ['\n'] then pure [] else return line ++ (← takeLines a fuel)

/-- Read the input that begins at the end of a line. -/
def readAwaited (fuel : Nat) (inner : Inner) : Read Unit := do
  let awaited := (← get).awaited
  modify fun r => { r with awaited := [] }
  awaited.forM fun a => do
    let word ←
      if a.verbatim then pure [.text true (← takeLines a fuel)]
      else
        modify fun r => { r with input := some a, beyond := [] }
        let front ← Read.beginLine
        let word ← consText true front <$> readPieces inner fuel true .text
        modify fun r => { r with input := none, rest := r.beyond }
        pure word
    modify fun r => { r with texts := (a.label, word) :: r.texts }

/-! ### The next token -/

/-- Pass over blanks and a comment. -/
def skipGaps : Nat → Read Unit
  | 0 => pure ()
  | fuel + 1 => do
    match ← Read.peek with
    | some c =>
      if isGap c then
        discard Read.take
        skipGaps fuel
      else if c = '#' then modify fun r => { r with rest := r.rest.dropWhile fun c => c ≠ '\n' }
    | none => pure ()

/-- Read the rest of a redirection that begins with an arrow to the left or to the right. -/
def readArrow (stream : Option Nat) (right : Bool) : Read Token := do
  if right then
    let stream := stream.getD 1
    if ← Read.accept '>' then return .redirection stream (.file .extend)
    else if ← Read.accept '|' then return .redirection stream (.file .overwrite)
    else if ← Read.accept '&' then return .redirection stream .copy
    else return .redirection stream (.file .write)
  else
    let stream := stream.getD 0
    if ← Read.accept '<' then return .redirection stream (.here (← Read.accept '-'))
    else if ← Read.accept '&' then return .redirection stream .copy
    else if ← Read.accept '>' then return .redirection stream (.file .both)
    else return .redirection stream (.file .read)

/-- The operator of a sign, which may be doubled. -/
def readOperator (c : Char) : Read Token := do
  if "&|;".toList.contains c then
    if ← Read.accept c then return .operator (String.ofList [c, c])
  return .operator (String.ofList [c])

/-- Whether any part of a word is quoted. -/
def isQuoted (word : Word) : Bool :=
  word.any fun
    | .text quoted _ => quoted
    | .parameter quoted .. => quoted
    | .output quoted _ => quoted
    | .arithmetic quoted _ => quoted
    | .home => false

/-- Read a word, or a redirection with the number of a stream in front. -/
def readWord (fuel : Nat) (inner : Inner) : Read Token := do
  let pieces ← readPieces inner fuel false .word
  match bare? pieces, (← get).rest.head? with
  | some [d], some '<' => if d.isDigit then return ← readNumbered d false
  | some [d], some '>' => if d.isDigit then return ← readNumbered d true
  | _, _ => pure ()
  return .word (isQuoted pieces) pieces
where
  /-- Read a redirection of the stream with a number. -/
  readNumbered (d : Char) (right : Bool) : Read Token := do
    discard Read.take
    readArrow (some (digitValue d)) right

/-- Read a token from the text. -/
def readNew (fuel : Nat) (inner : Inner) : Read Token := do
  skipGaps fuel
  match ← Read.peek with
  | none =>
    readAwaited fuel inner
    return .ending
  | some '\n' =>
    discard Read.take
    readAwaited fuel inner
    return .newline
  | some c =>
    if "&|;()".toList.contains c then
      discard Read.take
      readOperator c
    else if c = '<' ∨ c = '>' then
      discard Read.take
      readArrow none (c = '>')
    else readWord fuel inner

/-- The next token, which may have been put back before. -/
def readAny (fuel : Nat) (inner : Inner) : Read Token := do
  match (← get).pushed with
  | some t =>
    modify fun r => { r with pushed := none }
    pure t
  | none => readNew fuel inner

/-- A token that is a word of the language, if it is written like one. -/
def withKeyword : Token → Token
  | .word quoted pieces =>
    match bare? pieces with
    | some t => if keywords.contains (String.ofList t) then .keyword (String.ofList t) else .word quoted pieces
    | none => .word quoted pieces
  | t => t

/-- The text that a word in front of arguments stands for, unless it has just been put there for the same word. -/
def aliasOf? (r : Reader) : Token → Option (ByteText × ByteText)
  | .word false pieces => do
    let name ← bare? pieces
    let text ← r.aliases.lookup name
    if r.replaced.any fun e => e.1 = name && e.2 ≤ r.rest.length then none else some (name, text)
  | _ => none

/-- Replace words in front of arguments by what they stand for. A text may begin with another such word. -/
def replaceAlias (inner : Inner) (front : Token → Token) : Nat → Token → Read Token
  | 0, t => pure t
  | fuel + 1, t => do
    let r ← get
    match aliasOf? r t with
    | none => pure t
    | some (name, text) =>
      let behind := r.rest.length
      let opened := if (text.getLast?.map isGap).getD false then behind :: r.opened else r.opened
      set { r with rest := text ++ r.rest, replaced := (name, behind) :: r.replaced, opened }
      replaceAlias inner front fuel (front (← readAny fuel inner))

/-- The next token behind a command. A word is replaced by what it stands for if the text that has been put in the
place of the word before it ends with a blank. -/
def readBehind (fuel : Nat) (inner : Inner) : Read Token := do
  let r ← get
  let reached := (r.rest.dropWhile isGap).length
  if r.pushed.isNone && r.opened.any fun n => decide (reached ≤ n) then
    set { r with opened := r.opened.filter fun n => decide (n < reached) }
    replaceAlias inner id fuel (← readAny fuel inner)
  else readAny fuel inner

/-- The next token, where words of the language have their meaning. -/
def readKeyword (fuel : Nat) (inner : Inner) : Read Token := do
  if (← get).pushed.isSome then withKeyword <$> readAny fuel inner
  else replaceAlias inner withKeyword fuel (withKeyword (← readAny fuel inner))

/-- The next token that is not the end of a line, where words of the language have their meaning. -/
def readBeyond (inner : Inner) : Nat → Read Token
  | 0 => pure .ending
  | fuel + 1 => do
    match ← readKeyword fuel inner with
    | .newline => readBeyond inner fuel
    | t => pure t

/-- What a text that marks the end of input begins with, inside a quote or not: whether any of it is quoted, the
mark, and the rest. -/
def markOf : Option Char → ByteText → Bool × ByteText × ByteText
  | none, '\\' :: c :: cs =>
    let (_, mark, rest) := markOf none cs
    (true, c :: mark, rest)
  | none, c :: cs =>
    if c = '\'' ∨ c = '"' then (true, (markOf (some c) cs).2)
    else if endsBareWord c then (false, [], c :: cs)
    else
      let (quoted, mark, rest) := markOf none cs
      (quoted, c :: mark, rest)
  | some q, c :: cs =>
    if c = q then markOf none cs
    else
      let (quoted, mark, rest) := markOf (some q) cs
      (quoted, c :: mark, rest)
  | _, [] => (false, [], [])

/-- Read a word that marks the end of input. Nothing in it is substituted. -/
def readMark (fuel : Nat) : Read (Option (Bool × ByteText)) := do
  skipGaps fuel
  let (quoted, mark, rest) := markOf none (← get).rest
  modify fun r => { r with rest }
  pure (if quoted || !mark.isEmpty then some (quoted, mark) else none)

end Script

end LinearProgram
