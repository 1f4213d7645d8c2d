import LinearProgram.Script.Syntax

/-!
Tildes for home directories.

A tilde stands for a home directory where a word begins, and in the value of a parameter behind a colon too. The name
of a user may follow it. Neither of them may be quoted.

* `homePiece?`: the directory that a name behind a tilde tells.
* `withHome`: a word with the tilde at its beginning put right.
* `withHomes`: a value with all its tildes put right.
-/

namespace LinearProgram

namespace Script

/-- The home directories of the users that every system has. -/
def userHomes : List (String × String) :=
  [("root", "/root"), ("daemon", "/usr/sbin"), ("bin", "/bin"), ("sys", "/dev"), ("sync", "/bin"),
   ("games", "/usr/games"), ("man", "/var/cache/man"), ("lp", "/var/spool/lpd"), ("mail", "/var/mail"),
   ("news", "/var/spool/news"), ("uucp", "/var/spool/uucp"), ("proxy", "/bin"), ("www-data", "/var/www"),
   ("backup", "/var/backups"), ("list", "/var/list"), ("irc", "/run/ircd"), ("_apt", "/nonexistent"),
   ("nobody", "/nonexistent")]

/-- The home directory of the user with a name, or one's own if there is none. -/
def homePiece? (name : ByteText) : Option Piece :=
  if name.isEmpty then some .home
  else (userHomes.lookup (String.ofList name)).map fun directory => .text true directory.toList

/-- The length of the name behind a tilde, before a slash, and perhaps a colon. -/
def homeNameLength (colons : Bool) (t : ByteText) : Nat :=
  (t.takeWhile fun c => c ≠ '/' && !(colons && c = ':')).length

/-- The home directory that the text behind a tilde names, if pieces may follow it. The name must not go on in
them. -/
def homeFront? (colons : Bool) (t : ByteText) (pieces : Word) : Option Piece :=
  let n := homeNameLength colons t
  if n = t.length && !pieces.isEmpty then none else homePiece? (t.take n)

/-- A word in which a tilde at the beginning stands for a home directory. -/
def withHome : Word → Word
  | .text false ('~' :: t) :: pieces =>
    match homeFront? false t pieces with
    | some piece =>
      let rest := t.drop (homeNameLength false t)
      piece :: (if rest.isEmpty then pieces else .text false rest :: pieces)
    | none => .text false ('~' :: t) :: pieces
  | word => word

/-- Unquoted text in front of pieces in which a tilde stands for a home directory behind a colon, and at the beginning
if `mayBegin` is set. -/
def homesInText (mayBegin : Bool) (t : ByteText) (pieces : Word) : Word :=
  match t with
  | [] => pieces
  | '~' :: t =>
    match if mayBegin then homeFront? true t pieces else none with
    | some piece => piece :: homesInText false (t.drop (homeNameLength true t)) pieces
    | none => consText false ['~'] (homesInText false t pieces)
  | c :: t => consText false [c] (homesInText (c = ':') t pieces)
termination_by t.length
decreasing_by
  all_goals simp only [List.length_drop, List.length_cons]
  all_goals omega

mutual

/-- A piece of a value with its tildes put right. -/
def homesInPiece : Piece → Piece
  | .parameter false name use => .parameter false name (homesInUse use)
  | piece => piece

/-- A use in a value with the tildes in its word put right. -/
def homesInUse : Use → Use
  | .otherwise orEmpty word => .otherwise orEmpty (homesInWord true word)
  | .instead orEmpty word => .instead orEmpty (homesInWord true word)
  | use => use

/-- Pieces of a value, which may be its first ones, with their tildes put right. -/
def homesInWord (mayBegin : Bool) : List Piece → List Piece
  | [] => []
  | .text false t :: pieces => homesInText mayBegin t (homesInWord false pieces)
  | piece :: pieces => homesInPiece piece :: homesInWord false pieces

end

/-- The value of a parameter, in which tildes at the beginning and behind colons stand for home directories. -/
def withHomes (value : Word) : Word := homesInWord true value

end Script

end LinearProgram
