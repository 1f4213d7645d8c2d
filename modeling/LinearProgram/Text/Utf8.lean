/-!
UTF-8: characters as bytes and back.

The decoder reads byte by byte. Its state is either between characters or inside one, where it knows
which bytes may come next. A byte that may not come next ends an ill-formed part, and is then read anew
as a first byte; so the ill-formed parts are as long as they can be.

* `encode`: the bytes of a text.
* `parts`: the characters of a byte list, with `none` for each ill-formed part.
* `decode?`: the text of a byte list that has no ill-formed part.
* `decodeLossy`: the text with a replacement character for each ill-formed part.
-/

namespace LinearProgram

namespace Utf8

/-! ### Encoding -/

/-- The bytes of a list of characters. -/
def encodeChars (cs : List Char) : List UInt8 := cs.flatMap String.utf8EncodeChar

/-- The bytes of a string. -/
def encode (s : String) : List UInt8 := encodeChars s.toList

/-! ### Decoding -/

/-- The state inside a character: the bits read so far, the range of the next byte, and how many
further bytes follow that one. -/
structure Pending where
  bits : Nat
  least : Nat
  greatest : Nat
  further : Nat
  deriving DecidableEq

/-- What a byte does between characters: it is a character, opens one, or is ill-formed. -/
inductive Lead where
  | char (c : Char)
  | opens (p : Pending)
  | illFormed

/-- The role of a first byte. The narrower ranges after `0xE0`, `0xED`, `0xF0` and `0xF4` leave out
overlong forms, surrogates and numbers beyond the last code point. -/
def lead (b : Nat) : Lead :=
  if b < 0x80 then .char (Char.ofNat b)
  else if b < 0xC2 then .illFormed
  else if b < 0xE0 then .opens ⟨b - 0xC0, 0x80, 0xBF, 0⟩
  else if b = 0xE0 then .opens ⟨0, 0xA0, 0xBF, 1⟩
  else if b = 0xED then .opens ⟨0xD, 0x80, 0x9F, 1⟩
  else if b < 0xF0 then .opens ⟨b - 0xE0, 0x80, 0xBF, 1⟩
  else if b = 0xF0 then .opens ⟨0, 0x90, 0xBF, 2⟩
  else if b < 0xF4 then .opens ⟨b - 0xF0, 0x80, 0xBF, 2⟩
  else if b = 0xF4 then .opens ⟨4, 0x80, 0x8F, 2⟩
  else .illFormed

/-- The parts that a byte between characters completes, and the state after it. -/
def openWith (b : Nat) : List (Option Char) × Option Pending :=
  match lead b with
  | .char c => ([some c], none)
  | .opens p => ([], some p)
  | .illFormed => ([none], none)

/-- The parts that a byte completes, and the state after it. -/
def advance : Option Pending → Nat → List (Option Char) × Option Pending
  | none, b => openWith b
  | some p, b =>
    if p.least ≤ b ∧ b ≤ p.greatest then
      let bits := p.bits * 64 + (b - 0x80)
      match p.further with
      | 0 => ([some (Char.ofNat bits)], none)
      | further + 1 => ([], some ⟨bits, 0x80, 0xBF, further⟩)
    else (none :: (openWith b).1, (openWith b).2)

/-- The parts of the remaining bytes in a given state. A character that the end cuts off is ill-formed. -/
def partsFrom : Option Pending → List UInt8 → List (Option Char)
  | none, [] => []
  | some _, [] => [none]
  | state, b :: bs => (advance state b.toNat).1 ++ partsFrom (advance state b.toNat).2 bs

/-- The characters of a byte list, `none` standing for each ill-formed part. -/
def parts (bs : List UInt8) : List (Option Char) := partsFrom none bs

/-- The text of a byte list, if all of it is well-formed. -/
def decode? (bs : List UInt8) : Option String := ((parts bs).mapM id).map String.ofList

/-- The character that stands for an ill-formed part. -/
def replacement : Char := '\uFFFD'

/-- The text of a byte list with the replacement character for each ill-formed part. -/
def decodeLossy (bs : List UInt8) : String :=
  String.ofList ((parts bs).map fun p => p.getD replacement)

end Utf8

end LinearProgram
