/-!
The MD5 digest of a byte list.

The message is padded to whole blocks of sixteen little-endian words. Each block is mixed into four words of
state by sixty-four steps, which differ in a word of the block, a constant, a rotation and a choice of bits.

* `Digest`: sixteen bytes, and `Digest.hex`, their text.
* `Digest.padded`: a message with the bit that ends it, zeros, and its length.
* `Digest.mixBlock`: the effect of one block on the state.
* `Digest.ofBytes`: the digest of a message.
-/

namespace LinearProgram

/-- A digest of sixteen bytes. -/
structure Digest where
  bytes : List UInt8
  deriving DecidableEq

namespace Digest

/-- Two digits for each byte. -/
def hex (d : Digest) : String :=
  String.ofList (d.bytes.flatMap fun b =>
    [Nat.digitChar (b.toNat / 16), Nat.digitChar (b.toNat % 16)])

instance : ToString Digest := ⟨hex⟩

/-- The four words that are carried from block to block. -/
structure State where
  a : UInt32
  b : UInt32
  c : UInt32
  d : UInt32
  deriving DecidableEq

/-- The state before the first block. -/
def State.initial : State := ⟨0x67452301, 0xefcdab89, 0x98badcfe, 0x10325476⟩

/-- The constants of the sixty-four steps: the first 32 bits of the fraction of `|sin i|`. -/
def stepConstants : Array UInt32 :=
  #[0xd76aa478, 0xe8c7b756, 0x242070db, 0xc1bdceee, 0xf57c0faf, 0x4787c62a, 0xa8304613, 0xfd469501,
    0x698098d8, 0x8b44f7af, 0xffff5bb1, 0x895cd7be, 0x6b901122, 0xfd987193, 0xa679438e, 0x49b40821,
    0xf61e2562, 0xc040b340, 0x265e5a51, 0xe9b6c7aa, 0xd62f105d, 0x02441453, 0xd8a1e681, 0xe7d3fbc8,
    0x21e1cde6, 0xc33707d6, 0xf4d50d87, 0x455a14ed, 0xa9e3e905, 0xfcefa3f8, 0x676f02d9, 0x8d2a4c8a,
    0xfffa3942, 0x8771f681, 0x6d9d6122, 0xfde5380c, 0xa4beea44, 0x4bdecfa9, 0xf6bb4b60, 0xbebfbc70,
    0x289b7ec6, 0xeaa127fa, 0xd4ef3085, 0x04881d05, 0xd9d4d039, 0xe6db99e5, 0x1fa27cf8, 0xc4ac5665,
    0xf4292244, 0x432aff97, 0xab9423a7, 0xfc93a039, 0x655b59c3, 0x8f0ccc92, 0xffeff47d, 0x85845dd1,
    0x6fa87e4f, 0xfe2ce6e0, 0xa3014314, 0x4e0811a1, 0xf7537e82, 0xbd3af235, 0x2ad7d2bb, 0xeb86d391]

/-- The rotations of the four rounds, each used in turn. -/
def rotations : Array (Array UInt32) :=
  #[#[7, 12, 17, 22], #[5, 9, 14, 20], #[4, 11, 16, 23], #[6, 10, 15, 21]]

/-- Rotate a word to the left. -/
def rotate (w by' : UInt32) : UInt32 := (w <<< by') ||| (w >>> (32 - by'))

/-- The choice of bits in step `i`, and the word of the block that the step adds. -/
def choice (s : State) (i : Nat) : UInt32 × Nat :=
  match i / 16 with
  | 0 => ((s.b &&& s.c) ||| (~~~s.b &&& s.d), i)
  | 1 => ((s.d &&& s.b) ||| (~~~s.d &&& s.c), (5 * i + 1) % 16)
  | 2 => (s.b ^^^ s.c ^^^ s.d, (3 * i + 5) % 16)
  | _ => (s.c ^^^ (s.b ||| ~~~s.d), (7 * i) % 16)

/-- One step of mixing. -/
def mixStep (block : Array UInt32) (s : State) (i : Nat) : State :=
  let (chosen, word) := choice s i
  let sum := s.a + chosen + stepConstants.getD i 0 + block.getD word 0
  ⟨s.d, s.b + rotate sum ((rotations.getD (i / 16) #[]).getD (i % 4) 0), s.b, s.c⟩

/-- Mix a block of sixteen words into the state. -/
def mixBlock (s : State) (block : Array UInt32) : State :=
  let t := (List.range 64).foldl (mixStep block) s
  ⟨s.a + t.a, s.b + t.b, s.c + t.c, s.d + t.d⟩

/-- The lowest `count` bytes of a number, least significant first. -/
def littleEndian (count n : Nat) : List UInt8 :=
  (List.range count).map fun i => UInt8.ofNat (n / Nat.pow 256 i)

/-- The message with a one bit, zeros up to eight bytes before a block's end, and its length in bits. -/
def padded (message : List UInt8) : List UInt8 :=
  message ++ 0x80 :: List.replicate ((119 - message.length % 64) % 64) 0
    ++ littleEndian 8 (8 * message.length)

/-- Bytes taken four at a time as little-endian words. -/
def words : List UInt8 → List UInt32
  | a :: b :: c :: d :: rest =>
    (a.toUInt32 ||| b.toUInt32 <<< 8 ||| c.toUInt32 <<< 16 ||| d.toUInt32 <<< 24) :: words rest
  | _ => []

/-- The first `count` blocks of sixteen words. -/
def blocks : Nat → List UInt32 → List (Array UInt32)
  | 0, _ => []
  | count + 1, ws => (ws.take 16).toArray :: blocks count (ws.drop 16)

/-- The digest of a message. Padding makes its words whole blocks. -/
def ofBytes (message : List UInt8) : Digest :=
  let ws := words (padded message)
  let s := (blocks (ws.length / 16) ws).foldl mixBlock .initial
  ⟨[s.a, s.b, s.c, s.d].flatMap fun w => littleEndian 4 w.toNat⟩

end Digest

end LinearProgram
