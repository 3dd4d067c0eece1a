/-
# Message digests

The MD5 digest of a list of bytes: the message, closed by a one bit, zeros and its length, is
taken block by block through sixty-four steps on four words.
-/

import Eligibility.Text.Digit

namespace Eligibility
namespace Digest

/-- The four words of the state. -/
structure State where
  a : UInt32 := 0x67452301
  b : UInt32 := 0xefcdab89
  c : UInt32 := 0x98badcfe
  d : UInt32 := 0x10325476

/-- The constant of each step: the fraction of a sine. -/
def constants : Array UInt32 := #[
  0xd76aa478, 0xe8c7b756, 0x242070db, 0xc1bdceee, 0xf57c0faf, 0x4787c62a,
  0xa8304613, 0xfd469501, 0x698098d8, 0x8b44f7af, 0xffff5bb1, 0x895cd7be,
  0x6b901122, 0xfd987193, 0xa679438e, 0x49b40821, 0xf61e2562, 0xc040b340,
  0x265e5a51, 0xe9b6c7aa, 0xd62f105d, 0x02441453, 0xd8a1e681, 0xe7d3fbc8,
  0x21e1cde6, 0xc33707d6, 0xf4d50d87, 0x455a14ed, 0xa9e3e905, 0xfcefa3f8,
  0x676f02d9, 0x8d2a4c8a, 0xfffa3942, 0x8771f681, 0x6d9d6122, 0xfde5380c,
  0xa4beea44, 0x4bdecfa9, 0xf6bb4b60, 0xbebfbc70, 0x289b7ec6, 0xeaa127fa,
  0xd4ef3085, 0x04881d05, 0xd9d4d039, 0xe6db99e5, 0x1fa27cf8, 0xc4ac5665,
  0xf4292244, 0x432aff97, 0xab9423a7, 0xfc93a039, 0x655b59c3, 0x8f0ccc92,
  0xffeff47d, 0x85845dd1, 0x6fa87e4f, 0xfe2ce6e0, 0xa3014314, 0x4e0811a1,
  0xf7537e82, 0xbd3af235, 0x2ad7d2bb, 0xeb86d391
]

/-- The rotations of the four rounds, four by turns in each. -/
def rotations : Array UInt32 := #[7, 12, 17, 22, 5, 9, 14, 20, 4, 11, 16, 23, 6, 10, 15, 21]

/-- The low bytes of a number, lowest first. -/
def lowBytes : (count n : Nat) → List UInt8
  | 0, _ => []
  | count + 1, n => UInt8.ofNat (n % 256) :: lowBytes count (n / 256)

/-- The message with its closing bits and its length in bits. -/
def padded (message : List UInt8) : List UInt8 :=
  let zeros := (119 - message.length % 64) % 64
  message ++ 0x80 :: (List.replicate zeros 0 ++ lowBytes 8 (message.length * 8))

/-- Bytes as words, the lowest byte first. -/
def words : List UInt8 → List UInt32
  | a :: b :: c :: d :: rest =>
    (a.toUInt32 ||| b.toUInt32 <<< 8 ||| c.toUInt32 <<< 16 ||| d.toUInt32 <<< 24) :: words rest
  | _ => []

/-- A word rotated to the left. -/
def rotate (x amount : UInt32) : UInt32 := (x <<< amount) ||| (x >>> (32 - amount))

/-- The mixed word and the place of the message word of a step. -/
def mix (s : State) (i : Nat) : UInt32 × Nat :=
  if i < 16 then ((s.b &&& s.c) ||| (~~~s.b &&& s.d), i)
  else if i < 32 then ((s.d &&& s.b) ||| (~~~s.d &&& s.c), (5 * i + 1) % 16)
  else if i < 48 then (s.b ^^^ s.c ^^^ s.d, (3 * i + 5) % 16)
  else (s.c ^^^ (s.b ||| ~~~s.d), (7 * i) % 16)

/-- One step. -/
def step (block : Array UInt32) (s : State) (i : Nat) : State :=
  let (mixed, place) := mix s i
  let sum := s.a + mixed + constants.getD i 0 + block.getD place 0
  ⟨s.d, s.b + rotate sum (rotations.getD (4 * (i / 16) + i % 4) 0), s.b, s.c⟩

/-- The sixty-four steps of a block, added to the state before. -/
def compress (s : State) (block : Array UInt32) : State :=
  let t := (List.range 64).foldl (step block) s
  ⟨s.a + t.a, s.b + t.b, s.c + t.c, s.d + t.d⟩

/-- Words in blocks of sixteen. -/
def blocks : (count : Nat) → List UInt32 → List (Array UInt32)
  | 0, _ => []
  | count + 1, ws => (ws.take 16).toArray :: blocks count (ws.drop 16)

/-- The digest of a message. -/
def ofBytes (message : List UInt8) : List UInt8 :=
  let ws := words (padded message)
  let s := (blocks (ws.length / 16) ws).foldl compress {}
  [s.a, s.b, s.c, s.d].flatMap fun word => lowBytes 4 word.toNat

/-- The digest of an ASCII text, in hexadecimal digits. -/
def ofAscii (s : String) : String :=
  String.join ((ofBytes (s.toList.map fun c => UInt8.ofNat c.toNat)).map fun byte =>
    Text.padded 16 2 byte.toNat)

end Digest
end Eligibility
