import ObjectVault.Bytes

/-!
# MD5

A message is filled up to whole blocks of sixty-four bytes, and each block turns a state of four
words into the next. `digest` always has sixteen bytes, which its type says.
-/

namespace ObjectVault

/-- Sixteen bytes that stand for a message. -/
abbrev Digest := { bytes : Bytes // bytes.length = 16 }

namespace Md5

/-! ### The message in blocks -/

/-- The low `count` bytes of a number, the lowest first. -/
def littleEndian : (count n : Nat) → Bytes
  | 0, _ => []
  | count + 1, n => UInt8.ofNat n :: littleEndian count (n / 256)

/-- The message, a one bit, zeros, and the message's length in bits on eight bytes. -/
def fill (message : Bytes) : Bytes :=
  message ++ 0x80 :: List.replicate ((119 - message.length % 64) % 64) 0
    ++ littleEndian 8 (8 * message.length)

/-- The words of a sequence of bytes, the lowest byte of each first. -/
def words : Bytes → List UInt32
  | a :: b :: c :: d :: rest =>
      (a.toUInt32 ||| b.toUInt32 <<< 8 ||| c.toUInt32 <<< 16 ||| d.toUInt32 <<< 24) :: words rest
  | _ => []

/-- A list in stretches of sixteen; a shorter rest is left out. -/
def blocks (list : List UInt32) : List (List UInt32) :=
  if _enough : 16 ≤ list.length then list.take 16 :: blocks (list.drop 16) else []
termination_by list.length
decreasing_by rw [List.length_drop]; omega

/-! ### The state -/

/-- The four words that a block transforms. -/
structure State where
  a : UInt32
  b : UInt32
  c : UInt32
  d : UInt32

def start : State := ⟨0x67452301, 0xEFCDAB89, 0x98BADCFE, 0x10325476⟩

/-- The constants of the sixty-four steps: the whole part of 2^32 · |sin i| for i from 1. -/
def sines : List UInt32 := [
  0xd76aa478, 0xe8c7b756, 0x242070db, 0xc1bdceee, 0xf57c0faf, 0x4787c62a, 0xa8304613, 0xfd469501,
  0x698098d8, 0x8b44f7af, 0xffff5bb1, 0x895cd7be, 0x6b901122, 0xfd987193, 0xa679438e, 0x49b40821,
  0xf61e2562, 0xc040b340, 0x265e5a51, 0xe9b6c7aa, 0xd62f105d, 0x02441453, 0xd8a1e681, 0xe7d3fbc8,
  0x21e1cde6, 0xc33707d6, 0xf4d50d87, 0x455a14ed, 0xa9e3e905, 0xfcefa3f8, 0x676f02d9, 0x8d2a4c8a,
  0xfffa3942, 0x8771f681, 0x6d9d6122, 0xfde5380c, 0xa4beea44, 0x4bdecfa9, 0xf6bb4b60, 0xbebfbc70,
  0x289b7ec6, 0xeaa127fa, 0xd4ef3085, 0x04881d05, 0xd9d4d039, 0xe6db99e5, 0x1fa27cf8, 0xc4ac5665,
  0xf4292244, 0x432aff97, 0xab9423a7, 0xfc93a039, 0x655b59c3, 0x8f0ccc92, 0xffeff47d, 0x85845dd1,
  0x6fa87e4f, 0xfe2ce6e0, 0xa3014314, 0x4e0811a1, 0xf7537e82, 0xbd3af235, 0x2ad7d2bb, 0xeb86d391]

/-- How far the four steps of a round's cycle rotate. -/
def rotations : Nat → List UInt32
  | 0 => [7, 12, 17, 22]
  | 1 => [5, 9, 14, 20]
  | 2 => [4, 11, 16, 23]
  | _ => [6, 10, 15, 21]

/-- The round's mixing function and the word of the block that step `i` reads. -/
def mix (i : Nat) (s : State) : UInt32 × Nat :=
  match i / 16 with
  | 0 => ((s.b &&& s.c) ||| (~~~s.b &&& s.d), i)
  | 1 => ((s.d &&& s.b) ||| (~~~s.d &&& s.c), (5 * i + 1) % 16)
  | 2 => (s.b ^^^ s.c ^^^ s.d, (3 * i + 5) % 16)
  | _ => (s.c ^^^ (s.b ||| ~~~s.d), (7 * i) % 16)

/-- A word with its bits moved `by` places to the left, round the end. -/
def rotateLeft (word places : UInt32) : UInt32 :=
  word <<< places ||| word >>> (32 - places)

/-- Step `i` of a block, with the constant `sine`. -/
def step (block : List UInt32) (s : State) (numbered : UInt32 × Nat) : State :=
  let i := numbered.2
  let (mixed, index) := mix i s
  let sum := s.a + mixed + numbered.1 + block.getD index 0
  ⟨s.d, s.b + rotateLeft sum ((rotations (i / 16)).getD (i % 4) 0), s.b, s.c⟩

/-- The sixty-four steps of one block, added to the state before it. -/
def absorb (s : State) (block : List UInt32) : State :=
  let t := sines.zipIdx.foldl (step block) s
  ⟨s.a + t.a, s.b + t.b, s.c + t.c, s.d + t.d⟩

def wordBytes (word : UInt32) : Bytes :=
  [word.toUInt8, (word >>> 8).toUInt8, (word >>> 16).toUInt8, (word >>> 24).toUInt8]

/-- The bytes of a state, word by word. -/
def State.toDigest (s : State) : Digest :=
  ⟨wordBytes s.a ++ wordBytes s.b ++ wordBytes s.c ++ wordBytes s.d, rfl⟩

def digest (message : Bytes) : Digest :=
  ((blocks (words (fill message))).foldl absorb start).toDigest

end Md5

end ObjectVault
