import ChainCheckpoints.Bytes

/-!
# SHA-256

The Secure Hash Algorithm with 256-bit digests. A message is padded to a whole number of 64-byte
blocks; each block mixes eight 32-bit registers through 64 rounds, and what the registers hold at
the end is the hash.

A round needs the message word of its own number only, and each later word of the schedule
depends on the sixteen before it. So a round carries a window of sixteen words along: it uses up
the first and appends the next. No schedule of 64 words is ever built.

What is carried from block to block is a vector, not a record of registers. A record can always be
taken apart, whatever it is, and then a second hash over the bytes of a first one could be unrolled
round by round without any message being known. A vector that is not known stays whole.

## Main definitions

* `Sha256.Registers`: the eight working words of a block.
* `Sha256.pad`: the message as whole blocks, with its length at the end.
* `Sha256.compress`: one block mixed into the registers.
* `Sha256.hash`: the 32 bytes that name a message.

## Theorems

* `Sha256.length_pad`: a padded message is a whole number of blocks.
* `Sha256.length_hash`: a hash has 32 bytes.
-/

namespace ChainCheckpoints

namespace Sha256

/-- The eight working words of a block. -/
structure Registers where
  a : UInt32
  b : UInt32
  c : UInt32
  d : UInt32
  e : UInt32
  f : UInt32
  g : UInt32
  h : UInt32

/-- The words carried into the first block: the fractional parts of the square roots of the first
    eight primes. -/
def initial : Vector UInt32 8 :=
  #v[0x6a09e667, 0xbb67ae85, 0x3c6ef372, 0xa54ff53a, 0x510e527f, 0x9b05688c, 0x1f83d9ab, 0x5be0cd19]

/-- One constant per round: the fractional parts of the cube roots of the first 64 primes. -/
def roundConstants : List UInt32 :=
  [0x428a2f98, 0x71374491, 0xb5c0fbcf, 0xe9b5dba5, 0x3956c25b, 0x59f111f1, 0x923f82a4, 0xab1c5ed5,
   0xd807aa98, 0x12835b01, 0x243185be, 0x550c7dc3, 0x72be5d74, 0x80deb1fe, 0x9bdc06a7, 0xc19bf174,
   0xe49b69c1, 0xefbe4786, 0x0fc19dc6, 0x240ca1cc, 0x2de92c6f, 0x4a7484aa, 0x5cb0a9dc, 0x76f988da,
   0x983e5152, 0xa831c66d, 0xb00327c8, 0xbf597fc7, 0xc6e00bf3, 0xd5a79147, 0x06ca6351, 0x14292967,
   0x27b70a85, 0x2e1b2138, 0x4d2c6dfc, 0x53380d13, 0x650a7354, 0x766a0abb, 0x81c2c92e, 0x92722c85,
   0xa2bfe8a1, 0xa81a664b, 0xc24b8b70, 0xc76c51a3, 0xd192e819, 0xd6990624, 0xf40e3585, 0x106aa070,
   0x19a4c116, 0x1e376c08, 0x2748774c, 0x34b0bcb5, 0x391c0cb3, 0x4ed8aa4a, 0x5b9cca4f, 0x682e6ff3,
   0x748f82ee, 0x78a5636f, 0x84c87814, 0x8cc70208, 0x90befffa, 0xa4506ceb, 0xbef9a3f7, 0xc67178f2]

/-- A word turned right by `n` bits, for `0 < n < 32`. -/
def rotateRight (w n : UInt32) : UInt32 :=
  (w >>> n) ||| (w <<< (32 - n))

/-- The message word that follows a window of sixteen, given as its first word and the rest. -/
def nextWord (first : UInt32) (rest : List UInt32) : UInt32 :=
  let w1 := rest.getD 0 0
  let w9 := rest.getD 8 0
  let w14 := rest.getD 13 0
  let s0 := rotateRight w1 7 ^^^ rotateRight w1 18 ^^^ (w1 >>> 3)
  let s1 := rotateRight w14 17 ^^^ rotateRight w14 19 ^^^ (w14 >>> 10)
  first + s0 + w9 + s1

namespace Registers

/-- One round with the constant `k` and the message word `w`. -/
def round (r : Registers) (k w : UInt32) : Registers :=
  let s1 := rotateRight r.e 6 ^^^ rotateRight r.e 11 ^^^ rotateRight r.e 25
  let choice := (r.e &&& r.f) ^^^ ((~~~ r.e) &&& r.g)
  let t1 := r.h + s1 + choice + k + w
  let s0 := rotateRight r.a 2 ^^^ rotateRight r.a 13 ^^^ rotateRight r.a 22
  let majority := (r.a &&& r.b) ^^^ (r.a &&& r.c) ^^^ (r.b &&& r.c)
  ⟨t1 + s0 + majority, r.a, r.b, r.c, r.d + t1, r.e, r.f, r.g⟩

/-- The words as they are carried between blocks. -/
def toVector (r : Registers) : Vector UInt32 8 :=
  #v[r.a, r.b, r.c, r.d, r.e, r.f, r.g, r.h]

def ofVector (v : Vector UInt32 8) : Registers :=
  ⟨v[0], v[1], v[2], v[3], v[4], v[5], v[6], v[7]⟩

end Registers

/-- The rounds for the given constants, with the window of message words they start from. -/
def rounds : (constants window : List UInt32) → Registers → Registers
  | k :: constants, w :: window, r =>
    rounds constants (window ++ [nextWord w window]) (r.round k w)
  | _, _, r => r

/-- One block of sixteen words mixed into the words carried: these are added to what the rounds make
    of them. -/
def compress (carried : Vector UInt32 8) (block : List UInt32) : Vector UInt32 8 :=
  let mixed := rounds roundConstants block (.ofVector carried)
  Vector.zipWith (· + ·) carried mixed.toVector

/-- Four bytes make a word, most significant first. -/
def words : Bytes → List UInt32
  | b3 :: b2 :: b1 :: b0 :: rest =>
    ((b3.toUInt32 <<< 24) ||| (b2.toUInt32 <<< 16) ||| (b1.toUInt32 <<< 8) ||| b0.toUInt32)
      :: words rest
  | _ => []

/-- The first `count` blocks of the message words, mixed in one after the other. -/
def absorb : (count : Nat) → List UInt32 → Vector UInt32 8 → Vector UInt32 8
  | 0, _, carried => carried
  | count + 1, ws, carried => absorb count (ws.drop 16) (compress carried (ws.take 16))

/-- The bytes of eight words, most significant first. -/
def toBytes (carried : Vector UInt32 8) : Bytes :=
  carried.toList.flatMap fun w => Bytes.bigEndian 4 w.toNat

/-- The message as whole blocks: a one bit, zeros up to eight bytes before the end of a block,
    and the length in bits. -/
def pad (message : Bytes) : Bytes :=
  message ++ 0x80 :: List.replicate ((119 - message.length % 64) % 64) 0
    ++ Bytes.bigEndian 8 (8 * message.length)

/-- The 32 bytes that name a message. -/
def hash (message : Bytes) : Bytes :=
  let padded := pad message
  toBytes (absorb (padded.length / 64) (words padded) initial)

theorem length_pad (message : Bytes) : (pad message).length % 64 = 0 := by
  simp only [pad, List.length_append, List.length_cons, List.length_replicate,
    Bytes.length_bigEndian]
  omega

theorem length_toBytes (carried : Vector UInt32 8) : (toBytes carried).length = 32 := by
  simp [toBytes, List.length_flatMap, List.map_const']

theorem length_hash (message : Bytes) : (hash message).length = 32 :=
  length_toBytes _

-- All that is ever used of a hash is that it is a function with 32 bytes.
attribute [irreducible] hash

end Sha256

end ChainCheckpoints
