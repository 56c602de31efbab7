import NullFlow.Text.Hex

/-!
# Digests

The SHA-256 digest of a file, by which a manifest recognises it.

A message is padded to blocks of 64 bytes: a byte `0x80`, zeros, and the length of the message in
bits in the last eight bytes. Each block is expanded to 64 words and mixed into the state of eight
words, one word a round; the state after the last block is the digest.
-/

namespace NullFlow.Digest

open Text (hexDigit)

/-- The state of the computation: eight words. -/
structure State where
  a : UInt32
  b : UInt32
  c : UInt32
  d : UInt32
  e : UInt32
  f : UInt32
  g : UInt32
  h : UInt32

/-- The state before the first block: the fractions of the square roots of the first eight prime
numbers. -/
def State.initial : State :=
  ⟨0x6a09e667, 0xbb67ae85, 0x3c6ef372, 0xa54ff53a, 0x510e527f, 0x9b05688c, 0x1f83d9ab, 0x5be0cd19⟩

/-- The words of a state in order. -/
def State.words (s : State) : List UInt32 := [s.a, s.b, s.c, s.d, s.e, s.f, s.g, s.h]

/-- Word by word sum of two states. -/
def State.add (s t : State) : State :=
  ⟨s.a + t.a, s.b + t.b, s.c + t.c, s.d + t.d, s.e + t.e, s.f + t.f, s.g + t.g, s.h + t.h⟩

/-- One constant for each round: the fractions of the cube roots of the first 64 primes. -/
def roundConstants : List UInt32 :=
  [0x428a2f98, 0x71374491, 0xb5c0fbcf, 0xe9b5dba5, 0x3956c25b, 0x59f111f1, 0x923f82a4, 0xab1c5ed5,
   0xd807aa98, 0x12835b01, 0x243185be, 0x550c7dc3, 0x72be5d74, 0x80deb1fe, 0x9bdc06a7, 0xc19bf174,
   0xe49b69c1, 0xefbe4786, 0x0fc19dc6, 0x240ca1cc, 0x2de92c6f, 0x4a7484aa, 0x5cb0a9dc, 0x76f988da,
   0x983e5152, 0xa831c66d, 0xb00327c8, 0xbf597fc7, 0xc6e00bf3, 0xd5a79147, 0x06ca6351, 0x14292967,
   0x27b70a85, 0x2e1b2138, 0x4d2c6dfc, 0x53380d13, 0x650a7354, 0x766a0abb, 0x81c2c92e, 0x92722c85,
   0xa2bfe8a1, 0xa81a664b, 0xc24b8b70, 0xc76c51a3, 0xd192e819, 0xd6990624, 0xf40e3585, 0x106aa070,
   0x19a4c116, 0x1e376c08, 0x2748774c, 0x34b0bcb5, 0x391c0cb3, 0x4ed8aa4a, 0x5b9cca4f, 0x682e6ff3,
   0x748f82ee, 0x78a5636f, 0x84c87814, 0x8cc70208, 0x90befffa, 0xa4506ceb, 0xbef9a3f7, 0xc67178f2]

/-- Rotates a word to the right. -/
def rotate (x n : UInt32) : UInt32 := (x >>> n) ||| (x <<< (32 - n))

def smallSigma0 (x : UInt32) : UInt32 := rotate x 7 ^^^ rotate x 18 ^^^ (x >>> 3)

def smallSigma1 (x : UInt32) : UInt32 := rotate x 17 ^^^ rotate x 19 ^^^ (x >>> 10)

def bigSigma0 (x : UInt32) : UInt32 := rotate x 2 ^^^ rotate x 13 ^^^ rotate x 22

def bigSigma1 (x : UInt32) : UInt32 := rotate x 6 ^^^ rotate x 11 ^^^ rotate x 25

/-- Bit by bit one of two words. -/
def choose (x y z : UInt32) : UInt32 := (x &&& y) ^^^ (~~~x &&& z)

/-- Bit by bit the value that two of three words agree on. -/
def majority (x y z : UInt32) : UInt32 := (x &&& y) ^^^ (x &&& z) ^^^ (y &&& z)

/-- **One round**: mixes a word of the block into the state. -/
def State.round (s : State) (constant word : UInt32) : State :=
  let t := s.h + bigSigma1 s.e + choose s.e s.f s.g + constant + word
  let u := bigSigma0 s.a + majority s.a s.b s.c
  ⟨t + u, s.a, s.b, s.c, s.d + t, s.e, s.f, s.g⟩

/-- Extends the words of a block by as many more; each depends on four of the sixteen before it. -/
def expand : Nat → Array UInt32 → Array UInt32
  | 0, w => w
  | n + 1, w =>
    let back (k : Nat) : UInt32 := w.getD (w.size - k) 0
    expand n (w.push (smallSigma1 (back 2) + back 7 + smallSigma0 (back 15) + back 16))

/-- The words of a sequence of bytes, the high byte first. -/
def toWords : List UInt8 → List UInt32
  | a :: b :: c :: d :: r =>
    (a.toUInt32 <<< 24 ||| b.toUInt32 <<< 16 ||| c.toUInt32 <<< 8 ||| d.toUInt32) :: toWords r
  | _ => []

/-- **Mixes a block into the state.** -/
def State.block (s : State) (bytes : List UInt8) : State :=
  let words := expand 48 (toWords bytes).toArray
  s.add ((roundConstants.zip words.toList).foldl (fun t p => t.round p.1 p.2) s)

/-- The size of a block in bytes. -/
def blockSize : Nat := 64

/-- A number as bytes, the high byte first. -/
def toBytes (count n : Nat) : List UInt8 :=
  (List.range count).reverse.map fun i => UInt8.ofNat (n / Nat.pow 256 i)

/-- **What is appended to a message** of the given size. -/
def padding (size : Nat) : List UInt8 :=
  0x80 :: List.replicate ((blockSize - (size + 9) % blockSize) % blockSize) 0
    ++ toBytes 8 (8 * size)

/-- Mixes all blocks into the state. -/
def State.blocks (s : State) (bytes : List UInt8) : State :=
  match bytes with
  | [] => s
  | b :: r => (s.block ((b :: r).take blockSize)).blocks ((b :: r).drop blockSize)
termination_by bytes.length
decreasing_by simp only [List.length_drop, List.length_cons, blockSize]; omega

/-- A byte as two digits. -/
def hexByte (b : UInt8) : List Char := [hexDigit (b.toNat / 16), hexDigit (b.toNat % 16)]

/-- **The digest of a message** in hexadecimal digits. -/
def ofBytes (message : List UInt8) : String :=
  let final := State.initial.blocks (message ++ padding message.length)
  String.ofList <| final.words.flatMap fun w => (toBytes 4 w.toNat).flatMap hexByte

end NullFlow.Digest
