import AnswerKey.Text.Quoted

namespace AnswerKey
namespace Fingerprint

/-!
Fingerprints of answers: the beginning of the SHA-256 digest of the UTF-8 text, in hexadecimal.  A
fingerprint is the same in every run and does not show the answer.
-/

/-! ### The digest -/

/-- Constants of the rounds: the first bits of the fractional parts of the cube roots of the first
primes. -/
def roundConstants : List UInt32 :=
  [0x428a2f98, 0x71374491, 0xb5c0fbcf, 0xe9b5dba5, 0x3956c25b, 0x59f111f1, 0x923f82a4, 0xab1c5ed5,
    0xd807aa98, 0x12835b01, 0x243185be, 0x550c7dc3, 0x72be5d74, 0x80deb1fe, 0x9bdc06a7, 0xc19bf174,
    0xe49b69c1, 0xefbe4786, 0x0fc19dc6, 0x240ca1cc, 0x2de92c6f, 0x4a7484aa, 0x5cb0a9dc, 0x76f988da,
    0x983e5152, 0xa831c66d, 0xb00327c8, 0xbf597fc7, 0xc6e00bf3, 0xd5a79147, 0x06ca6351, 0x14292967,
    0x27b70a85, 0x2e1b2138, 0x4d2c6dfc, 0x53380d13, 0x650a7354, 0x766a0abb, 0x81c2c92e, 0x92722c85,
    0xa2bfe8a1, 0xa81a664b, 0xc24b8b70, 0xc76c51a3, 0xd192e819, 0xd6990624, 0xf40e3585, 0x106aa070,
    0x19a4c116, 0x1e376c08, 0x2748774c, 0x34b0bcb5, 0x391c0cb3, 0x4ed8aa4a, 0x5b9cca4f, 0x682e6ff3,
    0x748f82ee, 0x78a5636f, 0x84c87814, 0x8cc70208, 0x90befffa, 0xa4506ceb, 0xbef9a3f7, 0xc67178f2]

/-- The eight words that are carried from block to block. -/
structure Words where
  a : UInt32
  b : UInt32
  c : UInt32
  d : UInt32
  e : UInt32
  f : UInt32
  g : UInt32
  h : UInt32
  deriving DecidableEq, Repr

namespace Words

/-- The words in front of the first block: the first bits of the fractional parts of the square
roots of the first primes. -/
def initial : Words :=
  ⟨0x6a09e667, 0xbb67ae85, 0x3c6ef372, 0xa54ff53a, 0x510e527f, 0x9b05688c, 0x1f83d9ab, 0x5be0cd19⟩

def add (x y : Words) : Words :=
  ⟨x.a + y.a, x.b + y.b, x.c + y.c, x.d + y.d, x.e + y.e, x.f + y.f, x.g + y.g, x.h + y.h⟩

def toList (x : Words) : List UInt32 :=
  [x.a, x.b, x.c, x.d, x.e, x.f, x.g, x.h]

end Words

def rotateRight (x : UInt32) (count : UInt32) : UInt32 :=
  (x >>> count) ||| (x <<< (32 - count))

/-- One round with its constant and its word of the schedule. -/
def round (x : Words) (constant word : UInt32) : Words :=
  let sumE := rotateRight x.e 6 ^^^ rotateRight x.e 11 ^^^ rotateRight x.e 25
  let choice := (x.e &&& x.f) ^^^ (~~~x.e &&& x.g)
  let first := x.h + sumE + choice + constant + word
  let sumA := rotateRight x.a 2 ^^^ rotateRight x.a 13 ^^^ rotateRight x.a 22
  let majority := (x.a &&& x.b) ^^^ (x.a &&& x.c) ^^^ (x.b &&& x.c)
  ⟨first + (sumA + majority), x.a, x.b, x.c, x.d + first, x.e, x.f, x.g⟩

/-- The next word of a schedule of which the last sixteen words are given, the oldest first. -/
def nextWord (recent : List UInt32) : UInt32 :=
  let at_ (i : Nat) : UInt32 := recent.getD i 0
  let early := at_ 1
  let late := at_ 14
  let s0 := rotateRight early 7 ^^^ rotateRight early 18 ^^^ (early >>> 3)
  let s1 := rotateRight late 17 ^^^ rotateRight late 19 ^^^ (late >>> 10)
  at_ 0 + s0 + at_ 9 + s1

/-- The rounds of one block, with the constants that are left and the sixteen latest words. -/
def rounds : List UInt32 → List UInt32 → Words → Words
  | [], _, x => x
  | constant :: constants, recent, x =>
      rounds constants (recent.drop 1 ++ [nextWord recent]) (round x constant (recent.headD 0))

/-- Big-endian words of bytes, four to a word. -/
def wordsOf : List UInt8 → List UInt32
  | a :: b :: c :: d :: rest =>
      (a.toUInt32 <<< 24 ||| b.toUInt32 <<< 16 ||| c.toUInt32 <<< 8 ||| d.toUInt32) :: wordsOf rest
  | _ => []

/-- A number as big-endian bytes. -/
def bytesOf (width : Nat) (n : Nat) : List UInt8 :=
  (List.range width).map fun i => UInt8.ofNat (n / Nat.pow 256 (width - 1 - i))

/-- Bytes filled up to whole blocks of sixty-four: a set bit, zeros, and the number of bits. -/
def pad (bytes : List UInt8) : List UInt8 :=
  bytes ++ 0x80 :: List.replicate ((119 - bytes.length % 64) % 64) 0 ++
    bytesOf 8 (8 * bytes.length)

/-- The words behind a number of blocks. -/
def blocks : (count : Nat) → List UInt32 → Words → Words
  | 0, _, x => x
  | count + 1, words, x =>
      blocks count (words.drop 16) (x.add (rounds roundConstants (words.take 16) x))

/-- The digest of some bytes, as eight words. -/
def digest (bytes : List UInt8) : List UInt32 :=
  let words := wordsOf (pad bytes)
  (blocks (words.length / 16) words .initial).toList

/-! ### Fingerprints -/

/-- The first sixteen hexadecimal digits of the digest of an answer. -/
def ofAnswer (answer : String) : String :=
  .ofList (((digest answer.toUTF8.toList).take 2).flatMap fun word =>
    Text.Quoted.hexPadded 8 word.toNat)

end Fingerprint
end AnswerKey
