/-!
# SHA-256

The digest of the secure hash standard: the message is padded to whole blocks of 64 bytes, each
block is spread to 64 words, and 64 rounds mix them into a state of eight words.
-/

namespace WorkflowWalk
namespace Sha256

/-! ## Constants -/

/-- The constants of the rounds: the first bits of the cube roots of the first 64 primes. -/
def roundConstants : List UInt32 :=
  [
    0x428a2f98, 0x71374491, 0xb5c0fbcf, 0xe9b5dba5, 0x3956c25b, 0x59f111f1, 0x923f82a4, 0xab1c5ed5,
    0xd807aa98, 0x12835b01, 0x243185be, 0x550c7dc3, 0x72be5d74, 0x80deb1fe, 0x9bdc06a7, 0xc19bf174,
    0xe49b69c1, 0xefbe4786, 0x0fc19dc6, 0x240ca1cc, 0x2de92c6f, 0x4a7484aa, 0x5cb0a9dc, 0x76f988da,
    0x983e5152, 0xa831c66d, 0xb00327c8, 0xbf597fc7, 0xc6e00bf3, 0xd5a79147, 0x06ca6351, 0x14292967,
    0x27b70a85, 0x2e1b2138, 0x4d2c6dfc, 0x53380d13, 0x650a7354, 0x766a0abb, 0x81c2c92e, 0x92722c85,
    0xa2bfe8a1, 0xa81a664b, 0xc24b8b70, 0xc76c51a3, 0xd192e819, 0xd6990624, 0xf40e3585, 0x106aa070,
    0x19a4c116, 0x1e376c08, 0x2748774c, 0x34b0bcb5, 0x391c0cb3, 0x4ed8aa4a, 0x5b9cca4f, 0x682e6ff3,
    0x748f82ee, 0x78a5636f, 0x84c87814, 0x8cc70208, 0x90befffa, 0xa4506ceb, 0xbef9a3f7, 0xc67178f2]

structure State where
  a : UInt32
  b : UInt32
  c : UInt32
  d : UInt32
  e : UInt32
  f : UInt32
  g : UInt32
  h : UInt32
deriving DecidableEq, Repr

/-- The state at the start: the first bits of the square roots of the first eight primes. -/
def State.start : State :=
  ⟨0x6a09e667, 0xbb67ae85, 0x3c6ef372, 0xa54ff53a, 0x510e527f, 0x9b05688c, 0x1f83d9ab, 0x5be0cd19⟩

def State.words (s : State) : List UInt32 :=
  [s.a, s.b, s.c, s.d, s.e, s.f, s.g, s.h]

def State.add (s t : State) : State :=
  ⟨s.a + t.a, s.b + t.b, s.c + t.c, s.d + t.d, s.e + t.e, s.f + t.f, s.g + t.g, s.h + t.h⟩

/-! ## Words -/

def rotate (w : UInt32) (n : UInt32) : UInt32 :=
  (w >>> n) ||| (w <<< (32 - n))

def smallSigma0 (w : UInt32) : UInt32 :=
  rotate w 7 ^^^ rotate w 18 ^^^ (w >>> 3)

def smallSigma1 (w : UInt32) : UInt32 :=
  rotate w 17 ^^^ rotate w 19 ^^^ (w >>> 10)

def bigSigma0 (w : UInt32) : UInt32 :=
  rotate w 2 ^^^ rotate w 13 ^^^ rotate w 22

def bigSigma1 (w : UInt32) : UInt32 :=
  rotate w 6 ^^^ rotate w 11 ^^^ rotate w 25

def choose (x y z : UInt32) : UInt32 :=
  (x &&& y) ^^^ ((~~~ x) &&& z)

def majority (x y z : UInt32) : UInt32 :=
  (x &&& y) ^^^ (x &&& z) ^^^ (y &&& z)

/-! ## Padding -/

def bigEndian : Nat → Nat → List UInt8
  | 0, _ => []
  | count + 1, n => UInt8.ofNat (n / Nat.pow 256 count) :: bigEndian count n

def paddingZeros (length : Nat) : Nat :=
  (55 + 64 - length % 64) % 64

/-- The message with a set bit, zeros and its length in bits behind it. -/
def pad (message : List UInt8) : List UInt8 :=
  message ++ 0x80 :: List.replicate (paddingZeros message.length) 0 ++
    bigEndian 8 (message.length * 8)

theorem length_bigEndian
    (count n : Nat) :
    (bigEndian count n).length = count := by
  induction count with
  | zero =>
      rfl
  | succ count ih =>
      simp [bigEndian, ih]

theorem length_pad_mod
    (message : List UInt8) :
    (pad message).length % 64 = 0 := by
  simp [pad, paddingZeros, length_bigEndian]
  omega

def wordsOf : List UInt8 → List UInt32
  | a :: b :: c :: d :: rest =>
      (a.toUInt32 <<< 24 ||| b.toUInt32 <<< 16 ||| c.toUInt32 <<< 8 ||| d.toUInt32) :: wordsOf rest
  | _ => []

/-! ## Blocks -/

/-- The next word of the schedule, given the last sixteen with the latest first. -/
def nextWord (latest : List UInt32) : UInt32 :=
  smallSigma1 (latest.getD 1 0) + latest.getD 6 0 + smallSigma0 (latest.getD 14 0) +
    latest.getD 15 0

def extend : Nat → List UInt32 → List UInt32
  | 0, latest => latest
  | count + 1, latest => extend count (nextWord latest :: latest)

def schedule (block : List UInt32) : List UInt32 :=
  (extend 48 block.reverse).reverse

def round (s : State) (input : UInt32 × UInt32) : State :=
  let t1 := s.h + bigSigma1 s.e + choose s.e s.f s.g + input.1 + input.2
  let t2 := bigSigma0 s.a + majority s.a s.b s.c
  ⟨t1 + t2, s.a, s.b, s.c, s.d + t1, s.e, s.f, s.g⟩

def compress (s : State) (block : List UInt32) : State :=
  s.add ((roundConstants.zip (schedule block)).foldl round s)

def absorb (s : State) (words : List UInt32) : State :=
  match words with
  | [] => s
  | first :: rest => absorb (compress s ((first :: rest).take 16)) (rest.drop 15)
termination_by words.length
decreasing_by
  rw [List.length_drop, List.length_cons]
  omega

/-! ## Digests -/

def digest (message : List UInt8) : List UInt32 :=
  (absorb State.start (wordsOf (pad message))).words

def hexWord (word : UInt32) : List Char :=
  (List.range 8).map fun place => Nat.digitChar (word.toNat / Nat.pow 16 (7 - place) % 16)

/-- The digest of a text in UTF-8 as hexadecimal digits. -/
def hex (text : String) : String :=
  String.ofList ((digest text.toUTF8.toList).flatMap hexWord)

end Sha256
end WorkflowWalk
