import AeadEnvelope.Binary.BigEndian
import AeadEnvelope.Binary.Hex

/-!
# SHA-256 and fingerprints

A fingerprint stands for associated data where the data themselves must not be shown: it is the
hexadecimal form of the first eight bytes of their SHA-256 digest.
-/
namespace AeadEnvelope

namespace Sha256

/-- The eight words that a block changes. -/
structure State where
  /-- First word. -/
  a : UInt32
  /-- Second word. -/
  b : UInt32
  /-- Third word. -/
  c : UInt32
  /-- Fourth word. -/
  d : UInt32
  /-- Fifth word. -/
  e : UInt32
  /-- Sixth word. -/
  f : UInt32
  /-- Seventh word. -/
  g : UInt32
  /-- Eighth word. -/
  h : UInt32

/-- The first 32 fractional bits of the cube roots of the first 64 primes. -/
def roundConstants : List UInt32 := [
  0x428a2f98, 0x71374491, 0xb5c0fbcf, 0xe9b5dba5, 0x3956c25b, 0x59f111f1, 0x923f82a4, 0xab1c5ed5,
  0xd807aa98, 0x12835b01, 0x243185be, 0x550c7dc3, 0x72be5d74, 0x80deb1fe, 0x9bdc06a7, 0xc19bf174,
  0xe49b69c1, 0xefbe4786, 0x0fc19dc6, 0x240ca1cc, 0x2de92c6f, 0x4a7484aa, 0x5cb0a9dc, 0x76f988da,
  0x983e5152, 0xa831c66d, 0xb00327c8, 0xbf597fc7, 0xc6e00bf3, 0xd5a79147, 0x06ca6351, 0x14292967,
  0x27b70a85, 0x2e1b2138, 0x4d2c6dfc, 0x53380d13, 0x650a7354, 0x766a0abb, 0x81c2c92e, 0x92722c85,
  0xa2bfe8a1, 0xa81a664b, 0xc24b8b70, 0xc76c51a3, 0xd192e819, 0xd6990624, 0xf40e3585, 0x106aa070,
  0x19a4c116, 0x1e376c08, 0x2748774c, 0x34b0bcb5, 0x391c0cb3, 0x4ed8aa4a, 0x5b9cca4f, 0x682e6ff3,
  0x748f82ee, 0x78a5636f, 0x84c87814, 0x8cc70208, 0x90befffa, 0xa4506ceb, 0xbef9a3f7, 0xc67178f2]

/-- The first 32 fractional bits of the square roots of the first eight primes. -/
def initial : State :=
  ⟨0x6a09e667, 0xbb67ae85, 0x3c6ef372, 0xa54ff53a,
    0x510e527f, 0x9b05688c, 0x1f83d9ab, 0x5be0cd19⟩

/-- Rotate a word to the right. -/
def rotate (word count : UInt32) : UInt32 := word >>> count ||| word <<< (32 - count)

/-- Word that follows a window of sixteen words of the schedule. -/
def nextWord (window : List UInt32) : UInt32 :=
  let early := window.getD 1 0
  let late := window.getD 14 0
  let low := rotate early 7 ^^^ rotate early 18 ^^^ early >>> 3
  let high := rotate late 17 ^^^ rotate late 19 ^^^ late >>> 10
  high + window.getD 9 0 + low + window.getD 0 0

/-- The first `count` words of a schedule that goes on from a window of sixteen words. -/
def schedule : (count : Nat) → List UInt32 → List UInt32
  | count + 1, first :: later =>
    first :: schedule count (later ++ [nextWord (first :: later)])
  | _, _ => []

/-- One round with its constant and its word of the schedule. -/
def round (state : State) (step : UInt32 × UInt32) : State :=
  let mixed := rotate state.e 6 ^^^ rotate state.e 11 ^^^ rotate state.e 25
  let choice := state.e &&& state.f ^^^ ~~~state.e &&& state.g
  let first := state.h + mixed + choice + step.1 + step.2
  let spread := rotate state.a 2 ^^^ rotate state.a 13 ^^^ rotate state.a 22
  let majority := state.a &&& state.b ^^^ state.a &&& state.c ^^^ state.b &&& state.c
  ⟨first + (spread + majority), state.a, state.b, state.c, state.d + first, state.e, state.f,
    state.g⟩

/-- The first `count` runs of `width` bytes. -/
def runs (width : Nat) : (count : Nat) → Bytes → List Bytes
  | 0, _ => []
  | count + 1, bytes => bytes.take width :: runs width count (bytes.drop width)

/-- The sixteen words of a block of 64 bytes. -/
def wordsOf (block : Bytes) : List UInt32 :=
  (runs 4 16 block).map fun word => UInt32.ofNat (ofBigEndian word)

/-- Change the state by one block. -/
def compress (state : State) (block : Bytes) : State :=
  let after := (roundConstants.zip (schedule 64 (wordsOf block))).foldl round state
  ⟨state.a + after.a, state.b + after.b, state.c + after.c, state.d + after.d, state.e + after.e,
    state.f + after.f, state.g + after.g, state.h + after.h⟩

/-- A message with its end mark, zeros up to a whole block, and its length in bits. -/
def padded (message : Bytes) : Bytes :=
  message ++ 0x80 :: List.replicate ((119 - message.length % 64) % 64) 0 ++
    bigEndian 8 (8 * message.length)

/-- SHA-256 digest of a message. -/
def digest (message : Bytes) : Bytes :=
  let whole := padded message
  let state := (runs 64 (whole.length / 64) whole).foldl compress initial
  [state.a, state.b, state.c, state.d, state.e, state.f, state.g, state.h].flatMap fun word =>
    bigEndian 4 word.toNat

end Sha256

/-- Short name of bytes that may be shown in their place. -/
def fingerprint (bytes : Bytes) : String := toHex ((Sha256.digest bytes).take 8)

end AeadEnvelope
