import StakePool.Chunks
import StakePool.Layout
/-!
# SHA-256

The hash under the address derivation: the message is padded to whole blocks of 64 bytes, every block
is expanded into a schedule of 64 words, and the eight words of state go through one round per word.
-/

namespace StakePool

namespace Sha256

structure State where
  a : UInt32
  b : UInt32
  c : UInt32
  d : UInt32
  e : UInt32
  f : UInt32
  g : UInt32
  h : UInt32

def initialState : State :=
  ⟨0x6a09e667, 0xbb67ae85, 0x3c6ef372, 0xa54ff53a, 0x510e527f, 0x9b05688c, 0x1f83d9ab, 0x5be0cd19⟩

def roundConstants : List UInt32 := [
  0x428a2f98, 0x71374491, 0xb5c0fbcf, 0xe9b5dba5, 0x3956c25b, 0x59f111f1, 0x923f82a4, 0xab1c5ed5,
  0xd807aa98, 0x12835b01, 0x243185be, 0x550c7dc3, 0x72be5d74, 0x80deb1fe, 0x9bdc06a7, 0xc19bf174,
  0xe49b69c1, 0xefbe4786, 0x0fc19dc6, 0x240ca1cc, 0x2de92c6f, 0x4a7484aa, 0x5cb0a9dc, 0x76f988da,
  0x983e5152, 0xa831c66d, 0xb00327c8, 0xbf597fc7, 0xc6e00bf3, 0xd5a79147, 0x06ca6351, 0x14292967,
  0x27b70a85, 0x2e1b2138, 0x4d2c6dfc, 0x53380d13, 0x650a7354, 0x766a0abb, 0x81c2c92e, 0x92722c85,
  0xa2bfe8a1, 0xa81a664b, 0xc24b8b70, 0xc76c51a3, 0xd192e819, 0xd6990624, 0xf40e3585, 0x106aa070,
  0x19a4c116, 0x1e376c08, 0x2748774c, 0x34b0bcb5, 0x391c0cb3, 0x4ed8aa4a, 0x5b9cca4f, 0x682e6ff3,
  0x748f82ee, 0x78a5636f, 0x84c87814, 0x8cc70208, 0x90befffa, 0xa4506ceb, 0xbef9a3f7, 0xc67178f2]

def rotate (word count : UInt32) : UInt32 := (word >>> count) ||| (word <<< (32 - count))

/-- Most significant byte first. -/
def wordOfBytes (bytes : Bytes) : UInt32 := UInt32.ofNat (Bytes.toNat bytes.reverse)

def bytesOfWord (word : UInt32) : Bytes := (Bytes.ofNat 4 word.toNat).reverse

/-- The message, a single one bit, zeros, and the message's length in bits, in whole blocks. -/
def pad (message : Bytes) : Bytes :=
  message ++ [0x80] ++ Bytes.zeros ((119 - message.length % 64) % 64)
    ++ (Bytes.ofNat 8 (8 * message.length)).reverse

/-- One more word of a schedule whose latest word stands first. -/
def extend (words : List UInt32) : List UInt32 :=
  let word (back : Nat) := words.getD (back - 1) 0
  let early := word 15
  let late := word 2
  let spread0 := rotate early 7 ^^^ rotate early 18 ^^^ (early >>> 3)
  let spread1 := rotate late 17 ^^^ rotate late 19 ^^^ (late >>> 10)
  (word 16 + spread0 + word 7 + spread1) :: words

def schedule (block : Bytes) : List UInt32 :=
  (Nat.repeat extend 48 ((chunks 4 block).map wordOfBytes).reverse).reverse

def round (s : State) (input : UInt32 × UInt32) : State :=
  let choice := (s.e &&& s.f) ^^^ (~~~s.e &&& s.g)
  let majority := (s.a &&& s.b) ^^^ (s.a &&& s.c) ^^^ (s.b &&& s.c)
  let spreadE := rotate s.e 6 ^^^ rotate s.e 11 ^^^ rotate s.e 25
  let spreadA := rotate s.a 2 ^^^ rotate s.a 13 ^^^ rotate s.a 22
  let mixed := s.h + spreadE + choice + input.1 + input.2
  ⟨mixed + spreadA + majority, s.a, s.b, s.c, s.d + mixed, s.e, s.f, s.g⟩

def compress (s : State) (block : Bytes) : State :=
  let r := (roundConstants.zip (schedule block)).foldl round s
  ⟨s.a + r.a, s.b + r.b, s.c + r.c, s.d + r.d, s.e + r.e, s.f + r.f, s.g + r.g, s.h + r.h⟩

def State.words (s : State) : List UInt32 := [s.a, s.b, s.c, s.d, s.e, s.f, s.g, s.h]

def digest (message : Bytes) : Block 32 where
  bytes := ((chunks 64 (pad message)).foldl compress initialState).words.flatMap bytesOfWord
  length_bytes := by simp [State.words, bytesOfWord]

end Sha256

end StakePool
