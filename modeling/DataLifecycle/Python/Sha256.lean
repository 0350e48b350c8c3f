import DataLifecycle.Python.Text

/-!
# SHA-256

An executable rendering of `hashlib.sha256(content).hexdigest()`.  Words are
natural numbers reduced modulo `2 ^ 32`; the message schedule is a window of
sixteen words that slides along the rounds.

The function has a finite range, so it is not injective.  Statements that
assume it to be free of collisions say so on the set of contents they compare.
-/

namespace DataLifecycle.Python

namespace Sha256

/-- Reduction to a 32-bit word. -/
def word (n : Nat) : Nat := n % 2 ^ 32

def rotateRight (n x : Nat) : Nat := word ((x >>> n) ||| (x <<< (32 - n)))

def smallSigma0 (x : Nat) : Nat := rotateRight 7 x ^^^ rotateRight 18 x ^^^ (x >>> 3)

def smallSigma1 (x : Nat) : Nat := rotateRight 17 x ^^^ rotateRight 19 x ^^^ (x >>> 10)

def bigSigma0 (x : Nat) : Nat := rotateRight 2 x ^^^ rotateRight 13 x ^^^ rotateRight 22 x

def bigSigma1 (x : Nat) : Nat := rotateRight 6 x ^^^ rotateRight 11 x ^^^ rotateRight 25 x

def choose (x y z : Nat) : Nat := (x &&& y) ^^^ ((x ^^^ 0xffffffff) &&& z)

def majority (x y z : Nat) : Nat := (x &&& y) ^^^ (x &&& z) ^^^ (y &&& z)

def roundConstants : List Nat := [
  0x428a2f98, 0x71374491, 0xb5c0fbcf, 0xe9b5dba5, 0x3956c25b, 0x59f111f1, 0x923f82a4, 0xab1c5ed5,
  0xd807aa98, 0x12835b01, 0x243185be, 0x550c7dc3, 0x72be5d74, 0x80deb1fe, 0x9bdc06a7, 0xc19bf174,
  0xe49b69c1, 0xefbe4786, 0x0fc19dc6, 0x240ca1cc, 0x2de92c6f, 0x4a7484aa, 0x5cb0a9dc, 0x76f988da,
  0x983e5152, 0xa831c66d, 0xb00327c8, 0xbf597fc7, 0xc6e00bf3, 0xd5a79147, 0x06ca6351, 0x14292967,
  0x27b70a85, 0x2e1b2138, 0x4d2c6dfc, 0x53380d13, 0x650a7354, 0x766a0abb, 0x81c2c92e, 0x92722c85,
  0xa2bfe8a1, 0xa81a664b, 0xc24b8b70, 0xc76c51a3, 0xd192e819, 0xd6990624, 0xf40e3585, 0x106aa070,
  0x19a4c116, 0x1e376c08, 0x2748774c, 0x34b0bcb5, 0x391c0cb3, 0x4ed8aa4a, 0x5b9cca4f, 0x682e6ff3,
  0x748f82ee, 0x78a5636f, 0x84c87814, 0x8cc70208, 0x90befffa, 0xa4506ceb, 0xbef9a3f7, 0xc67178f2]

/-- The eight working variables. -/
structure State where
  (a b c d e f g h : Nat)

def initial : State :=
  ⟨0x6a09e667, 0xbb67ae85, 0x3c6ef372, 0xa54ff53a,
    0x510e527f, 0x9b05688c, 0x1f83d9ab, 0x5be0cd19⟩

/-- One round with constant `k` and schedule word `w`. -/
def round (s : State) (k w : Nat) : State :=
  let first := s.h + bigSigma1 s.e + choose s.e s.f s.g + k + w
  let second := bigSigma0 s.a + majority s.a s.b s.c
  ⟨word (first + second), s.a, s.b, s.c, word (s.d + first), s.e, s.f, s.g⟩

/-- All rounds of one block.  The window holds the next sixteen schedule words. -/
def rounds : List Nat → List Nat → State → State
  | k :: constants, w :: window, s =>
      let next := word (w + smallSigma0 (window.getD 0 0) + window.getD 8 0 +
        smallSigma1 (window.getD 13 0))
      rounds constants (window ++ [next]) (round s k w)
  | _, _, s => s

/-- Absorb one block of sixteen words. -/
def compress (s : State) (block : List Nat) : State :=
  let t := rounds roundConstants block s
  ⟨word (s.a + t.a), word (s.b + t.b), word (s.c + t.c), word (s.d + t.d),
    word (s.e + t.e), word (s.f + t.f), word (s.g + t.g), word (s.h + t.h)⟩

/-- The first `count` big-endian words of a byte sequence. -/
def words : Nat → Bytes → List Nat
  | 0, _ => []
  | count + 1, content =>
      (content.take 4).foldl (fun value byte => value * 256 + byte.toNat) 0 ::
        words count (content.drop 4)

/-- The message followed by the marker bit, zeros and its length in bits. -/
def pad (message : Bytes) : Bytes :=
  let zeros : Bytes := List.replicate ((119 - message.length % 64) % 64) 0
  let lengthBytes : Bytes :=
    (List.range 8).map fun i => UInt8.ofNat ((message.length * 8) >>> (8 * (7 - i)))
  message ++ 0x80 :: zeros ++ lengthBytes

/-- Absorb `count` blocks of words. -/
def absorb : Nat → List Nat → State → State
  | 0, _, s => s
  | count + 1, schedule, s => absorb count (schedule.drop 16) (compress s (schedule.take 16))

/-- The final working variables, in order. -/
def digestWords (message : Bytes) : List Nat :=
  let padded := pad message
  let s := absorb (padded.length / 64) (words (padded.length / 4) padded) initial
  [s.a, s.b, s.c, s.d, s.e, s.f, s.g, s.h]

/-- One lowercase hexadecimal digit. -/
def hexDigit (n : Nat) : CodePoint :=
  Fin.ofNat 0x110000 (if n % 16 < 10 then 48 + n % 16 else 87 + n % 16)

/-- Eight lowercase hexadecimal digits of a word. -/
def hexWord (n : Nat) : Str :=
  (List.range 8).map fun i => hexDigit (n >>> (4 * (7 - i)))

end Sha256

/-- `hashlib.sha256(content).hexdigest()`. -/
def sha256Hex (content : Bytes) : Str :=
  (Sha256.digestWords content).flatMap Sha256.hexWord

/-- The character class `[0-9a-f]`. -/
def isLowerHex (point : CodePoint) : Bool :=
  (48 ≤ point.val && point.val ≤ 57) || (97 ≤ point.val && point.val ≤ 102)

namespace Sha256

theorem isLowerHex_hexDigit (n : Nat) : isLowerHex (hexDigit n) = true := by
  have digits : ∀ digit < 16, isLowerHex (hexDigit digit) = true := by decide
  have reduced : hexDigit n = hexDigit (n % 16) := by simp [hexDigit]
  rw [reduced]
  exact digits (n % 16) (Nat.mod_lt n (by omega))

end Sha256

/-- A digest has sixty-four characters. -/
theorem length_sha256Hex (content : Bytes) : (sha256Hex content).length = 64 := by
  simp [sha256Hex, Sha256.digestWords, Sha256.hexWord]

/-- A digest is written in lowercase hexadecimal. -/
theorem isLowerHex_of_mem_sha256Hex {content : Bytes} {point : CodePoint}
    (member : point ∈ sha256Hex content) : isLowerHex point = true := by
  obtain ⟨word, _, member⟩ := List.mem_flatMap.mp member
  obtain ⟨i, _, rfl⟩ := List.mem_map.mp member
  exact Sha256.isLowerHex_hexDigit _

example : sha256Hex [97, 98, 99] =
    str "ba7816bf8f01cfea414140de5dae2223b00361a396177a9cb410ff61f20015ad" := by
  decide +kernel

end DataLifecycle.Python
