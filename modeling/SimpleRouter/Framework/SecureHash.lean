import Mathlib.Algebra.GroupWithZero.Nat
import SimpleRouter.Framework.Blocks
import SimpleRouter.Framework.Bytes

/-! # The Secure Hash Standard (FIPS PUB 180-1)

    The digest of a message, as the standard defines it: the message is padded
    to whole blocks of 64 bytes, and each of them goes through 80 rounds. The
    names are those of the standard.

    * `W`: the word sequence of a block.
    * `compress`: one block.
    * `digest`: the whole message.
-/

namespace Framework

namespace SecureHash

abbrev Word := BitVec 32

/-! ### Functions and constants -/

/-- `S^n(X)` -/
def S (n : Nat) (X : Word) : Word := X.rotateLeft n

def f (t : Nat) (B C D : Word) : Word :=
  if t < 20 then B &&& C ||| ~~~ B &&& D
  else if t < 40 then B ^^^ C ^^^ D
  else if t < 60 then B &&& C ||| B &&& D ||| C &&& D
  else B ^^^ C ^^^ D

def K (t : Nat) : Word :=
  if t < 20 then 0x5a827999
  else if t < 40 then 0x6ed9eba1
  else if t < 60 then 0x8f1bbcdc
  else 0xca62c1d6

/-! ### A block -/

/-- A word of a block, big-endian. -/
def wordAt (M : List Byte) (i : Nat) : Word :=
  Bytes.u8 M i ++ Bytes.u8 M (i + 1) ++ Bytes.u8 M (i + 2) ++ Bytes.u8 M (i + 3)

/-- The word sequence of a block: 16 words of its own, and each further one from four before. -/
def W (M : List Byte) (t : Nat) : Word :=
  if t < 16 then wordAt M (4 * t)
  else S 1 (W M (t - 3) ^^^ W M (t - 8) ^^^ W M (t - 14) ^^^ W M (t - 16))
termination_by t

/-- The five words that go through the rounds. -/
structure Buffer where
  A : Word
  B : Word
  C : Word
  D : Word
  E : Word
  deriving DecidableEq

def round (M : List Byte) (t : Nat) (b : Buffer) : Buffer where
  A := S 5 b.A + f t b.B b.C b.D + b.E + W M t + K t
  B := b.A
  C := S 30 b.B
  D := b.C
  E := b.D

/-- The first `t` rounds. -/
def rounds (M : List Byte) : Nat → Buffer → Buffer
  | 0, b => b
  | t + 1, b => round M t (rounds M t b)

/-- What a block makes of the words `H`. -/
def compress (H : Buffer) (M : List Byte) : Buffer :=
  let b := rounds M 80 H
  ⟨H.A + b.A, H.B + b.B, H.C + b.C, H.D + b.D, H.E + b.E⟩

def H₀ : Buffer := ⟨0x67452301, 0xefcdab89, 0x98badcfe, 0x10325476, 0xc3d2e1f0⟩

/-! ### A message -/

/-- Zeros between the one bit and the length, as many as make whole blocks. -/
def zeros (n : Nat) : Nat := (119 - n % 64) % 64

/-- The length in bits, as a big-endian word of 64 bits. -/
def lengthBytes (n : Nat) : List Byte :=
  (List.range 8).map fun i => BitVec.ofNat 8 (8 * n / 256 ^ (7 - i))

def padding (n : Nat) : List Byte := 0x80 :: List.replicate (zeros n) 0 ++ lengthBytes n

def pad (message : List Byte) : List Byte := message ++ padding message.length

/-- The digest of a message of less than `2 ^ 64` bits. -/
def digest (message : List Byte) : Buffer := foldBlocks 64 compress H₀ (pad message)

/-- The words of a digest, big-endian. -/
def Buffer.toBytes (b : Buffer) : List Byte :=
  [b.A, b.B, b.C, b.D, b.E].flatMap fun X => (Bytes.le32 X).reverse

theorem toBytes_length (b : Buffer) : b.toBytes.length = 20 := rfl

end SecureHash

end Framework
