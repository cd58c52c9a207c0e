import Mathlib

/-!
# SHA-256

The hash function SHA-256 of FIPS 180-4, for messages that are sequences of bytes: the schedule and
the rounds on words of 32 bits, the padding, and the digest as hexadecimal digits. The definitions
follow the standard, not an implementation: the schedule has its 64 words before the first round,
and a message is padded as a whole before the first block is compressed.

Implementations get a message in parts of any length. They keep the bytes that do not fill a block
and compress whenever one is full. Two facts connect them to the standard: a message may be absorbed
in parts, as long as a part ends where a block ends (`absorb_append`), and what is shorter than a
block is not absorbed at all (`absorb_of_lt`).
-/

namespace Sha2

/-- A word of 32 bits. -/
abbrev Word := BitVec 32

/-! ### Functions on words -/

/-- `Ch`. -/
def ch (x y z : Word) : Word := (x &&& y) ^^^ (~~~x &&& z)

/-- `Maj`. -/
def maj (x y z : Word) : Word := (x &&& y) ^^^ (x &&& z) ^^^ (y &&& z)

/-- `Σ₀`. -/
def bigSigma0 (x : Word) : Word := x.rotateRight 2 ^^^ x.rotateRight 13 ^^^ x.rotateRight 22

/-- `Σ₁`. -/
def bigSigma1 (x : Word) : Word := x.rotateRight 6 ^^^ x.rotateRight 11 ^^^ x.rotateRight 25

/-- `σ₀`. -/
def smallSigma0 (x : Word) : Word := x.rotateRight 7 ^^^ x.rotateRight 18 ^^^ x >>> 3

/-- `σ₁`. -/
def smallSigma1 (x : Word) : Word := x.rotateRight 17 ^^^ x.rotateRight 19 ^^^ x >>> 10

/-- The constants of the rounds. -/
def roundConstants : List Nat :=
  [0x428a2f98, 0x71374491, 0xb5c0fbcf, 0xe9b5dba5, 0x3956c25b, 0x59f111f1, 0x923f82a4, 0xab1c5ed5,
    0xd807aa98, 0x12835b01, 0x243185be, 0x550c7dc3, 0x72be5d74, 0x80deb1fe, 0x9bdc06a7, 0xc19bf174,
    0xe49b69c1, 0xefbe4786, 0x0fc19dc6, 0x240ca1cc, 0x2de92c6f, 0x4a7484aa, 0x5cb0a9dc, 0x76f988da,
    0x983e5152, 0xa831c66d, 0xb00327c8, 0xbf597fc7, 0xc6e00bf3, 0xd5a79147, 0x06ca6351, 0x14292967,
    0x27b70a85, 0x2e1b2138, 0x4d2c6dfc, 0x53380d13, 0x650a7354, 0x766a0abb, 0x81c2c92e, 0x92722c85,
    0xa2bfe8a1, 0xa81a664b, 0xc24b8b70, 0xc76c51a3, 0xd192e819, 0xd6990624, 0xf40e3585, 0x106aa070,
    0x19a4c116, 0x1e376c08, 0x2748774c, 0x34b0bcb5, 0x391c0cb3, 0x4ed8aa4a, 0x5b9cca4f, 0x682e6ff3,
    0x748f82ee, 0x78a5636f, 0x84c87814, 0x8cc70208, 0x90befffa, 0xa4506ceb, 0xbef9a3f7, 0xc67178f2]

/-- Eight values: a hash value, or the working variables of the rounds. -/
structure Octet (α : Type) where
  a : α
  b : α
  c : α
  d : α
  e : α
  f : α
  g : α
  h : α
deriving DecidableEq

namespace Octet

variable {α β : Type}

/-- A function applied to the eight entries. -/
def map (f : α → β) (v : Octet α) : Octet β :=
  ⟨f v.a, f v.b, f v.c, f v.d, f v.e, f v.f, f v.g, f v.h⟩

/-- The eight entries in order. -/
def toList (v : Octet α) : List α := [v.a, v.b, v.c, v.d, v.e, v.f, v.g, v.h]

theorem toList_map (f : α → β) (v : Octet α) : (v.map f).toList = v.toList.map f := rfl

end Octet

/-- The initial hash value. -/
def initialHash : Octet Word :=
  ⟨0x6a09e667, 0xbb67ae85, 0x3c6ef372, 0xa54ff53a, 0x510e527f, 0x9b05688c, 0x1f83d9ab, 0x5be0cd19⟩

/-! ### One block -/

/-- Four bytes, the highest first. -/
def word (b₀ b₁ b₂ b₃ : UInt8) : Word :=
  b₀.toBitVec ++ b₁.toBitVec ++ b₂.toBitVec ++ b₃.toBitVec

/-- The words of a block. -/
def blockWords (block : List UInt8) : List Word :=
  (List.range 16).map fun t => word (block.getD (4 * t) 0) (block.getD (4 * t + 1) 0)
    (block.getD (4 * t + 2) 0) (block.getD (4 * t + 3) 0)

/-- The word of the schedule with index `t`, from those before it. -/
def scheduled (w : List Word) (t : Nat) : Word :=
  smallSigma1 (w.getD (t - 2) 0) + w.getD (t - 7) 0 + smallSigma0 (w.getD (t - 15) 0) +
    w.getD (t - 16) 0

/-- The message schedule of a block: 64 words from its 16. -/
def schedule (words : List Word) : List Word :=
  (List.range 48).foldl (fun w i => w ++ [scheduled w (i + 16)]) words

/-- One round, with the constant `k` and the word `w`. -/
def round (v : Octet Word) (k w : Word) : Octet Word :=
  let t₁ := v.h + bigSigma1 v.e + ch v.e v.f v.g + k + w
  let t₂ := bigSigma0 v.a + maj v.a v.b v.c
  ⟨t₁ + t₂, v.a, v.b, v.c, v.d + t₁, v.e, v.f, v.g⟩

/-- The next hash value. -/
def compress (hash : Octet Word) (block : List UInt8) : Octet Word :=
  let w := schedule (blockWords block)
  let v := (List.range 64).foldl
    (fun v t => round v (BitVec.ofNat 32 (roundConstants.getD t 0)) (w.getD t 0)) hash
  ⟨v.a + hash.a, v.b + hash.b, v.c + hash.c, v.d + hash.d, v.e + hash.e, v.f + hash.f,
    v.g + hash.g, v.h + hash.h⟩

/-! ### A message -/

/-- The hash value after the first `n` blocks. -/
def absorbBlocks : Nat → Octet Word → List UInt8 → Octet Word
  | 0, hash, _ => hash
  | n + 1, hash, bytes => absorbBlocks n (compress hash (bytes.take 64)) (bytes.drop 64)

/-- The hash value after all blocks. -/
def absorb (hash : Octet Word) (bytes : List UInt8) : Octet Word :=
  absorbBlocks (bytes.length / 64) hash bytes

/-- The bytes of zeros in the padding of a message of `n` bytes. -/
def zeroBytes (n : Nat) : Nat := (119 - n % 64) % 64

/-- The length in bits, in eight bytes. -/
def lengthBytes (n : Nat) : List UInt8 :=
  (List.range 8).map fun i => UInt8.ofNat (8 * n / 256 ^ (7 - i))

/-- The padded message. -/
def pad (message : List UInt8) : List UInt8 :=
  message ++ 0x80 :: (List.replicate (zeroBytes message.length) 0 ++ lengthBytes message.length)

/-- SHA-256 of a message: its padded blocks, absorbed one after the other. -/
def digest (message : List UInt8) : Octet Word := absorb initialHash (pad message)

/-- The last `k` hexadecimal digits of a number. -/
def hexDigits : Nat → Nat → List Char
  | 0, _ => []
  | k + 1, n => hexDigits k (n / 16) ++ [Nat.digitChar (n % 16)]

/-- The digest as 64 hexadecimal digits. -/
def hexDigest (message : List UInt8) : String :=
  String.ofList ((digest message).toList.flatMap fun w => hexDigits 8 w.toNat)

example : hexDigest [0x61, 0x62, 0x63] =
    "ba7816bf8f01cfea414140de5dae2223b00361a396177a9cb410ff61f20015ad" := by
  decide +kernel

/-! ### The padding -/

/-- The length ends a block. -/
theorem zeroBytes_spec (n : Nat) : (n + 1 + zeroBytes n) % 64 = 56 := by
  rw [zeroBytes]
  omega

/-- Only one number of zeros is possible. -/
theorem zeroBytes_eq {n k : Nat} (hk : k < 64) (h : (n + 1 + k) % 64 = 56) : zeroBytes n = k := by
  rw [zeroBytes]
  omega

/-! ### Parts of a message -/

section Parts

variable {hash : Octet Word} {bytes bytes' : List UInt8}

theorem absorbBlocks_add (n m : Nat) (h : bytes.length = 64 * n) :
    absorbBlocks (n + m) hash (bytes ++ bytes') =
      absorbBlocks m (absorbBlocks n hash bytes) bytes' := by
  induction n generalizing hash bytes with
  | zero =>
    rw [Nat.mul_zero, List.length_eq_zero_iff] at h
    rw [h, Nat.zero_add]
    rfl
  | succ n ih =>
    have hlong : 64 ≤ bytes.length := by omega
    have hshort : (bytes.drop 64).length = 64 * n := by
      rw [List.length_drop]
      omega
    rw [Nat.add_right_comm, absorbBlocks, absorbBlocks, List.take_append_of_le_length hlong,
      List.drop_append_of_le_length hlong, ih hshort]

theorem absorbBlocks_eq (n : Nat) (h : bytes.length = 64 * n) :
    absorbBlocks n hash bytes = absorb hash bytes := by
  rw [absorb, h, Nat.mul_div_cancel_left n (by omega)]

/-- What is left of a block waits for the rest of the message. -/
theorem absorb_append (h : 64 ∣ bytes.length) :
    absorb hash (bytes ++ bytes') = absorb (absorb hash bytes) bytes' := by
  obtain ⟨n, hn⟩ := h
  have hlength : (bytes ++ bytes').length / 64 = n + bytes'.length / 64 := by
    rw [List.length_append, hn]
    omega
  rw [absorb, hlength, absorbBlocks_add n _ hn, absorbBlocks_eq n hn]
  rfl

theorem absorb_of_lt (h : bytes.length < 64) : absorb hash bytes = hash := by
  rw [absorb, Nat.div_eq_of_lt h]
  rfl

/-- A whole block is compressed. -/
theorem absorb_block (h : bytes.length = 64) : absorb hash bytes = compress hash bytes := by
  have htake : bytes.take 64 = bytes := List.take_of_length_le h.le
  rw [absorb, h]
  change compress hash (bytes.take 64) = compress hash bytes
  rw [htake]

end Parts

end Sha2
