import Mathlib

/-!
# Numbers of JavaScript

A number that is an integer, and the operators on it: arithmetic rounds to a double, and the bitwise
operators see 32 bits. Integers are enough for programs that only add, multiply, shift and combine
integers; infinities, `NaN` and fractions do not arise in them, and overflow is left out.

**Exactness.** A sum or a product whose absolute value is at most `2 ^ 53` is not rounded
(`add_eq`, `mul_eq`). The rounding itself is defined, to the nearest and to the even one of two, so
that the definitions compute what an engine computes also where it rounds.

**Words.** A number below `2 ^ 32` and its signed counterpart stand for one word. On numbers that
are read as words the operators are those of words: `bitAnd_toInt`, `bitOr_toInt`, `bitXor_toInt`
and `bitNot_toInt` for the signed results, `bitOr_ushr_shl` for a rotation.

**Sums of words.** Code that adds several words reduces them with `| 0` only at the end. `Sum`
says that a number is a sum of at most `k` words and which word it has. `Sum.add` adds two of them,
as long as the sum is small enough to be exact, and the reduction gives the word
(`Sum.toInt32_eq`).
-/

namespace Js

/-- A natural number with its first 53 binary digits, rounded to the nearest and to the even one
of two. -/
def roundNat (m : Nat) : Nat :=
  let unit := 2 ^ (m.log2 - 52)
  let q := m / unit
  let r := m % unit
  if unit < 2 * r ∨ (unit = 2 * r ∧ q % 2 = 1) then (q + 1) * unit else q * unit

/-- The double nearest to an integer; overflow is left out. -/
def roundDouble (n : Int) : Int := n.sign * roundNat n.natAbs

/-- `x + y`. -/
def add (x y : Int) : Int := roundDouble (x + y)

/-- `x * y`. -/
def mul (x y : Int) : Int := roundDouble (x * y)

/-- `x | 0`. -/
def toInt32 (x : Int) : Int := (BitVec.ofInt 32 x).toInt

/-- `x >>> 0`. -/
def toUint32 (x : Int) : Int := (BitVec.ofInt 32 x).toNat

/-- `x & y`. -/
def bitAnd (x y : Int) : Int := (BitVec.ofInt 32 x &&& BitVec.ofInt 32 y).toInt

/-- `x | y`. -/
def bitOr (x y : Int) : Int := (BitVec.ofInt 32 x ||| BitVec.ofInt 32 y).toInt

/-- `x ^ y`. -/
def bitXor (x y : Int) : Int := (BitVec.ofInt 32 x ^^^ BitVec.ofInt 32 y).toInt

/-- `~x`. -/
def bitNot (x : Int) : Int := (~~~BitVec.ofInt 32 x).toInt

/-- `x << n`. -/
def shl (x : Int) (n : Nat) : Int := (BitVec.ofInt 32 x <<< n).toInt

/-- `x >>> n`. -/
def ushr (x : Int) (n : Nat) : Int := (BitVec.ofInt 32 x >>> n).toNat

/-- The value stored in a `Uint8Array`. -/
def toUint8 (x : Int) : UInt8 := ⟨BitVec.ofInt 8 x⟩

/-- `x.toString(16)` of a number that is not negative. -/
def toString16 (x : Int) : List Char := Nat.toDigits 16 x.toNat

/-- `text.slice(-n)`. -/
def sliceLast {α : Type} (text : List α) (n : Nat) : List α := text.drop (text.length - n)

/-! ### Exact arithmetic -/

theorem roundNat_eq {m : Nat} (h : m ≤ 2 ^ 53) : roundNat m = m := by
  rcases Nat.lt_or_eq_of_le h with hlt | rfl
  · have hlog : m.log2 - 52 = 0 := by
      rcases Nat.eq_zero_or_pos m with rfl | hpos
      · rfl
      · have hlog := (Nat.log2_lt (by omega)).2 hlt
        omega
    rw [roundNat, hlog]
    simp [Nat.mod_one]
  · decide +kernel

theorem roundDouble_eq {n : Int} (h : n.natAbs ≤ 2 ^ 53) : roundDouble n = n := by
  rw [roundDouble, roundNat_eq h, Int.sign_mul_natAbs]

theorem add_eq {x y : Int} (h : (x + y).natAbs ≤ 2 ^ 53) : add x y = x + y := roundDouble_eq h

theorem mul_eq {x y : Int} (h : (x * y).natAbs ≤ 2 ^ 53) : mul x y = x * y := roundDouble_eq h

/-! ### Words -/

section Words

variable {u v w x y : BitVec 32}

@[simp] theorem ofInt_toNat (v : BitVec 32) : BitVec.ofInt 32 (v.toNat : Int) = v := by
  rw [BitVec.ofInt_natCast, BitVec.ofNat_toNat, BitVec.setWidth_eq]

@[simp] theorem bitXor_toInt : bitXor u.toInt v.toInt = (u ^^^ v).toInt := by
  rw [bitXor, BitVec.ofInt_toInt, BitVec.ofInt_toInt]

@[simp] theorem bitAnd_toInt : bitAnd u.toInt v.toInt = (u &&& v).toInt := by
  rw [bitAnd, BitVec.ofInt_toInt, BitVec.ofInt_toInt]

@[simp] theorem bitOr_toInt : bitOr u.toInt v.toInt = (u ||| v).toInt := by
  rw [bitOr, BitVec.ofInt_toInt, BitVec.ofInt_toInt]

@[simp] theorem bitNot_toInt : bitNot u.toInt = (~~~u).toInt := by
  rw [bitNot, BitVec.ofInt_toInt]

/-- A logical shift is no negative number, but the same word. -/
@[simp] theorem bitXor_ushr (n : Nat) :
    bitXor u.toInt (ushr v.toInt n) = (u ^^^ v >>> n).toInt := by
  rw [bitXor, ushr, BitVec.ofInt_toInt, BitVec.ofInt_toInt, ofInt_toNat]

/-- Two shifts make a rotation. -/
theorem bitOr_ushr_shl {n m : Nat} (h : n + m = 32) (hm : 0 < m) :
    bitOr (ushr v.toInt n) (shl v.toInt m) = (v.rotateRight n).toInt := by
  have hmod : n % 32 = n := Nat.mod_eq_of_lt (by omega)
  have hsub : 32 - n = m := by omega
  rw [bitOr, ushr, shl, BitVec.ofInt_toInt, ofInt_toNat, BitVec.ofInt_toInt, BitVec.rotateRight_def,
    hmod, hsub]

end Words

/-! ### Sums of words -/

/-- The number is a sum of at most `k` signed or unsigned words, whose word it has. -/
structure Sum (k : Nat) (x : Int) (u : BitVec 32) : Prop where
  bound : x.natAbs ≤ k * 2 ^ 32
  word : BitVec.ofInt 32 x = u

section Sum

variable {k m : Nat} {x y : Int} {u v : BitVec 32}

theorem Sum.toInt (v : BitVec 32) : Sum 1 v.toInt v := by
  have hle := BitVec.le_toInt v
  have hlt := BitVec.toInt_lt (x := v)
  exact ⟨by omega, BitVec.ofInt_toInt⟩

theorem Sum.natCast {n : Nat} (h : n < 2 ^ 32) : Sum 1 (n : Int) (BitVec.ofNat 32 n) :=
  ⟨by omega, BitVec.ofInt_natCast 32 n⟩

/-- Sums are exact while they are short. -/
theorem Sum.add (h : Sum k x u) (h' : Sum m y v) (hkm : k + m ≤ 2 ^ 21) :
    Sum (k + m) (Js.add x y) (u + v) := by
  have hbound := h.bound
  have hbound' := h'.bound
  have hsum : (x + y).natAbs ≤ (k + m) * 2 ^ 32 := by omega
  rw [Js.add, roundDouble_eq (by omega)]
  refine ⟨hsum, ?_⟩
  rw [BitVec.ofInt_add, h.word, h'.word]

theorem Sum.toInt32_eq (h : Sum k x u) : toInt32 x = u.toInt := by
  rw [toInt32, h.word]

end Sum

theorem toInt32_add_toInt (u v : BitVec 32) : toInt32 (add u.toInt v.toInt) = (u + v).toInt :=
  ((Sum.toInt u).add (.toInt v) (by omega)).toInt32_eq

theorem toUint32_toInt (v : BitVec 32) : toUint32 v.toInt = v.toNat := by
  rw [toUint32, BitVec.ofInt_toInt]

end Js
