import StylyMdm.Files.Bundle
import StylyMdm.Library.Js
import StylyMdm.Library.Sha2

/-!
# The SHA-256 of the page

`Sha256` of `index.html`, which hashes a file in the chunks it is read in: the numbers of the script
are words of 32 bits, signed, in doubles. The hasher holds back what does not fill a block.

However the bytes are cut into chunks, the digest is that of SHA-256 (`browser_sha256`).

`Library.Sha2` has the standard and `Library.Js` the numbers. The refinement has two parts:

* **Words.** Each line of the round and of the schedule computes the signed counterpart of the word
  that the standard has there (`extendWord_eq`, `roundStep_eq`). Sums of up to five words are exact
  in doubles, and `| 0` reduces them.
* **Chunks.** `Sha256.Holds` is the invariant between two updates: the hash value is the one after
  the whole blocks so far, and the buffer has the bytes that are left. `Sha256.Holds.update` keeps
  it for a chunk of any length, empty ones included, and `Sha256.Holds.pad_eq` pads what is held
  back as the standard pads the message.
-/

namespace StylyMdm.Files.Browser

open Js Sha2

/-- `SHA256_K`. -/
def sha256K : List Int :=
  [0x428a2f98, 0x71374491, 0xb5c0fbcf, 0xe9b5dba5, 0x3956c25b, 0x59f111f1, 0x923f82a4, 0xab1c5ed5,
    0xd807aa98, 0x12835b01, 0x243185be, 0x550c7dc3, 0x72be5d74, 0x80deb1fe, 0x9bdc06a7, 0xc19bf174,
    0xe49b69c1, 0xefbe4786, 0x0fc19dc6, 0x240ca1cc, 0x2de92c6f, 0x4a7484aa, 0x5cb0a9dc, 0x76f988da,
    0x983e5152, 0xa831c66d, 0xb00327c8, 0xbf597fc7, 0xc6e00bf3, 0xd5a79147, 0x06ca6351, 0x14292967,
    0x27b70a85, 0x2e1b2138, 0x4d2c6dfc, 0x53380d13, 0x650a7354, 0x766a0abb, 0x81c2c92e, 0x92722c85,
    0xa2bfe8a1, 0xa81a664b, 0xc24b8b70, 0xc76c51a3, 0xd192e819, 0xd6990624, 0xf40e3585, 0x106aa070,
    0x19a4c116, 0x1e376c08, 0x2748774c, 0x34b0bcb5, 0x391c0cb3, 0x4ed8aa4a, 0x5b9cca4f, 0x682e6ff3,
    0x748f82ee, 0x78a5636f, 0x84c87814, 0x8cc70208, 0x90befffa, 0xa4506ceb, 0xbef9a3f7, 0xc67178f2]

/-- `Sha256`. The array `w` is only used within `_compress`. -/
structure Sha256 where
  h : Octet Int
  buf : List UInt8
  bufLen : Nat
  total : Int

/-- `new Sha256()`. -/
def Sha256.new : Sha256 where
  h := Octet.map toInt32 ⟨0x6a09e667, 0xbb67ae85, 0x3c6ef372, 0xa54ff53a, 0x510e527f, 0x9b05688c,
    0x1f83d9ab, 0x5be0cd19⟩
  buf := List.replicate 64 0
  bufLen := 0
  total := 0

/-! ### `_compress` -/

/-- `w[i]` for `i < 16`. -/
def loadWord (block : List UInt8) (start : Nat) : Int :=
  let byte (i : Nat) : Int := ((block.getD (start + i) 0).toNat : Int)
  bitOr (bitOr (bitOr (shl (byte 0) 24) (shl (byte 1) 16)) (shl (byte 2) 8)) (byte 3)

/-- `w[i]` for `i ≥ 16`. -/
def extendWord (w : List Int) (i : Nat) : Int :=
  let x := w.getD (i - 15) 0
  let s0 := bitXor (bitXor (bitOr (ushr x 7) (shl x 25)) (bitOr (ushr x 18) (shl x 14))) (ushr x 3)
  let y := w.getD (i - 2) 0
  let s1 := bitXor (bitXor (bitOr (ushr y 17) (shl y 15)) (bitOr (ushr y 19) (shl y 13)))
    (ushr y 10)
  toInt32 (add (add (add (w.getD (i - 16) 0) s0) (w.getD (i - 7) 0)) s1)

/-- The body of the loop over the rounds. -/
def roundStep (v : Octet Int) (k w : Int) : Octet Int :=
  let S1 := bitXor (bitXor (bitOr (ushr v.e 6) (shl v.e 26)) (bitOr (ushr v.e 11) (shl v.e 21)))
    (bitOr (ushr v.e 25) (shl v.e 7))
  let ch := bitXor (bitAnd v.e v.f) (bitAnd (bitNot v.e) v.g)
  let t1 := toInt32 (add (add (add (add v.h S1) ch) k) w)
  let S0 := bitXor (bitXor (bitOr (ushr v.a 2) (shl v.a 30)) (bitOr (ushr v.a 13) (shl v.a 19)))
    (bitOr (ushr v.a 22) (shl v.a 10))
  let maj := bitXor (bitXor (bitAnd v.a v.b) (bitAnd v.a v.c)) (bitAnd v.b v.c)
  let t2 := toInt32 (add S0 maj)
  ⟨toInt32 (add t1 t2), v.a, v.b, v.c, toInt32 (add v.d t1), v.e, v.f, v.g⟩

/-- `_compress`, the new value of `h`. -/
def compress (h : Octet Int) (block : List UInt8) (offset : Nat) : Octet Int :=
  let w := (List.range 16).map fun i => loadWord block (offset + i * 4)
  let w := (List.range 48).foldl (fun w i => w ++ [extendWord w (i + 16)]) w
  let v := (List.range 64).foldl (fun v i => roundStep v (sha256K.getD i 0) (w.getD i 0)) h
  ⟨toInt32 (add h.a v.a), toInt32 (add h.b v.b), toInt32 (add h.c v.c), toInt32 (add h.d v.d),
    toInt32 (add h.e v.e), toInt32 (add h.f v.f), toInt32 (add h.g v.g), toInt32 (add h.h v.h)⟩

/-! ### `update` and `hex` -/

/-- The loop that fills the buffer; the buffer, `bufLen` and `offset` after it. -/
def fill (data buf : List UInt8) (bufLen offset : Nat) : List UInt8 × Nat × Nat :=
  if offset < data.length ∧ bufLen < 64 then
    fill data (buf.set bufLen (data.getD offset 0)) (bufLen + 1) (offset + 1)
  else (buf, bufLen, offset)
termination_by data.length - offset

/-- The loop over the blocks; the value of `h` and `offset` after it. -/
def compressBlocks (data : List UInt8) (h : Octet Int) (offset : Nat) : Octet Int × Nat :=
  if 64 ≤ data.length - offset then compressBlocks data (compress h data offset) (offset + 64)
  else (h, offset)
termination_by data.length - offset

/-- The loop that holds back the rest; the buffer and `bufLen` after it. -/
def holdBack (data buf : List UInt8) (bufLen offset : Nat) : List UInt8 × Nat :=
  if offset < data.length then
    holdBack data (buf.set bufLen (data.getD offset 0)) (bufLen + 1) (offset + 1)
  else (buf, bufLen)
termination_by data.length - offset

/-- The first part of `update`, where something is held back; it leaves `offset`. -/
def Sha256.refill (s : Sha256) (data : List UInt8) : Sha256 × Nat :=
  if 0 < s.bufLen then
    let (buf, bufLen, offset) := fill data s.buf s.bufLen 0
    if bufLen = 64 then
      ({ s with h := compress s.h buf 0, buf := buf, bufLen := 0 }, offset)
    else ({ s with buf := buf, bufLen := bufLen }, offset)
  else (s, 0)

/-- `update`. -/
def Sha256.update (s : Sha256) (data : List UInt8) : Sha256 :=
  let (s, offset) := { s with total := add s.total data.length }.refill data
  let (h, offset) := compressBlocks data s.h offset
  let (buf, bufLen) := holdBack data s.buf s.bufLen offset
  { s with h := h, buf := buf, bufLen := bufLen }

/-- The padding of `hex`. -/
def Sha256.padding (s : Sha256) : List UInt8 :=
  -- A division by a power of two is exact.
  let bitLenHi := s.total / 0x20000000
  let bitLenLo := toUint32 (mul s.total 8)
  let restLen := (s.bufLen + 1) % 64
  let padZeros := if restLen ≤ 56 then 56 - restLen else 120 - restLen
  let bytes (n : Int) : List Int :=
    [bitAnd (ushr n 24) 0xff, bitAnd (ushr n 16) 0xff, bitAnd (ushr n 8) 0xff, bitAnd n 0xff]
  ([0x80] ++ List.replicate padZeros 0 ++ bytes bitLenHi ++ bytes bitLenLo).map toUint8

/-- `hex`. -/
def Sha256.hex (s : Sha256) : String :=
  String.ofList ((s.update s.padding).h.toList.flatMap fun h =>
    sliceLast (List.replicate 8 '0' ++ toString16 (toUint32 h)) 8)

/-! ### The numbers are words -/

section Words

variable {v : Octet Word} {k : Nat} {w x y : Word} {words : List Word}

theorem shiftedBytes_eq (b₀ b₁ b₂ b₃ : UInt8) : BitVec.ofNat 32 b₀.toNat <<< 24 |||
    BitVec.ofNat 32 b₁.toNat <<< 16 ||| BitVec.ofNat 32 b₂.toNat <<< 8 |||
    BitVec.ofNat 32 b₃.toNat = word b₀ b₁ b₂ b₃ := by
  have hbit : ∀ (b : UInt8) (i : Nat), b.toNat.testBit i = b.toBitVec.getLsbD i := fun b i => rfl
  refine BitVec.eq_of_getLsbD_eq fun i hi => ?_
  simp only [word, BitVec.getLsbD_or, BitVec.getLsbD_shiftLeft, BitVec.getLsbD_ofNat,
    BitVec.getLsbD_append, hbit]
  have hover : ∀ (b : UInt8) (j : Nat), 8 ≤ j → b.toBitVec.getLsbD j = false := fun b j hj =>
    BitVec.getLsbD_of_ge _ j hj
  -- Each bit is one of one byte.
  have hcases : i < 8 ∨ (8 ≤ i ∧ i < 16) ∨ (16 ≤ i ∧ i < 24) ∨ 24 ≤ i := by omega
  rcases hcases with h | ⟨h, h'⟩ | ⟨h, h'⟩ | h
  · simp [h, hi, show i < 16 by omega, show i < 24 by omega]
  · simp [h, h', hi, show ¬ i < 8 by omega, show i < 24 by omega,
      show i - 8 < 8 by omega, show i - 8 < 32 by omega]
  · simp [h', hi, hover b₃ i (by omega), hover b₂ (i - 8) (by omega), show ¬ i < 8 by omega,
      show ¬ i - 8 < 8 by omega, show i - 16 < 8 by omega, show ¬ i < 16 by omega,
      show i - 16 < 32 by omega, show i - 8 - 8 = i - 16 by omega]
  · simp [hi, hover b₃ i (by omega), hover b₂ (i - 8) (by omega), hover b₁ (i - 16) (by omega),
      show ¬ i < 8 by omega, show ¬ i - 8 < 8 by omega, show ¬ i - 8 - 8 < 8 by omega,
      show ¬ i < 24 by omega, show i - 24 < 32 by omega, show i - 8 - 8 - 8 = i - 24 by omega]

theorem loadWord_eq (block : List UInt8) (start : Nat) : loadWord block start =
    (word (block.getD start 0) (block.getD (start + 1) 0) (block.getD (start + 2) 0)
      (block.getD (start + 3) 0)).toInt := by
  rw [loadWord, ← shiftedBytes_eq]
  simp only [bitOr, shl, BitVec.ofInt_toInt, BitVec.ofInt_natCast, Nat.add_zero]

/-- Two rotations and a shift. -/
theorem rotated_shifted (x : Word) (n m n' m' s : Nat) (h : n + m = 32) (hm : 0 < m)
    (h' : n' + m' = 32) (hm' : 0 < m') :
    bitXor (bitXor (bitOr (ushr x.toInt n) (shl x.toInt m))
      (bitOr (ushr x.toInt n') (shl x.toInt m')))
      (ushr x.toInt s) = (x.rotateRight n ^^^ x.rotateRight n' ^^^ x >>> s).toInt := by
  rw [bitOr_ushr_shl h hm, bitOr_ushr_shl h' hm', bitXor_toInt, bitXor_ushr]

/-- Three rotations. -/
theorem rotated (x : Word) (n m n' m' n'' m'' : Nat) (h : n + m = 32) (hm : 0 < m)
    (h' : n' + m' = 32) (hm' : 0 < m') (h'' : n'' + m'' = 32) (hm'' : 0 < m'') :
    bitXor (bitXor (bitOr (ushr x.toInt n) (shl x.toInt m))
      (bitOr (ushr x.toInt n') (shl x.toInt m')))
      (bitOr (ushr x.toInt n'') (shl x.toInt m'')) =
        (x.rotateRight n ^^^ x.rotateRight n' ^^^ x.rotateRight n'').toInt := by
  rw [bitOr_ushr_shl h hm, bitOr_ushr_shl h' hm', bitOr_ushr_shl h'' hm'', bitXor_toInt,
    bitXor_toInt]

theorem getD_toInt (words : List Word) (i : Nat) :
    (words.map BitVec.toInt).getD i 0 = (words.getD i 0).toInt :=
  List.getD_map (f := BitVec.toInt) (d := 0) ..

theorem extendWord_eq (words : List Word) (i : Nat) :
    extendWord (words.map BitVec.toInt) i = (scheduled words i).toInt := by
  simp only [extendWord, getD_toInt]
  rw [rotated_shifted _ 7 25 18 14 3 (by omega) (by omega) (by omega) (by omega),
    rotated_shifted _ 17 15 19 13 10 (by omega) (by omega) (by omega) (by omega)]
  have hsum := (((Sum.toInt (words.getD (i - 16) 0)).add
    (.toInt (smallSigma0 (words.getD (i - 15) 0))) (by omega)).add
    (.toInt (words.getD (i - 7) 0)) (by omega)).add
    (.toInt (smallSigma1 (words.getD (i - 2) 0))) (by omega)
  refine hsum.toInt32_eq.trans (congrArg BitVec.toInt ?_)
  rw [scheduled]
  ac_rfl

theorem roundStep_eq (v : Octet Word) (hk : k < 2 ^ 32) (w : Word) :
    roundStep (v.map BitVec.toInt) k w.toInt =
      (round v (BitVec.ofNat 32 k) w).map BitVec.toInt := by
  have hS1 := rotated v.e 6 26 11 21 25 7
    (by omega) (by omega) (by omega) (by omega) (by omega) (by omega)
  have hS0 := rotated v.a 2 30 13 19 22 10
    (by omega) (by omega) (by omega) (by omega) (by omega) (by omega)
  have hch : bitXor (bitAnd v.e.toInt v.f.toInt) (bitAnd (bitNot v.e.toInt) v.g.toInt) =
      (ch v.e v.f v.g).toInt := by
    rw [bitNot_toInt, bitAnd_toInt, bitAnd_toInt, bitXor_toInt, ch]
  have hmaj : bitXor (bitXor (bitAnd v.a.toInt v.b.toInt) (bitAnd v.a.toInt v.c.toInt))
      (bitAnd v.b.toInt v.c.toInt) = (maj v.a v.b v.c).toInt := by
    rw [bitAnd_toInt, bitAnd_toInt, bitAnd_toInt, bitXor_toInt, bitXor_toInt, maj]
  have ht1 := (((((Sum.toInt v.h).add (.toInt (bigSigma1 v.e)) (by omega)).add
    (.toInt (ch v.e v.f v.g)) (by omega)).add (.natCast hk) (by omega)).add
    (.toInt w) (by omega)).toInt32_eq
  simp only [roundStep, Octet.map]
  rw [hS1, hS0, hch, hmaj, ← bigSigma1, ← bigSigma0, ht1, toInt32_add_toInt, toInt32_add_toInt,
    toInt32_add_toInt]
  rfl

theorem sha256K_eq : sha256K = roundConstants.map Nat.cast := rfl

theorem getD_sha256K (i : Nat) : sha256K.getD i 0 = (roundConstants.getD i 0 : Nat) := by
  rw [sha256K_eq]
  exact List.getD_map (f := Nat.cast) (d := 0) ..

theorem getD_roundConstants_lt (i : Nat) : roundConstants.getD i 0 < 2 ^ 32 := by
  have hall : ∀ k ∈ roundConstants, k < 2 ^ 32 := by decide
  rw [List.getD_eq_getElem?_getD]
  rcases hk : roundConstants[i]? with _ | k
  · decide
  · exact hall k (List.mem_of_getElem? hk)

/-- Sixteen words of the block that starts at the offset. -/
theorem loadWords_eq (block : List UInt8) (offset : Nat) :
    (List.range 16).map (fun i => loadWord block (offset + i * 4)) =
      (blockWords ((block.drop offset).take 64)).map BitVec.toInt := by
  have hget : ∀ i < 64, ((block.drop offset).take 64).getD i 0 = block.getD (offset + i) 0 := by
    intro i hi
    rw [List.getD_eq_getElem?_getD, List.getElem?_take_of_lt hi, List.getElem?_drop,
      List.getD_eq_getElem?_getD]
  rw [blockWords, List.map_map]
  refine List.map_congr_left fun i hi => ?_
  have hlt := List.mem_range.1 hi
  rw [loadWord_eq, Function.comp_apply, hget _ (by omega), hget _ (by omega), hget _ (by omega),
    hget _ (by omega)]
  simp only [Nat.mul_comm i 4, Nat.add_assoc]

/-- **`_compress`** is the compression of SHA-256 on the block at the offset. -/
theorem compress_eq (hash : Octet Word) (block : List UInt8) (offset : Nat) :
    compress (hash.map BitVec.toInt) block offset =
      (Sha2.compress hash ((block.drop offset).take 64)).map BitVec.toInt := by
  have hschedule : ∀ words : List Word, (List.range 48).foldl
      (fun w i => w ++ [extendWord w (i + 16)]) (words.map BitVec.toInt) =
        (schedule words).map BitVec.toInt := by
    intro words
    refine List.foldl_hom (List.map BitVec.toInt) fun words i => ?_
    rw [extendWord_eq, List.map_append, List.map_singleton]
  have hrounds : ∀ words : List Word, (List.range 64).foldl
      (fun v i => roundStep v (sha256K.getD i 0) ((words.map BitVec.toInt).getD i 0))
        (hash.map BitVec.toInt) =
      ((List.range 64).foldl (fun v t => round v (BitVec.ofNat 32 (roundConstants.getD t 0))
        (words.getD t 0)) hash).map BitVec.toInt := by
    intro words
    refine List.foldl_hom (Octet.map BitVec.toInt) fun v i => ?_
    rw [getD_toInt, getD_sha256K, roundStep_eq v (getD_roundConstants_lt i)]
  rw [compress, loadWords_eq]
  simp only [hschedule, hrounds]
  simp only [Octet.map, toInt32_add_toInt, Sha2.compress, BitVec.add_comm]

end Words

/-! ### The loops -/

/-- The hasher has absorbed the blocks of the message, and holds back what follows them. -/
structure Sha256.Holds (s : Sha256) (message : List UInt8) : Prop where
  length_buf : s.buf.length = 64
  bufLen_lt : s.bufLen < 64
  blocks : ∃ blocks, message = blocks ++ s.buf.take s.bufLen ∧ 64 ∣ blocks.length ∧
    s.h = (absorb initialHash blocks).map BitVec.toInt

section Loops

variable {s : Sha256} {data buf message : List UInt8} {bufLen offset : Nat}

theorem take_set (hlt : bufLen < buf.length) (b : UInt8) :
    (buf.set bufLen b).take (bufLen + 1) = buf.take bufLen ++ [b] := by
  have hlength : (buf.take bufLen).length = bufLen := List.length_take_of_le hlt.le
  rw [List.set_eq_take_append_cons_drop, if_pos hlt, List.take_append, hlength]
  simp

theorem drop_eq_getD_cons (h : offset < data.length) :
    data.drop offset = data.getD offset 0 :: data.drop (offset + 1) := by
  rw [List.drop_eq_getElem_cons h, List.getD_eq_getElem data 0 h]

/-- Bytes go from the data to the end of the buffer, until one of them is exhausted. -/
theorem fill_spec (hbuf : buf.length = 64) (hle : bufLen ≤ 64) (hoffset : offset ≤ data.length) :
    ∃ buf' bufLen' offset', fill data buf bufLen offset = (buf', bufLen', offset') ∧
      buf'.length = 64 ∧ bufLen' ≤ 64 ∧ offset' ≤ data.length ∧
      buf'.take bufLen' ++ data.drop offset' = buf.take bufLen ++ data.drop offset ∧
      (bufLen' = 64 ∨ offset' = data.length) := by
  fun_induction fill data buf bufLen offset with
  | case1 buf bufLen offset h ih =>
    obtain ⟨buf', bufLen', offset', hfill, hbuf', hle', hoffset', hsame, hover⟩ :=
      ih (by rw [List.length_set, hbuf]) (by omega) (by omega)
    refine ⟨buf', bufLen', offset', hfill, hbuf', hle', hoffset', ?_, hover⟩
    rw [hsame, take_set (by omega), drop_eq_getD_cons h.1, List.append_assoc]
    rfl
  | case2 buf bufLen offset h =>
    exact ⟨buf, bufLen, offset, rfl, hbuf, hle, hoffset, rfl, by omega⟩

/-- The blocks of the data are absorbed. -/
theorem compressBlocks_spec (hash : Octet Word) (hoffset : offset ≤ data.length) :
    ∃ offset' blocks, compressBlocks data (hash.map BitVec.toInt) offset =
        ((absorb hash blocks).map BitVec.toInt, offset') ∧
      offset' ≤ data.length ∧ data.length - offset' < 64 ∧ 64 ∣ blocks.length ∧
      blocks ++ data.drop offset' = data.drop offset := by
  induction hn : data.length - offset using Nat.strong_induction_on generalizing hash offset with
  | _ n ih =>
    rw [compressBlocks]
    split
    · rename_i hblock
      rw [compress_eq]
      have hlength : ((data.drop offset).take 64).length = 64 := by
        rw [List.length_take_of_le (by rw [List.length_drop]; exact hblock)]
      obtain ⟨offset', blocks, hrest, hle, hlt, hdvd, hsame⟩ :=
        ih (data.length - (offset + 64)) (by omega)
          (Sha2.compress hash ((data.drop offset).take 64)) (by omega) rfl
      refine ⟨offset', (data.drop offset).take 64 ++ blocks, ?_, hle, hlt, ?_, ?_⟩
      · rw [hrest, absorb_append (by rw [hlength]), absorb_block hlength]
      · rw [List.length_append, hlength]
        exact Dvd.dvd.add (dvd_refl 64) hdvd
      · rw [List.append_assoc, hsame, ← List.drop_drop, List.take_append_drop]
    · rename_i hshort
      refine ⟨offset, [], ?_, hoffset, by omega, dvd_zero _, rfl⟩
      rw [absorb_of_lt (by simp)]

/-- The rest of the data goes to the end of the buffer. -/
theorem holdBack_spec (hbuf : buf.length = 64) (hroom : bufLen + (data.length - offset) < 64)
    (hoffset : offset ≤ data.length) :
    ∃ buf', holdBack data buf bufLen offset = (buf', bufLen + (data.length - offset)) ∧
      buf'.length = 64 ∧
      buf'.take (bufLen + (data.length - offset)) = buf.take bufLen ++ data.drop offset := by
  fun_induction holdBack data buf bufLen offset with
  | case1 buf bufLen offset h ih =>
    obtain ⟨buf', hrest, hbuf', hsame⟩ :=
      ih (by rw [List.length_set, hbuf]) (by omega) (by omega)
    have hlength : bufLen + 1 + (data.length - (offset + 1)) =
        bufLen + (data.length - offset) := by omega
    rw [hlength] at hrest hsame
    refine ⟨buf', hrest, hbuf', ?_⟩
    rw [hsame, take_set (by omega), drop_eq_getD_cons h, List.append_assoc]
    rfl
  | case2 buf bufLen offset h =>
    have hlength : data.length - offset = 0 := by omega
    rw [hlength]
    refine ⟨buf, rfl, hbuf, ?_⟩
    rw [List.drop_of_length_le (by omega), List.append_nil]
    rfl

/-- What was held back is completed to a block, or all of the data is held back with it. -/
theorem Sha256.Holds.refill (h : s.Holds message) (data : List UInt8) :
    ∃ s' offset message', s.refill data = (s', offset) ∧ s'.Holds message' ∧
      s'.total = s.total ∧ offset ≤ data.length ∧
      message' ++ data.drop offset = message ++ data ∧
      (s'.bufLen = 0 ∨ offset = data.length) := by
  obtain ⟨blocks, hmessage, hdvd, hh⟩ := h.blocks
  have hbufLen := h.bufLen_lt
  rw [Sha256.refill]
  split
  · obtain ⟨buf', bufLen', offset', hfill, hbuf', hle', hoffset', hsame, hover⟩ :=
      @fill_spec data s.buf s.bufLen 0 h.length_buf hbufLen.le (Nat.zero_le _)
    rw [hfill]
    dsimp only
    rw [List.drop_zero] at hsame
    have hwhole : blocks ++ buf'.take bufLen' ++ data.drop offset' = message ++ data := by
      rw [List.append_assoc, hsame, hmessage, List.append_assoc]
    split
    · rename_i hfull
      have htake : buf'.take bufLen' = buf' := List.take_of_length_le (by omega)
      refine ⟨_, offset', blocks ++ buf', rfl,
        ⟨hbuf', Nat.zero_lt_succ 63, blocks ++ buf', ?_, ?_, ?_⟩, rfl,
        hoffset', by rw [← hwhole, htake], .inl rfl⟩
      · rw [List.take_zero, List.append_nil]
      · rw [List.length_append, hbuf']
        exact hdvd.add (dvd_refl 64)
      · dsimp only
        rw [hh, compress_eq, List.drop_zero, List.take_of_length_le hbuf'.le, absorb_append hdvd,
          absorb_block hbuf']
    · rename_i hshort
      refine ⟨_, offset', blocks ++ buf'.take bufLen', rfl,
        ⟨hbuf', by dsimp only; omega, blocks, rfl, hdvd, hh⟩, rfl, hoffset', hwhole,
        .inr (hover.resolve_left hshort)⟩
  · exact ⟨s, 0, message, rfl, h, rfl, Nat.zero_le _, rfl, .inl (by omega)⟩

/-- **`update`** takes the data to the message. -/
theorem Sha256.Holds.update (h : s.Holds message) (data : List UInt8) :
    (s.update data).Holds (message ++ data) ∧
      (s.update data).total = add s.total data.length := by
  have hcounted : ({ s with total := add s.total data.length } : Sha256).Holds message :=
    ⟨h.length_buf, h.bufLen_lt, h.blocks⟩
  obtain ⟨s', offset, message', hrefill, hs', htotal, hoffset, hwhole, hover⟩ :=
    hcounted.refill data
  obtain ⟨blocks, hmessage', hdvd, hh⟩ := hs'.blocks
  obtain ⟨offset', more, hcompress, hoffset', hshort, hdvd', hrest⟩ :=
    compressBlocks_spec (absorb initialHash blocks) hoffset
  have hbufLen := hs'.bufLen_lt
  -- When blocks were absorbed from the data, nothing was held back.
  have hempty : more = [] ∨ s'.bufLen = 0 := by
    rcases hover with hzero | rfl
    · exact .inr hzero
    · rw [List.drop_length, List.append_eq_nil_iff] at hrest
      exact .inl hrest.1
  have hroom : s'.bufLen + (data.length - offset') < 64 := by
    rcases hover with hzero | rfl
    · omega
    · have hnone : data.length - offset' = 0 := by
        rw [List.drop_length, List.append_eq_nil_iff, List.drop_eq_nil_iff] at hrest
        omega
      omega
  obtain ⟨buf', hhold, hbuf', hheld⟩ := holdBack_spec hs'.length_buf hroom hoffset'
  have hupdate : s.update data = { s' with
      h := (absorb (absorb initialHash blocks) more).map BitVec.toInt
      buf := buf'
      bufLen := s'.bufLen + (data.length - offset') } := by
    rw [Sha256.update, hrefill]
    dsimp only
    rw [hh, hcompress]
    dsimp only
    rw [hhold]
  rw [hupdate]
  refine ⟨⟨hbuf', hroom, blocks ++ more, ?_, ?_, ?_⟩, htotal⟩
  · dsimp only
    rw [hheld, ← hwhole, hmessage', ← hrest]
    rcases hempty with rfl | hzero
    · simp
    · simp [hzero]
  · rw [List.length_append]
    exact hdvd.add hdvd'
  · dsimp only
    rw [absorb_append hdvd]

/-- The length of the message is exact, as far as a double is. -/
theorem Sha256.holds_foldl (h : s.Holds message) (htotal : s.total = message.length)
    (chunks : List (List UInt8)) (hlength : (message ++ chunks.flatten).length ≤ 2 ^ 53) :
    (chunks.foldl Sha256.update s).Holds (message ++ chunks.flatten) ∧
      (chunks.foldl Sha256.update s).total = (message ++ chunks.flatten).length := by
  induction chunks generalizing s message with
  | nil => simpa using ⟨h, htotal⟩
  | cons data chunks ih =>
    rw [List.flatten_cons, ← List.append_assoc] at hlength ⊢
    obtain ⟨hnext, htotal'⟩ := h.update data
    refine ih hnext ?_ hlength
    rw [htotal', htotal, add_eq]
    · rw [List.length_append, Int.natCast_add]
    · rw [List.length_append, List.length_append] at hlength
      omega

end Loops

/-! ### The digest -/

theorem Sha256.holds_new : Sha256.new.Holds [] := by
  refine ⟨List.length_replicate, Nat.zero_lt_succ 63, [], rfl, dvd_zero _, ?_⟩
  decide +kernel

section Digest

variable {s : Sha256} {message : List UInt8}

theorem Sha256.Holds.bufLen_eq (h : s.Holds message) : s.bufLen = message.length % 64 := by
  obtain ⟨blocks, hmessage, hdvd, -⟩ := h.blocks
  have hbufLen := h.bufLen_lt
  have hbuf := h.length_buf
  rw [hmessage, List.length_append, List.length_take_of_le (by omega)]
  omega

/-- A message that ends with a block is absorbed whole. -/
theorem Sha256.Holds.whole (h : s.Holds message) (hdvd : 64 ∣ message.length) :
    s.h = (absorb initialHash message).map BitVec.toInt := by
  obtain ⟨blocks, hmessage, -, hh⟩ := h.blocks
  have hzero : s.bufLen = 0 := by
    rw [h.bufLen_eq]
    omega
  rw [hzero, List.take_zero, List.append_nil] at hmessage
  rw [hh, hmessage]

/-- The bytes of an unsigned word. -/
theorem toUint8_ushr {n : Nat} (h : n < 2 ^ 32) (k : Nat) :
    toUint8 (bitAnd (ushr n k) 0xff) = UInt8.ofNat (n / 2 ^ k) := by
  have hshifted : (BitVec.ofNat 32 n >>> k).toNat = n / 2 ^ k := by
    rw [BitVec.toNat_ushiftRight, BitVec.toNat_ofNat, Nat.mod_eq_of_lt h, Nat.shiftRight_eq_div_pow]
  have hmasked : (BitVec.ofNat 32 n >>> k &&& BitVec.ofInt 32 0xff).toNat = n / 2 ^ k % 2 ^ 8 := by
    have hmask : (BitVec.ofInt 32 0xff).toNat = 2 ^ 8 - 1 := by decide
    rw [BitVec.toNat_and, hshifted, hmask, Nat.and_two_pow_sub_one_eq_mod]
  have hint : bitAnd (ushr n k) 0xff = ((n / 2 ^ k % 2 ^ 8 : Nat) : Int) := by
    rw [bitAnd, ushr, ofInt_toNat, BitVec.ofInt_natCast, BitVec.toInt_eq_toNat_of_lt, hmasked]
    rw [hmasked]
    omega
  rw [hint, toUint8, ← UInt8.toNat_inj, UInt8.toNat_ofNat']
  change (BitVec.ofInt 8 _).toNat = _
  rw [BitVec.ofInt_natCast, BitVec.toNat_ofNat, Nat.mod_mod]

theorem ofNat_eq {n m : Nat} (h : n % 256 = m % 256) : UInt8.ofNat n = UInt8.ofNat m := by
  rw [← UInt8.toNat_inj, UInt8.toNat_ofNat', UInt8.toNat_ofNat']
  exact h

/-- **The padding** is that of SHA-256. -/
theorem Sha256.Holds.pad_eq (h : s.Holds message) (htotal : s.total = message.length)
    (hlength : message.length < 2 ^ 50) : message ++ s.padding = pad message := by
  have hzeros : (if (s.bufLen + 1) % 64 ≤ 56 then 56 - (s.bufLen + 1) % 64
      else 120 - (s.bufLen + 1) % 64) = zeroBytes message.length := by
    rw [h.bufLen_eq]
    refine (zeroBytes_eq ?_ ?_).symm
    · split <;> omega
    · split <;> omega
  have hhi : s.total / 0x20000000 = ((8 * message.length / 2 ^ 32 : Nat) : Int) := by
    rw [htotal]
    omega
  have hlo : toUint32 (mul s.total 8) = ((8 * message.length % 2 ^ 32 : Nat) : Int) := by
    have hmul : mul s.total 8 = ((8 * message.length : Nat) : Int) := by
      rw [htotal, mul_eq]
      · omega
      · omega
    rw [hmul, toUint32, BitVec.ofInt_natCast, BitVec.toNat_ofNat]
  have hlast : ∀ n : Int, bitAnd n 0xff = bitAnd (ushr n 0) 0xff := by
    intro n
    rw [bitAnd, bitAnd, ushr, BitVec.ushiftRight_zero, ofInt_toNat]
  have hbytes : lengthBytes message.length =
      [UInt8.ofNat (8 * message.length / 2 ^ 56), UInt8.ofNat (8 * message.length / 2 ^ 48),
        UInt8.ofNat (8 * message.length / 2 ^ 40), UInt8.ofNat (8 * message.length / 2 ^ 32),
        UInt8.ofNat (8 * message.length / 2 ^ 24), UInt8.ofNat (8 * message.length / 2 ^ 16),
        UInt8.ofNat (8 * message.length / 2 ^ 8), UInt8.ofNat (8 * message.length / 2 ^ 0)] := rfl
  rw [Sha256.padding, pad]
  dsimp only
  rw [hzeros, hhi, hlo, hbytes]
  rw [hlast ((8 * message.length / 2 ^ 32 : Nat) : Int),
    hlast ((8 * message.length % 2 ^ 32 : Nat) : Int)]
  simp only [List.map_append, List.map_cons, List.map_nil, List.map_replicate,
    toUint8_ushr (show 8 * message.length / 2 ^ 32 < 2 ^ 32 by omega),
    toUint8_ushr (show 8 * message.length % 2 ^ 32 < 2 ^ 32 by omega)]
  have hhigh : ∀ n k j : Nat, k + 32 = j →
      UInt8.ofNat (n / 2 ^ 32 / 2 ^ k) = UInt8.ofNat (n / 2 ^ j) := by
    intro n k j hj
    rw [Nat.div_div_eq_div_mul, ← Nat.pow_add, Nat.add_comm, hj]
  have hlow : ∀ n k : Nat, k ≤ 24 →
      UInt8.ofNat (n % 2 ^ 32 / 2 ^ k) = UInt8.ofNat (n / 2 ^ k) := by
    intro n k hk
    have hsplit : 2 ^ 32 = 2 ^ k * 2 ^ (32 - k) := by
      rw [← Nat.pow_add]
      congr 1
      omega
    have hdvd : 2 ^ 8 ∣ 2 ^ (32 - k) := Nat.pow_dvd_pow 2 (by omega)
    refine ofNat_eq ?_
    rw [hsplit, Nat.mod_mul_right_div_self]
    exact Nat.mod_mod_of_dvd _ hdvd
  rw [hhigh _ 24 56 rfl, hhigh _ 16 48 rfl, hhigh _ 8 40 rfl, hhigh _ 0 32 rfl,
    hlow _ 24 (by omega), hlow _ 16 (by omega), hlow _ 8 (by omega), hlow _ 0 (by omega)]
  have htop : toUint8 128 = 128 := by decide
  have hzero : toUint8 0 = 0 := by decide
  rw [htop, hzero]
  simp only [List.append_assoc, List.cons_append, List.nil_append]

/-- The last digits of a number, with zeros before them. -/
theorem sliceLast_zeros (k n : Nat) :
    sliceLast (List.replicate k '0' ++ Nat.toDigits 16 n) k = hexDigits k n := by
  have hzeros : ∀ k, hexDigits k 0 = List.replicate k '0' := by
    intro k
    induction k with
    | zero => rfl
    | succ k ih =>
      rw [hexDigits, Nat.zero_div, ih, List.replicate_succ']
      rfl
  have hlast : ∀ (l : List Char) (c : Char) (k : Nat), k ≤ l.length →
      sliceLast (l ++ [c]) (k + 1) = sliceLast l k ++ [c] := by
    intro l c k hk
    rw [sliceLast, sliceLast, List.length_append, List.length_singleton,
      Nat.add_sub_add_right, List.drop_append_of_le_length (by omega)]
  have hfirst : ∀ (l : List Char) (c : Char) (k : Nat), k ≤ l.length →
      sliceLast (c :: l) k = sliceLast l k := by
    intro l c k hk
    rw [sliceLast, sliceLast, List.length_cons, Nat.succ_sub hk, List.drop_succ_cons]
  induction k generalizing n with
  | zero => simp [sliceLast, hexDigits]
  | succ k ih =>
    rw [hexDigits]
    by_cases hn : n < 16
    · rw [Nat.toDigits_of_lt_base hn, Nat.div_eq_of_lt hn, Nat.mod_eq_of_lt hn, hzeros,
        hlast _ _ _ (by simp), List.replicate_succ, hfirst _ _ _ (by simp)]
      simp [sliceLast]
    · rw [Nat.toDigits_of_base_le (by omega) (by omega), ← List.append_assoc,
        hlast _ _ _ (by simp; omega), List.replicate_succ, List.cons_append,
        hfirst _ _ _ (by simp), ih]

/-- **The digest of the page** is that of SHA-256, however the bytes are cut into chunks. -/
theorem browser_sha256 (chunks : List (List UInt8)) (h : chunks.flatten.length < 2 ^ 50) :
    (chunks.foldl Sha256.update Sha256.new).hex = hexDigest chunks.flatten := by
  obtain ⟨hholds, htotal⟩ := Sha256.holds_foldl Sha256.holds_new rfl chunks (by
    rw [List.nil_append]
    omega)
  rw [List.nil_append] at hholds htotal
  have hpad := hholds.pad_eq htotal h
  have hdvd : 64 ∣ (pad chunks.flatten).length := by
    have hspec := zeroBytes_spec chunks.flatten.length
    simp only [pad, lengthBytes, List.length_append, List.length_cons, List.length_replicate,
      List.length_map, List.length_range]
    omega
  have hlast := (hholds.update (chunks.foldl Sha256.update Sha256.new).padding).1
  rw [hpad] at hlast
  rw [Sha256.hex, hlast.whole hdvd, hexDigest, digest, Octet.toList_map, List.flatMap_map]
  simp only [toUint32_toInt, toString16, Int.toNat_natCast, sliceLast_zeros]

/-- `abc`, in two chunks. -/
theorem browser_sha256_abc :
    ([[0x61], [0x62, 0x63]].foldl Sha256.update Sha256.new).hex = hexDigest [0x61, 0x62, 0x63] :=
  browser_sha256 [[0x61], [0x62, 0x63]] (by decide)

end Digest

end StylyMdm.Files.Browser
