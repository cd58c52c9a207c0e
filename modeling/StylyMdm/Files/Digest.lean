import Mathlib

/-!
# The digest of an APK

The console compares an installed APK with a reference by the hash of its central directory. The
server (`integrity.py`), the browser (`index.html`) and the device (`MdmClientService.kt`) each find
the End Of Central Directory record at the end of the file and hash from the offset stored in it to
the end of the file. What they hash is modelled as the bytes that are handed to SHA-256.

A file is the list of its bytes. `RandomAccessFile.read` may return fewer bytes than it is asked
for; how many is a parameter of the device's function.

**One specification.** `LastEocd` says where the record is: the last place in the tail of the file
with the signature and a comment length that reaches the end. Each of the three searches backwards
with its own bounds and finds exactly this place, and each of the three loops hashes everything from
the offset on, however its reads are cut.

**One difference.** All three refuse the ZIP64 sentinel in the field of the offset, the browser also
in the field of the size. So they agree on every file whose size field is not the sentinel, or whose
offset field is the sentinel as well (`digests_agree_iff`).

Fields are read with shifts of signed bytes on the device; the lemmas of the section on fields say
that these are the numbers of the bytes in little-endian order.
-/

namespace StylyMdm.Files

/-! ### Reading fields -/

/-- `EOCD_MIN_SIZE`. -/
def eocdMinSize : Nat := 22

/-- `MAX_EOCD_COMMENT`. -/
def maxEocdComment : Nat := 0xFFFF

/-- `ZIP64_SENTINEL`. -/
def zip64Sentinel : Nat := 0xFFFFFFFF

/-- `EOCD_SIGNATURE`. -/
def eocdSignature : List UInt8 := [0x50, 0x4b, 0x05, 0x06]

/-- The byte at a position. The functions below read inside the buffer only. -/
def byteAt (bytes : List UInt8) (i : Nat) : UInt8 := bytes.getD i 0

/-- A little-endian unsigned field of two bytes: `"<H"` of `struct` and `getUint16`. -/
def uint16At (bytes : List UInt8) (i : Nat) : Nat :=
  (byteAt bytes i).toNat + 256 * (byteAt bytes (i + 1)).toNat

/-- A little-endian unsigned field of four bytes: `"<I"` of `struct` and `getUint32`. -/
def uint32At (bytes : List UInt8) (i : Nat) : Nat :=
  uint16At bytes i + 65536 * uint16At bytes (i + 2)

/-- `ByteBuffer.getShort`, little-endian and signed. -/
def getShort (bytes : List UInt8) (i : Nat) : BitVec 16 :=
  (byteAt bytes (i + 1)).toBitVec ++ (byteAt bytes i).toBitVec

/-- `ByteBuffer.getInt`, little-endian and signed. -/
def getInt (bytes : List UInt8) (i : Nat) : BitVec 32 :=
  getShort bytes (i + 2) ++ getShort bytes i

/-- The first position from `n` down to `0` that passes the test. -/
def scanDown (test : Nat → Bool) : Nat → Option Nat
  | 0 => if test 0 then some 0 else none
  | n + 1 => if test (n + 1) then some (n + 1) else scanDown test n

/-- The loop of the three `findEocd`, from the last place for a record down to the first. -/
def scanTail (test : Nat → Bool) (tail : List UInt8) : Option Nat :=
  if tail.length < eocdMinSize then none else scanDown test (tail.length - eocdMinSize)

/-- The exceptions. -/
inductive DigestError
  | eocdNotFound
  | zip64
deriving DecidableEq, Repr

/-- The part of the file that is searched: where it starts, and its bytes. -/
def tailOf (file : List UInt8) : Nat × List UInt8 :=
  let readLen := min file.length (eocdMinSize + maxEocdComment)
  let tailStart := file.length - readLen
  (tailStart, (file.drop tailStart).take readLen)

/-! ### The server -/

namespace Server

/-- `_CHUNK`. -/
def chunk : Nat := 1024 * 1024

/-- `_find_eocd`. -/
def findEocd (tail : List UInt8) (fileLen tailStart : Nat) : Option Nat :=
  (scanTail (fun i => (tail.drop i).take 4 = eocdSignature &&
    tailStart + i + eocdMinSize + uint16At tail (i + 20) = fileLen) tail).map (tailStart + ·)

/-- The reading loop, with what is left of the file. -/
def hashLoop : Nat → List UInt8 → List UInt8
  | 0, _ => []
  | fuel + 1, rest =>
    let bytes := rest.take chunk
    if bytes = [] then [] else bytes ++ hashLoop fuel (rest.drop chunk)

/-- `apk_cd_digest`: the size and what is hashed. -/
def apkCdDigest (file : List UInt8) : Except DigestError (Nat × List UInt8) :=
  let (tailStart, tail) := tailOf file
  match findEocd tail file.length tailStart with
  | none => .error .eocdNotFound
  | some eocdAbs =>
    let eocdOff := eocdAbs - tailStart
    let cdOffset := uint32At tail (eocdOff + 16)
    if cdOffset = zip64Sentinel then .error .zip64
    else .ok (file.length, hashLoop (file.length + 1) (file.drop cdOffset))

end Server

/-! ### The browser -/

namespace Browser

/-- `HASH_CHUNK`. -/
def hashChunk : Nat := 4 * 1024 * 1024

/-- `findEocd`. -/
def findEocd (tail : List UInt8) (fileLen tailStart : Nat) : Option Nat :=
  scanTail (fun i => byteAt tail i = 0x50 && byteAt tail (i + 1) = 0x4b &&
    byteAt tail (i + 2) = 0x05 && byteAt tail (i + 3) = 0x06 &&
    tailStart + i + eocdMinSize + uint16At tail (i + 20) = fileLen) tail

/-- What `zipCentralDirectory` returns. -/
structure CentralDirectory where
  size : Nat
  cdOffset : Nat
  cdSize : Nat
deriving DecidableEq, Repr

/-- `zipCentralDirectory`. It also checks the size of the central directory. -/
def zipCentralDirectory (file : List UInt8) : Except DigestError CentralDirectory :=
  let (tailStart, tail) := tailOf file
  match findEocd tail file.length tailStart with
  | none => .error .eocdNotFound
  | some eocdOff =>
    let cdSize := uint32At tail (eocdOff + 12)
    let cdOffset := uint32At tail (eocdOff + 16)
    if cdOffset = zip64Sentinel ∨ cdSize = zip64Sentinel then .error .zip64
    else .ok ⟨file.length, cdOffset, cdSize⟩

/-- The hashing loop, from a position. -/
def hashLoop (file : List UInt8) (size : Nat) : Nat → Nat → List UInt8
  | 0, _ => []
  | fuel + 1, pos =>
    if pos < size then
      (file.drop pos).take (min (pos + hashChunk) size - pos) ++
        hashLoop file size fuel (pos + hashChunk)
    else []

/-- `apkCdDigest`: the size and what is hashed. -/
def apkCdDigest (file : List UInt8) : Except DigestError (Nat × List UInt8) := do
  let cd ← zipCentralDirectory file
  return (cd.size, hashLoop file cd.size (file.length + 1) cd.cdOffset)

end Browser

/-! ### The device -/

namespace Device

/-- How many bytes `RandomAccessFile.read` returns at a position when it is asked for `limit` and
there are that many: at least one. -/
structure PartialRead where
  count : Nat → Nat → Nat
  pos : ∀ at_ limit, 0 < limit → 0 < count at_ limit
  le : ∀ at_ limit, count at_ limit ≤ limit

/-- `1 shl 20`. -/
def bufferSize : Nat := 2 ^ 20

/-- `toInt() and 0xff` of a signed byte. -/
def unsignedByte (byte : UInt8) : Nat := (byte.toBitVec.signExtend 32 &&& 0xff#32).toNat

/-- `toInt() and 0xffff` of a signed short. -/
def unsignedShort (short : BitVec 16) : Nat := (short.signExtend 32 &&& 0xffff#32).toNat

/-- `toLong() and 0xFFFFFFFFL` of a signed integer. -/
def unsignedInt (int : BitVec 32) : Nat := (int.signExtend 64 &&& 0xFFFFFFFF#64).toNat

/-- `findEocd`. -/
def findEocd (tail : List UInt8) (fileLen tailStart : Nat) : Option Nat :=
  scanTail (fun i => unsignedByte (byteAt tail i) = 0x50 &&
    unsignedByte (byteAt tail (i + 1)) = 0x4b && unsignedByte (byteAt tail (i + 2)) = 0x05 &&
    unsignedByte (byteAt tail (i + 3)) = 0x06 &&
    tailStart + i + eocdMinSize + unsignedShort (getShort tail (i + 20)) = fileLen) tail

/-- The reading loop, from a position and with what remains. -/
def hashLoop (read : PartialRead) (file : List UInt8) : Nat → Nat → Int → List UInt8
  | 0, _, _ => []
  | fuel + 1, pos, remaining =>
    if 0 < remaining then
      let n := min (read.count pos (min bufferSize remaining.toNat)) (file.length - pos)
      if n = 0 then []
      else (file.drop pos).take n ++ hashLoop read file fuel (pos + n) (remaining - n)
    else []

/-- `apkCentralDirectoryDigest`: what is hashed. -/
def apkCentralDirectoryDigest (read : PartialRead) (file : List UInt8) :
    Except DigestError (List UInt8) :=
  let (tailStart, tail) := tailOf file
  match findEocd tail file.length tailStart with
  | none => .error .eocdNotFound
  | some eocdOff =>
    let cdOffset := unsignedInt (getInt tail (eocdOff + 16))
    if cdOffset = zip64Sentinel then .error .zip64
    else .ok (hashLoop read file (file.length + 1) cdOffset (file.length - cdOffset))

end Device

/-! ### Fields -/

/-- Masking the bits of the narrow type undoes the sign extension. -/
theorem toNat_signExtend_and_mask {w v : Nat} (x : BitVec w) (h : w ≤ v) :
    (x.signExtend v &&& (BitVec.allOnes w).setWidth v).toNat = x.toNat := by
  have hzero : x.signExtend v &&& (BitVec.allOnes w).setWidth v = x.setWidth v := by
    ext i hi
    by_cases hlt : i < w
    · simp [BitVec.getElem_signExtend, BitVec.getElem_setWidth, hlt, BitVec.getLsbD_eq_getElem]
    · simp [BitVec.getElem_setWidth, hlt, BitVec.getLsbD_of_ge x i (Nat.not_lt.mp hlt)]
  rw [hzero, BitVec.toNat_setWidth]
  exact Nat.mod_eq_of_lt (x.isLt.trans_le (Nat.pow_le_pow_right (by decide) h))

theorem unsignedByte_eq (byte : UInt8) : Device.unsignedByte byte = byte.toNat :=
  toNat_signExtend_and_mask byte.toBitVec (by decide : 8 ≤ 32)

theorem toNat_getShort (bytes : List UInt8) (i : Nat) :
    (getShort bytes i).toNat = uint16At bytes i := by
  have hlt := (byteAt bytes i).toNat_lt
  rw [getShort, BitVec.toNat_append, UInt8.toNat_toBitVec, UInt8.toNat_toBitVec, Nat.shiftLeft_eq,
    Nat.mul_comm, ← Nat.two_pow_add_eq_or_of_lt hlt, uint16At]
  omega

theorem unsignedShort_getShort (bytes : List UInt8) (i : Nat) :
    Device.unsignedShort (getShort bytes i) = uint16At bytes i :=
  (toNat_signExtend_and_mask (getShort bytes i) (by decide : 16 ≤ 32)).trans
    (toNat_getShort bytes i)

theorem unsignedInt_getInt (bytes : List UInt8) (i : Nat) :
    Device.unsignedInt (getInt bytes i) = uint32At bytes i := by
  refine (toNat_signExtend_and_mask (getInt bytes i) (by decide : 32 ≤ 64)).trans ?_
  have hlt := (getShort bytes i).isLt
  rw [getInt, BitVec.toNat_append, Nat.shiftLeft_eq, Nat.mul_comm,
    ← Nat.two_pow_add_eq_or_of_lt hlt, toNat_getShort, toNat_getShort, uint32At]
  omega

theorem byteAt_drop (file : List UInt8) (start i : Nat) :
    byteAt (file.drop start) i = byteAt file (start + i) := by
  rw [byteAt, byteAt, List.getD_eq_getElem?_getD, List.getD_eq_getElem?_getD, List.getElem?_drop]

theorem uint16At_drop (file : List UInt8) (start i : Nat) :
    uint16At (file.drop start) i = uint16At file (start + i) := by
  rw [uint16At, uint16At, byteAt_drop, byteAt_drop, Nat.add_assoc]

theorem uint32At_drop (file : List UInt8) (start i : Nat) :
    uint32At (file.drop start) i = uint32At file (start + i) := by
  rw [uint32At, uint32At, uint16At_drop, uint16At_drop, Nat.add_assoc]

theorem uint16At_lt (bytes : List UInt8) (i : Nat) : uint16At bytes i < 65536 := by
  have hlow := (byteAt bytes i).toNat_lt
  have hhigh := (byteAt bytes (i + 1)).toNat_lt
  rw [uint16At]
  omega

/-- The signature, byte by byte. -/
theorem take_four_eq_signature_iff {bytes : List UInt8} {i : Nat} (h : i + 4 ≤ bytes.length) :
    (bytes.drop i).take 4 = eocdSignature ↔ byteAt bytes i = 0x50 ∧ byteAt bytes (i + 1) = 0x4b ∧
      byteAt bytes (i + 2) = 0x05 ∧ byteAt bytes (i + 3) = 0x06 := by
  obtain ⟨a, b, c, d, rest, hrest⟩ : ∃ a b c d rest, bytes.drop i = a :: b :: c :: d :: rest := by
    have hlength : 4 ≤ (bytes.drop i).length := by
      rw [List.length_drop]
      omega
    match hdrop : bytes.drop i, hlength with
    | a :: b :: c :: d :: rest, _ => exact ⟨a, b, c, d, rest, rfl⟩
  have hbyte : ∀ j, byteAt bytes (i + j) = byteAt (a :: b :: c :: d :: rest) j := by
    intro j
    rw [← hrest, byteAt_drop]
  rw [hrest, show i = i + 0 from rfl, Nat.add_assoc, Nat.add_assoc, Nat.add_assoc, hbyte, hbyte,
    hbyte, hbyte]
  simp [eocdSignature, byteAt]

/-! ### The record -/

/-- There is a record at this position whose comment ends at the end of the file. -/
def IsEocd (file : List UInt8) (i : Nat) : Prop :=
  i + eocdMinSize ≤ file.length ∧ (file.drop i).take 4 = eocdSignature ∧
    i + eocdMinSize + uint16At file (i + 20) = file.length

/-- The last of these records. -/
def LastEocd (file : List UInt8) (i : Nat) : Prop := IsEocd file i ∧ ∀ j, IsEocd file j → j ≤ i

theorem LastEocd.unique {file : List UInt8} {i j : Nat} (hi : LastEocd file i)
    (hj : LastEocd file j) : i = j :=
  Nat.le_antisymm (hj.2 i hi.1) (hi.2 j hj.1)

theorem scanDown_eq_some {test : Nat → Bool} {n i : Nat} (h : scanDown test n = some i) :
    i ≤ n ∧ test i ∧ ∀ j, i < j → j ≤ n → test j = false := by
  induction n with
  | zero =>
    rw [scanDown] at h
    split at h
    · rename_i htest
      cases h
      exact ⟨le_rfl, htest, fun j hj hle => by omega⟩
    · exact absurd h (by simp)
  | succ n ih =>
    rw [scanDown] at h
    split at h
    · rename_i htest
      cases h
      exact ⟨le_rfl, htest, fun j hj hle => by omega⟩
    · rename_i htest
      obtain ⟨hle, hi, hrest⟩ := ih h
      refine ⟨Nat.le_succ_of_le hle, hi, fun j hj hjle => ?_⟩
      rcases Nat.lt_or_eq_of_le hjle with hlt | rfl
      · exact hrest j hj (Nat.lt_succ_iff.mp hlt)
      · simpa using htest

theorem scanDown_eq_none {test : Nat → Bool} {n : Nat} (h : scanDown test n = none) :
    ∀ j, j ≤ n → test j = false := by
  induction n with
  | zero =>
    rw [scanDown] at h
    intro j hj
    obtain rfl : j = 0 := by omega
    simpa using h
  | succ n ih =>
    rw [scanDown] at h
    split at h
    · exact absurd h (by simp)
    · rename_i htest
      intro j hj
      rcases Nat.lt_or_eq_of_le hj with hlt | rfl
      · exact ih h j (Nat.lt_succ_iff.mp hlt)
      · simpa using htest

/-- Where the searched part starts. -/
def tailStart (file : List UInt8) : Nat := (tailOf file).1

theorem tailOf_eq (file : List UInt8) :
    tailOf file = (tailStart file, file.drop (tailStart file)) := by
  have hstart : tailStart file = file.length - min file.length (eocdMinSize + maxEocdComment) := rfl
  rw [tailOf, hstart]
  simp only [Prod.mk.injEq, true_and]
  refine List.take_of_length_le ?_
  rw [List.length_drop]
  omega

/-- A record with a comment lies in the searched part. -/
theorem tailStart_le {file : List UInt8} {i : Nat} (h : IsEocd file i) : tailStart file ≤ i := by
  have hstart : tailStart file = file.length - min file.length (eocdMinSize + maxEocdComment) := rfl
  have hcomment := uint16At_lt file (i + 20)
  obtain ⟨hle, -, hend⟩ := h
  rw [hstart]
  simp only [eocdMinSize, maxEocdComment] at *
  omega

/-- **The scan.** Whatever the test is, when it accepts the records it finds the last one. -/
theorem scanTail_spec (file : List UInt8) {test : Nat → Bool}
    (htest : ∀ i, tailStart file + i + eocdMinSize ≤ file.length →
      (test i ↔ IsEocd file (tailStart file + i))) :
    (scanTail test (file.drop (tailStart file)) = none ∧ ∀ i, ¬ IsEocd file i) ∨
    ∃ i, scanTail test (file.drop (tailStart file)) = some i ∧
      LastEocd file (tailStart file + i) := by
  have hbound : ∀ i, IsEocd file i → ∃ j, i = tailStart file + j ∧
      j ≤ (file.drop (tailStart file)).length - eocdMinSize := by
    intro i hi
    have hstart := tailStart_le hi
    have hle := hi.1
    refine ⟨i - tailStart file, by omega, ?_⟩
    rw [List.length_drop]
    omega
  rw [scanTail]
  split
  · rename_i hshort
    refine .inl ⟨rfl, fun i hi => ?_⟩
    have hstart := tailStart_le hi
    have hle := hi.1
    rw [List.length_drop] at hshort
    omega
  · rename_i hlong
    rw [List.length_drop] at hlong hbound ⊢
    rcases hscan : scanDown test (file.length - tailStart file - eocdMinSize) with _ | i
    · refine .inl ⟨rfl, fun i hi => ?_⟩
      obtain ⟨j, rfl, hj⟩ := hbound i hi
      have hnot := scanDown_eq_none hscan j hj
      rw [(htest j hi.1).mpr hi] at hnot
      exact absurd hnot (by simp)
    · obtain ⟨hle, hi, hrest⟩ := scanDown_eq_some hscan
      have hstart : tailStart file ≤ file.length := Nat.sub_le _ _
      have hiff := htest i (by omega)
      refine .inr ⟨i, rfl, hiff.mp hi, fun k hk => ?_⟩
      obtain ⟨j, rfl, hj⟩ := hbound k hk
      by_contra hlt
      have hnot := hrest j (by omega) hj
      rw [(htest j hk.1).mpr hk] at hnot
      exact absurd hnot (by simp)

/-! ### What is hashed -/

theorem Server.hashLoop_eq {fuel : Nat} {rest : List UInt8} (h : rest.length < fuel) :
    Server.hashLoop fuel rest = rest := by
  induction fuel generalizing rest with
  | zero => omega
  | succ fuel ih =>
    rw [Server.hashLoop]
    split
    · rename_i hempty
      rw [List.take_eq_nil_iff] at hempty
      exact (hempty.resolve_left (by decide)).symm
    · rename_i hmore
      have hne : rest ≠ [] := by
        rintro rfl
        exact hmore rfl
      have hpos := List.length_pos_of_ne_nil hne
      have hchunk : 0 < Server.chunk := by decide
      rw [ih (by rw [List.length_drop]; omega), List.take_append_drop]

theorem Browser.hashLoop_eq {file : List UInt8} {fuel pos : Nat} (h : file.length < fuel + pos) :
    Browser.hashLoop file file.length fuel pos = file.drop pos := by
  induction fuel generalizing pos with
  | zero =>
    rw [Browser.hashLoop, List.drop_eq_nil_of_le (by omega)]
  | succ fuel ih =>
    have hchunk : 0 < Browser.hashChunk := by decide
    rw [Browser.hashLoop]
    split
    · rename_i hlt
      rw [ih (by omega)]
      rcases Nat.le_total (pos + Browser.hashChunk) file.length with hle | hle
      · rw [Nat.min_eq_left hle, Nat.add_sub_cancel_left, ← List.drop_drop, List.take_append_drop]
      · rw [Nat.min_eq_right hle, List.drop_eq_nil_of_le hle, List.append_nil]
        exact List.take_of_length_le (by rw [List.length_drop])
    · rename_i hge
      rw [List.drop_eq_nil_of_le (by omega)]

theorem Device.hashLoop_eq (read : Device.PartialRead) {file : List UInt8} {fuel pos : Nat}
    (h : file.length < fuel + pos) :
    Device.hashLoop read file fuel pos (file.length - pos) = file.drop pos := by
  induction fuel generalizing pos with
  | zero =>
    rw [Device.hashLoop, List.drop_eq_nil_of_le (by omega)]
  | succ fuel ih =>
    rw [Device.hashLoop]
    split
    · rename_i hlt
      have hremaining : ((file.length : Int) - pos).toNat = file.length - pos := by omega
      rw [hremaining]
      simp only
      have hlimit : 0 < min Device.bufferSize (file.length - pos) :=
        Nat.lt_min.mpr ⟨by decide, by omega⟩
      have hcount := read.pos pos _ hlimit
      have hcount' := read.le pos (min Device.bufferSize (file.length - pos))
      generalize read.count pos (min Device.bufferSize (file.length - pos)) = count at *
      have hn : min count (file.length - pos) = count := by omega
      rw [hn, if_neg (by omega)]
      have hrest :
          (file.length : Int) - pos - count = file.length - ((pos + count : Nat) : Int) := by
        omega
      rw [hrest, ih (by omega), ← List.drop_drop, List.take_append_drop]
    · rename_i hge
      rw [List.drop_eq_nil_of_le (by omega)]

/-! ### The three functions -/

section Functions

variable (file : List UInt8)

/-- The position of the central directory that the record at `i` stores. -/
def cdOffsetAt (i : Nat) : Nat := uint32At file (i + 16)

/-- The size of the central directory that the record at `i` stores. -/
def cdSizeAt (i : Nat) : Nat := uint32At file (i + 12)

/-- The test of the browser accepts the records. -/
theorem browser_test_iff (i : Nat) (hi : tailStart file + i + eocdMinSize ≤ file.length) :
    (decide (byteAt (file.drop (tailStart file)) i = 0x50) &&
      decide (byteAt (file.drop (tailStart file)) (i + 1) = 0x4b) &&
      decide (byteAt (file.drop (tailStart file)) (i + 2) = 0x05) &&
      decide (byteAt (file.drop (tailStart file)) (i + 3) = 0x06) &&
      decide (tailStart file + i + eocdMinSize +
        uint16At (file.drop (tailStart file)) (i + 20) = file.length)) = true ↔
    IsEocd file (tailStart file + i) := by
  have hsignature := @take_four_eq_signature_iff file (tailStart file + i)
    (by rw [eocdMinSize] at hi; omega)
  simp only [Bool.and_eq_true, decide_eq_true_iff, byteAt_drop, uint16At_drop, IsEocd, hsignature,
    ← Nat.add_assoc, and_assoc]
  exact ⟨fun h => ⟨hi, h⟩, fun h => h.2⟩

theorem browser_findEocd_spec :
    (Browser.findEocd (file.drop (tailStart file)) file.length (tailStart file) = none ∧
      ∀ i, ¬ IsEocd file i) ∨
    ∃ i, Browser.findEocd (file.drop (tailStart file)) file.length (tailStart file) = some i ∧
      LastEocd file (tailStart file + i) :=
  scanTail_spec file fun i hi => browser_test_iff file i hi

/-- The device compares the same bytes. -/
theorem device_findEocd_eq (tail : List UInt8) (fileLen start : Nat) :
    Device.findEocd tail fileLen start = Browser.findEocd tail fileLen start := by
  have hbyte : ∀ (byte : UInt8) (n : Nat) (hn : n < 256),
      decide (Device.unsignedByte byte = n) = decide (byte = UInt8.ofNat n) := by
    intro byte n hn
    rw [unsignedByte_eq, decide_eq_decide, ← UInt8.toNat_inj, UInt8.toNat_ofNat',
      Nat.mod_eq_of_lt hn]
  rw [Device.findEocd, Browser.findEocd]
  congr 1
  funext i
  rw [hbyte _ _ (by decide), hbyte _ _ (by decide), hbyte _ _ (by decide), hbyte _ _ (by decide),
    unsignedShort_getShort]
  rfl

/-- The server compares four bytes at once. -/
theorem server_findEocd_spec :
    (Server.findEocd (file.drop (tailStart file)) file.length (tailStart file) = none ∧
      ∀ i, ¬ IsEocd file i) ∨
    ∃ i, Server.findEocd (file.drop (tailStart file)) file.length (tailStart file) =
        some (tailStart file + i) ∧ LastEocd file (tailStart file + i) := by
  have hscan := @scanTail_spec file (fun i =>
    ((file.drop (tailStart file)).drop i).take 4 = eocdSignature &&
      tailStart file + i + eocdMinSize + uint16At (file.drop (tailStart file)) (i + 20) =
        file.length) fun i hi => by
    simp only [Bool.and_eq_true, decide_eq_true_iff, List.drop_drop, uint16At_drop, IsEocd,
      ← Nat.add_assoc]
    exact ⟨fun h => ⟨hi, h⟩, fun h => h.2⟩
  rcases hscan with ⟨hnone, hno⟩ | ⟨i, hsome, hlast⟩
  · exact .inl ⟨by rw [Server.findEocd, hnone, Option.map_none], hno⟩
  · exact .inr ⟨i, by rw [Server.findEocd, hsome, Option.map_some], hlast⟩

/-- What the server computes. -/
theorem server_digest_spec :
    ((∃ error, Server.apkCdDigest file = .error error) ∧ ∀ i, ¬ IsEocd file i) ∨
    ∃ i, LastEocd file i ∧ Server.apkCdDigest file =
      if cdOffsetAt file i = zip64Sentinel then .error .zip64
      else .ok (file.length, file.drop (cdOffsetAt file i)) := by
  rw [Server.apkCdDigest, tailOf_eq]
  simp only
  rcases server_findEocd_spec file with ⟨hnone, hno⟩ | ⟨i, hsome, hlast⟩
  · rw [hnone]
    exact .inl ⟨⟨_, rfl⟩, hno⟩
  · refine .inr ⟨tailStart file + i, hlast, ?_⟩
    rw [hsome]
    simp only [Nat.add_sub_cancel_left, uint32At_drop]
    rw [Server.hashLoop_eq (by rw [List.length_drop]; omega), cdOffsetAt, Nat.add_assoc]

/-- What the browser computes. -/
theorem browser_digest_spec :
    ((∃ error, Browser.apkCdDigest file = .error error) ∧ ∀ i, ¬ IsEocd file i) ∨
    ∃ i, LastEocd file i ∧ Browser.apkCdDigest file =
      if cdOffsetAt file i = zip64Sentinel ∨ cdSizeAt file i = zip64Sentinel then .error .zip64
      else .ok (file.length, file.drop (cdOffsetAt file i)) := by
  rw [Browser.apkCdDigest, Browser.zipCentralDirectory, tailOf_eq]
  simp only
  rcases browser_findEocd_spec file with ⟨hnone, hno⟩ | ⟨i, hsome, hlast⟩
  · rw [hnone]
    exact .inl ⟨⟨_, rfl⟩, hno⟩
  · refine .inr ⟨tailStart file + i, hlast, ?_⟩
    rw [hsome]
    simp only [uint32At_drop, cdOffsetAt, cdSizeAt, Nat.add_assoc]
    split
    · rfl
    · simp only [bind, Except.bind, pure, Except.pure]
      rw [Browser.hashLoop_eq (by omega)]

/-- What the device computes. -/
theorem device_digest_spec (read : Device.PartialRead) :
    ((∃ error, Device.apkCentralDirectoryDigest read file = .error error) ∧
      ∀ i, ¬ IsEocd file i) ∨
    ∃ i, LastEocd file i ∧ Device.apkCentralDirectoryDigest read file =
      if cdOffsetAt file i = zip64Sentinel then .error .zip64
      else .ok (file.drop (cdOffsetAt file i)) := by
  rw [Device.apkCentralDirectoryDigest, tailOf_eq]
  simp only [device_findEocd_eq, unsignedInt_getInt]
  rcases browser_findEocd_spec file with ⟨hnone, hno⟩ | ⟨i, hsome, hlast⟩
  · rw [hnone]
    exact .inl ⟨⟨_, rfl⟩, hno⟩
  · refine .inr ⟨tailStart file + i, hlast, ?_⟩
    rw [hsome]
    simp only [uint32At_drop, cdOffsetAt, Nat.add_assoc]
    rw [Device.hashLoop_eq read (by omega)]

/-- The three functions fail, or all hash the file from the position that the last record
stores. -/
def DigestsAgree (read : Device.PartialRead) : Prop :=
  ((∃ error, Server.apkCdDigest file = .error error) ∧
    (∃ error, Browser.apkCdDigest file = .error error) ∧
    ∃ error, Device.apkCentralDirectoryDigest read file = .error error) ∨
  ∃ i, LastEocd file i ∧
    Server.apkCdDigest file = .ok (file.length, file.drop (cdOffsetAt file i)) ∧
    Browser.apkCdDigest file = .ok (file.length, file.drop (cdOffsetAt file i)) ∧
    Device.apkCentralDirectoryDigest read file = .ok (file.drop (cdOffsetAt file i))

end Functions

/-- **The three digests agree, unless the size of the central directory is the sentinel.** For every
file, and however many bytes the device's reads return. -/
theorem digests_agree_iff (read : Device.PartialRead) (file : List UInt8) :
    DigestsAgree file read ↔
      ∀ i, LastEocd file i → cdOffsetAt file i = zip64Sentinel ∨
        cdSizeAt file i ≠ zip64Sentinel := by
  rcases server_digest_spec file with ⟨hserver, hno⟩ | ⟨i, hlast, hserver⟩
  · rcases browser_digest_spec file with ⟨hbrowser, -⟩ | ⟨i, hlast, -⟩
    · rcases device_digest_spec file read with ⟨hdevice, -⟩ | ⟨i, hlast, -⟩
      · exact ⟨fun _ i hlast => absurd hlast.1 (hno i), fun _ => .inl ⟨hserver, hbrowser, hdevice⟩⟩
      · exact absurd hlast.1 (hno i)
    · exact absurd hlast.1 (hno i)
  · obtain ⟨-, hno⟩ | ⟨j, hlast', hbrowser⟩ := browser_digest_spec file
    · exact absurd hlast.1 (hno i)
    obtain ⟨-, hno⟩ | ⟨k, hlast'', hdevice⟩ := device_digest_spec file read
    · exact absurd hlast.1 (hno i)
    obtain rfl := hlast.unique hlast'
    obtain rfl := hlast.unique hlast''
    have hall : (∀ j, LastEocd file j →
        cdOffsetAt file j = zip64Sentinel ∨ cdSizeAt file j ≠ zip64Sentinel) ↔
        (cdOffsetAt file i = zip64Sentinel ∨ cdSizeAt file i ≠ zip64Sentinel) :=
      ⟨fun h => h i hlast, fun h j hj => hlast.unique hj ▸ h⟩
    rw [hall]
    by_cases hoffset : cdOffsetAt file i = zip64Sentinel
    · rw [if_pos hoffset] at hserver hdevice
      rw [if_pos (.inl hoffset)] at hbrowser
      exact ⟨fun _ => .inl hoffset, fun _ => .inl ⟨⟨_, hserver⟩, ⟨_, hbrowser⟩, ⟨_, hdevice⟩⟩⟩
    · rw [if_neg hoffset] at hserver hdevice
      constructor
      · rintro (⟨⟨error, herror⟩, -⟩ | ⟨j, hj, -, hok, -⟩)
        · rw [hserver] at herror
          exact absurd herror (by simp)
        · refine .inr fun hsize => ?_
          rw [hbrowser, if_pos (.inr hsize)] at hok
          exact absurd hok (by simp)
      · rintro (h | hsize)
        · exact absurd h hoffset
        · rw [if_neg (by rintro (h | h) <;> contradiction)] at hbrowser
          exact .inr ⟨i, hlast, hserver, hbrowser, hdevice⟩

/-- A file that is one record: the size of the central directory is the sentinel, its offset 0. -/
private def sentinelSize : List UInt8 :=
  [0x50, 0x4b, 0x05, 0x06, 0, 0, 0, 0, 0, 0, 0, 0, 0xff, 0xff, 0xff, 0xff, 0, 0, 0, 0, 0, 0]

/-- A device whose reads return what they are asked for. -/
private def fullRead : Device.PartialRead :=
  ⟨fun _ limit => limit, fun _ _ h => h, fun _ _ => le_rfl⟩

/-- The server hashes this file and the browser refuses it. -/
theorem sentinel_size_disagrees :
    ¬ ∀ (read : Device.PartialRead) (file : List UInt8), DigestsAgree file read := by
  intro h
  have hserver : (Server.apkCdDigest sentinelSize).toOption.isSome := by decide +kernel
  have hbrowser : Browser.apkCdDigest sentinelSize = .error .zip64 := by decide +kernel
  rcases h fullRead sentinelSize with ⟨⟨error, herror⟩, -⟩ | ⟨i, -, -, hok, -⟩
  · rw [herror] at hserver
    exact absurd hserver (by simp [Except.toOption])
  · rw [hbrowser] at hok
    exact absurd hok (by simp)

end StylyMdm.Files
