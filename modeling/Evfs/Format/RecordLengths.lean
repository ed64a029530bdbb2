import Evfs.Ext4.DiskFields

namespace Evfs
namespace Format

open Ext4

/-!
# Record lengths of directory entries

The length of a directory entry is stored in 16 bits, although a block may have up
to 2^18 bytes.  Kernels with large pages use the two low bits, which are zero in
every length, for the two bits above the sixteenth.  The values 0 and 65535 stand
for the whole block.

The values that stand for the whole block are taken from lengths that would
otherwise have them.  Two lengths are lost in this way, and both are read as the
whole block.  Neither is the length of an entry with a name.
-/

/-! ## The stored word -/

theorem and_65532 (word : Nat) : word &&& 65532 = word / 4 % 2 ^ 14 * 4 := by
  apply Nat.eq_of_testBit_eq
  intro position
  rw [show 65532 = 2 ^ 2 * (2 ^ 14 - 1) from rfl, show (4 : Nat) = 2 ^ 2 from rfl,
    Nat.mul_comm _ (2 ^ 2), Nat.testBit_and, Nat.testBit_two_pow_mul, Nat.testBit_two_pow_mul,
    Nat.testBit_two_pow_sub_one, Nat.testBit_mod_two_pow, Nat.testBit_div_two_pow]
  by_cases above : 2 ≤ position
  · rw [Nat.sub_add_cancel above]
    simp [above, Bool.and_comm]
  · simp [above]

theorem and_3 (word : Nat) : word &&& 3 = word % 4 := by
  rw [show 3 = 2 ^ 2 - 1 from rfl, Nat.and_two_pow_sub_one_eq_mod]

/-- The stored word of a length beyond 16 bits that is not the whole block. -/
theorem packed (len : Nat) :
    (len &&& 65532) ||| ((len >>> 16) &&& 3) = len / 4 % 2 ^ 14 * 4 + len / 2 ^ 16 % 4 := by
  rw [and_65532, and_3, Nat.shiftRight_eq_div_pow, Nat.mul_comm _ 4]
  exact (@Nat.two_pow_add_eq_or_of_lt 2 _ (Nat.mod_lt _ (by decide)) _).symm

theorem unpacked (word : Nat) :
    (word &&& 65532) ||| ((word &&& 3) <<< 16) = word / 4 % 2 ^ 14 * 4 + word % 4 * 2 ^ 16 := by
  rw [and_65532, and_3, Nat.shiftLeft_eq, Nat.or_comm, Nat.mul_comm _ (2 ^ 16)]
  rw [← @Nat.two_pow_add_eq_or_of_lt 16 (word / 4 % 2 ^ 14 * 4) (by omega)]
  omega

/-! ## Large pages -/

theorem fromDisk_whole {word : UInt16} (blocksize : Nat)
    (whole : word.toNat = ext4MaxRecLen ∨ word.toNat = 0) :
    ext4RecLenFromDisk true word blocksize = blocksize := by
  simp only [ext4RecLenFromDisk, if_true]
  rw [if_pos whole]

theorem fromDisk_part {word : UInt16} (blocksize : Nat)
    (part : ¬ (word.toNat = ext4MaxRecLen ∨ word.toNat = 0)) :
    ext4RecLenFromDisk true word blocksize =
      word.toNat / 4 % 2 ^ 14 * 4 + word.toNat % 4 * 2 ^ 16 := by
  simp only [ext4RecLenFromDisk, if_true]
  rw [if_neg part, unpacked]

theorem toNat_toDisk_short {len : Nat} (blocksize : Nat) (short : len < 65536) :
    (ext4RecLenToDisk true len blocksize).toNat = len := by
  simp only [ext4RecLenToDisk, if_true]
  rw [if_pos short, UInt16.toNat_ofNat']
  exact Nat.mod_eq_of_lt short

theorem toDisk_block {blocksize : Nat} (long : ¬ blocksize < 65536) :
    (ext4RecLenToDisk true blocksize blocksize).toNat = ext4MaxRecLen ∨
      (ext4RecLenToDisk true blocksize blocksize).toNat = 0 := by
  simp only [ext4RecLenToDisk, if_true]
  rw [if_neg long]
  split
  · exact Or.inl rfl
  · exact Or.inr rfl

theorem toNat_toDisk_long {len blocksize : Nat} (long : ¬ len < 65536) (part : len ≠ blocksize) :
    (ext4RecLenToDisk true len blocksize).toNat = len / 4 % 2 ^ 14 * 4 + len / 2 ^ 16 % 4 := by
  simp only [ext4RecLenToDisk, if_true]
  rw [if_neg long, if_neg part, packed, UInt16.toNat_ofNat']
  omega

/-- The two upper bits come back from the place of the two lower ones. -/
theorem unpack_pack {len : Nat} (aligned : len % 4 = 0) (bound : len < 2 ^ 18) :
    let word := len / 4 % 2 ^ 14 * 4 + len / 2 ^ 16 % 4
    word / 4 % 2 ^ 14 * 4 + word % 4 * 2 ^ 16 = len := by
  intro word
  have upper : len / 2 ^ 16 = len / 4 / 2 ^ 14 := (Nat.div_div_eq_div_mul len 4 (2 ^ 14)).symm
  have lowPart : word / 4 = len / 4 % 2 ^ 14 := by omega
  have highPart : word % 4 = len / 4 / 2 ^ 14 := by omega
  rw [lowPart, highPart, Nat.mod_mod]
  have split := Nat.mod_add_div (len / 4) (2 ^ 14)
  omega

/-- The length whose stored word is the one for the whole block. -/
def shadowedLen : Nat := (1 <<< 18) - 4

/-- What becomes of a length that is stored and read again. -/
def readLen (largePages : Bool) (len blocksize : Nat) : Nat :=
  if largePages then if len = 0 ∨ len = shadowedLen then blocksize else len else len % 2 ^ 16

/-- The lengths that are read as they were written. -/
def Storable (largePages : Bool) (len blocksize : Nat) : Prop :=
  if largePages then (len = 0 -> blocksize = 0) ∧ (len = shadowedLen -> len = blocksize)
  else len < 65536

theorem readLen_eq_iff (largePages : Bool) (len blocksize : Nat) :
    readLen largePages len blocksize = len ↔ Storable largePages len blocksize := by
  cases largePages
  · simp only [readLen, Storable, Bool.false_eq_true, if_false]
    omega
  · simp only [readLen, Storable, if_true]
    split <;> omega

theorem allowed_iff (len blocksize : Nat) :
    RecLenAllowed len blocksize ↔ len ≤ blocksize ∧ blocksize ≤ 2 ^ 18 ∧ len % 4 = 0 := by
  unfold RecLenAllowed
  rw [and_3]
  omega

theorem large_read_back {len blocksize : Nat} (allowed : RecLenAllowed len blocksize) :
    ext4RecLenFromDisk true (ext4RecLenToDisk true len blocksize) blocksize =
      if len = 0 ∨ len = shadowedLen then blocksize else len := by
  obtain ⟨inBlock, blockBound, aligned⟩ := (allowed_iff len blocksize).mp allowed
  have shadowed : shadowedLen = 262140 := rfl
  have largest : ext4MaxRecLen = 65535 := rfl
  by_cases short : len < 65536
  · have stored := toNat_toDisk_short blocksize short
    by_cases zero : len = 0
    · rw [fromDisk_whole blocksize (Or.inr (stored.trans zero)), if_pos (Or.inl zero)]
    · rw [fromDisk_part blocksize (by omega), stored, if_neg (by omega)]
      omega
  · by_cases whole : len = blocksize
    · rw [whole, fromDisk_whole blocksize (toDisk_block (whole ▸ short)), ite_self]
    · have stored := toNat_toDisk_long short whole
      by_cases hidden : len = shadowedLen
      · rw [fromDisk_whole blocksize (Or.inl (by omega)), if_pos (Or.inr hidden)]
      · rw [fromDisk_part blocksize (by omega), stored, if_neg (by omega)]
        exact unpack_pack aligned (by omega)

theorem small_read_back (len blocksize : Nat) :
    ext4RecLenFromDisk false (ext4RecLenToDisk false len blocksize) blocksize = len % 2 ^ 16 := by
  simp only [ext4RecLenFromDisk, ext4RecLenToDisk, Bool.false_eq_true, if_false]
  exact UInt16.toNat_ofNat'

theorem fromDisk_toDisk (largePages : Bool) {len blocksize : Nat}
    (allowed : RecLenAllowed len blocksize) :
    ext4RecLenFromDisk largePages (ext4RecLenToDisk largePages len blocksize) blocksize =
      readLen largePages len blocksize := by
  cases largePages
  · exact small_read_back len blocksize
  · exact large_read_back allowed

/-- A length that may be stored is read back if and only if it is neither of the two that
stand for the whole block; kernels with small pages keep those below 2^16.  Two lengths of
one block are stored alike only if they are read alike. -/
theorem record_lengths_read_back (largePages : Bool) (len other blocksize : Nat)
    (allowed : RecLenAllowed len blocksize) (otherAllowed : RecLenAllowed other blocksize) :
    ext4RecLenFromDisk largePages (ext4RecLenToDisk largePages len blocksize) blocksize =
        readLen largePages len blocksize ∧
      (readLen largePages len blocksize = len ↔ Storable largePages len blocksize) ∧
      (Storable largePages len blocksize -> Storable largePages other blocksize -> len ≠ other ->
        ext4RecLenToDisk largePages len blocksize ≠
          ext4RecLenToDisk largePages other blocksize) := by
  refine ⟨fromDisk_toDisk largePages allowed, readLen_eq_iff largePages len blocksize, ?_⟩
  intro storable otherStorable different same
  apply different
  calc
    len = readLen largePages len blocksize := ((readLen_eq_iff _ _ _).mpr storable).symm
    _ = readLen largePages other blocksize := by
      rw [← fromDisk_toDisk largePages allowed, same, fromDisk_toDisk largePages otherAllowed]
    _ = other := (readLen_eq_iff _ _ _).mpr otherStorable

theorem record_lengths_read_back_sample :
    ext4RecLenFromDisk true (ext4RecLenToDisk true 262140 262144) 262144 =
        readLen true 262140 262144 ∧
      ext4RecLenToDisk true 131072 262144 ≠ ext4RecLenToDisk true 65536 262144 := by
  have allowed (len : Nat) (inBlock : len ≤ 262144) (aligned : len % 4 = 0) :
      RecLenAllowed len 262144 :=
    (allowed_iff len 262144).mpr ⟨inBlock, by decide, aligned⟩
  have shadowed := record_lengths_read_back true 262140 0 262144
    (allowed _ (by decide) (by decide)) (allowed _ (by decide) (by decide))
  have distinct := record_lengths_read_back true 131072 65536 262144
    (allowed _ (by decide) (by decide)) (allowed _ (by decide) (by decide))
  exact ⟨shadowed.1, distinct.2.2 ⟨by decide, by decide⟩ ⟨by decide, by decide⟩ (by decide)⟩

/-! ## Names -/

/-- The length of a name with the head of its entry. -/
def occupied (nameLen : UInt8) (hashInDirent : Bool) : Nat :=
  nameLen.toNat + 8 + if hashInDirent then 8 else 0

theorem dirRecLen_bounds (nameLen : UInt8) (hashInDirent : Bool) :
    occupied nameLen hashInDirent ≤ ext4DirRecLen nameLen hashInDirent ∧
      ext4DirRecLen nameLen hashInDirent < occupied nameLen hashInDirent + 4 ∧
      ext4DirRecLen nameLen hashInDirent % 4 = 0 := by
  simp only [ext4DirRecLen, occupied]
  rw [Nat.shiftRight_eq_div_pow, Nat.shiftLeft_eq]
  omega

/-- What is left of a block behind the entry of a name. -/
def restOfBlock (nameLen : UInt8) (hashInDirent : Bool) (blocksize : Nat) : Nat :=
  blocksize - ext4DirRecLen nameLen hashInDirent

theorem names_allowed (nameLen : UInt8) (hashInDirent : Bool) {blocksize : Nat}
    (atLeast : 1024 ≤ blocksize) (aligned : blocksize % 4 = 0) (atMost : blocksize ≤ 2 ^ 18)
    {len : Nat} (either : len = ext4DirRecLen nameLen hashInDirent ∨
      len = restOfBlock nameLen hashInDirent blocksize) :
    RecLenAllowed len blocksize ∧ 0 < len ∧ len < shadowedLen := by
  obtain ⟨room, least, multiple⟩ := dirRecLen_bounds nameLen hashInDirent
  have nameBound := nameLen.toNat_lt
  have headBound : 8 ≤ occupied nameLen hashInDirent ∧ occupied nameLen hashInDirent < 272 := by
    unfold occupied
    split <;> omega
  have shadowed : shadowedLen = 2 ^ 18 - 4 := rfl
  rw [allowed_iff]
  unfold restOfBlock at either
  rcases either with rfl | rfl <;> omega

/-- The entry of any name, in a block of any size that a volume may have, gets the least
aligned length with room for it.  That length may be stored, and so may what an entry
that takes the rest of the block gets; both are read back. -/
theorem names_recorded (largePages : Bool) (nameLen : UInt8) (hashInDirent : Bool)
    (blocksize : Nat) (atLeast : 1024 ≤ blocksize) (aligned : blocksize % 4 = 0)
    (atMost : blocksize ≤ if largePages then 2 ^ 18 else 2 ^ 15) :
    (occupied nameLen hashInDirent ≤ ext4DirRecLen nameLen hashInDirent ∧
      forall larger, occupied nameLen hashInDirent ≤ larger -> larger % 4 = 0 ->
        ext4DirRecLen nameLen hashInDirent ≤ larger) ∧
    forall len, (len = ext4DirRecLen nameLen hashInDirent ∨
        len = restOfBlock nameLen hashInDirent blocksize) ->
      RecLenAllowed len blocksize ∧
      ext4RecLenFromDisk largePages (ext4RecLenToDisk largePages len blocksize) blocksize =
        len := by
  have blockBound : blocksize ≤ 2 ^ 18 := by
    refine atMost.trans ?_
    split <;> decide
  obtain ⟨room, least, multiple⟩ := dirRecLen_bounds nameLen hashInDirent
  refine ⟨⟨room, fun larger holds multipleOf => by omega⟩, ?_⟩
  intro len either
  obtain ⟨allowed, positive, bound⟩ :=
    names_allowed nameLen hashInDirent atLeast aligned blockBound either
  refine ⟨allowed, ?_⟩
  rw [fromDisk_toDisk largePages allowed, readLen_eq_iff]
  have inBlock := ((allowed_iff _ _).mp allowed).1
  cases largePages
  · simp only [Storable, Bool.false_eq_true, if_false] at atMost ⊢
    omega
  · simp only [Storable, if_true]
    omega

theorem names_recorded_sample :
    ext4RecLenFromDisk true (ext4RecLenToDisk true (restOfBlock 255 true 131072) 131072) 131072 =
      restOfBlock 255 true 131072 :=
  ((names_recorded true 255 true 131072 (by decide) (by decide) (by decide)).2 _ (Or.inr rfl)).2

end Format
end Evfs
