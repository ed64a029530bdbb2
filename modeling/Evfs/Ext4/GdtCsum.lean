import Evfs.Ext4.Descriptor

namespace Evfs
namespace Ext4

/-!
# A volume with descriptor checksums

One concrete `Ext4Code`: the old on-disk format, in which the `gdt_csum`
feature puts a CRC-16 over the identifier of the volume, the group number and
the descriptor into every descriptor, and block bitmaps have no checksum.
It shows that the laws of `Ext4Code.Lawful` have a common model, and it is the
code at which the results of the development are instantiated.
-/

namespace GdtCsum

/-- One byte of the reflected CRC-16 with polynomial `0xA001`. -/
def crc16Byte (crc : UInt16) (byte : UInt8) : UInt16 :=
  (List.range 8).foldl
    (fun value _ => if value &&& 1 = 1 then (value >>> 1) ^^^ 0xA001 else value >>> 1)
    (crc ^^^ byte.toUInt16)

def crc16 (crc : UInt16) (bytes : List UInt8) : UInt16 := bytes.foldl crc16Byte crc

def le16 (value : UInt16) : List UInt8 := [value.toUInt8, (value >>> 8).toUInt8]

def le32 (value : UInt32) : List UInt8 :=
  le16 value.toUInt16 ++ le16 (value >>> 16).toUInt16

/-- The bytes of a descriptor before its checksum field. -/
def leadingBytes (desc : GroupDesc) : List UInt8 :=
  le32 desc.blockBitmapLo ++ le32 desc.inodeBitmapLo ++ le32 desc.inodeTableLo ++
    le16 desc.freeBlocksCountLo ++ le16 desc.freeInodesCountLo ++ le16 desc.usedDirsCountLo ++
    le16 desc.flags ++ le32 desc.excludeBitmapLo ++ le16 desc.blockBitmapCsumLo ++
    le16 desc.inodeBitmapCsumLo ++ le16 desc.itableUnusedLo

/-- The bytes of a 64-byte descriptor after its checksum field. -/
def trailingBytes (desc : GroupDesc) : List UInt8 :=
  le32 desc.blockBitmapHi ++ le32 desc.inodeBitmapHi ++ le32 desc.inodeTableHi ++
    le16 desc.freeBlocksCountHi ++ le16 desc.freeInodesCountHi ++ le16 desc.usedDirsCountHi ++
    le16 desc.itableUnusedHi ++ le32 desc.excludeBitmapHi ++ le16 desc.blockBitmapCsumHi ++
    le16 desc.inodeBitmapCsumHi ++ le32 desc.reserved

variable (geo : Geometry) (uuid : List UInt8)

def descCsum (group : Nat) (desc : GroupDesc) : UInt16 :=
  let leading := crc16 (crc16 (crc16 0xFFFF uuid) (le32 (UInt32.ofNat group))) (leadingBytes desc)
  if minDescSize64bit ≤ geo.descSize then crc16 leading (trailingBytes desc) else leading

/-- The low half alone, or both halves, according to the size of a descriptor. -/
def freeCount (desc : GroupDesc) : UInt32 :=
  if minDescSize64bit ≤ geo.descSize then
    UInt32.ofNat (desc.freeBlocksCountLo.toNat + 2 ^ 16 * desc.freeBlocksCountHi.toNat)
  else UInt32.ofNat desc.freeBlocksCountLo.toNat

def setFreeCount (desc : GroupDesc) (count : UInt32) : GroupDesc :=
  if minDescSize64bit ≤ geo.descSize then
    { desc with
      freeBlocksCountLo := UInt16.ofNat count.toNat
      freeBlocksCountHi := UInt16.ofNat (count.toNat / 2 ^ 16) }
  else { desc with freeBlocksCountLo := UInt16.ofNat count.toNat }

def code : Ext4Code where
  ext4GetGroupNoAndOffset := geo.groupNoAndOffset
  ext4FreeGroupClusters := freeCount geo
  ext4FreeGroupClustersSet := setFreeCount geo
  ext4BlockBitmapCsumSet := fun desc _ => desc
  ext4BlockBitmapCsumVerify := fun _ _ => true
  ext4GroupDescCsumSet := fun group desc =>
    { desc with checksum := descCsum geo uuid group desc }
  ext4GroupDescCsumVerify := fun group desc =>
    desc.checksum == descCsum geo uuid group desc

theorem freeCount_lt (desc : GroupDesc) :
    (freeCount geo desc).toNat < 2 ^ geo.freeCountBits := by
  have low := desc.freeBlocksCountLo.toNat_lt
  unfold freeCount Geometry.freeCountBits
  split
  · exact (UInt32.ofNat _).toNat_lt
  · rw [UInt32.toNat_ofNat']
    omega

theorem freeCount_setFreeCount (desc : GroupDesc) (count : UInt32) :
    (freeCount geo (setFreeCount geo desc count)).toNat =
      count.toNat % 2 ^ geo.freeCountBits := by
  have width := count.toNat_lt
  unfold freeCount setFreeCount Geometry.freeCountBits
  by_cases wide : minDescSize64bit ≤ geo.descSize
  · simp only [if_pos wide, UInt32.toNat_ofNat', UInt16.toNat_ofNat']
    omega
  · simp only [if_neg wide, UInt32.toNat_ofNat', UInt16.toNat_ofNat']
    omega

theorem setFreeCount_freeCount (desc : GroupDesc) :
    setFreeCount geo desc (freeCount geo desc) = desc := by
  have low := desc.freeBlocksCountLo.toNat_lt
  have high := desc.freeBlocksCountHi.toNat_lt
  unfold setFreeCount freeCount
  by_cases wide : minDescSize64bit ≤ geo.descSize
  · simp only [if_pos wide, UInt32.toNat_ofNat']
    have lowHalf : UInt16.ofNat ((desc.freeBlocksCountLo.toNat +
        2 ^ 16 * desc.freeBlocksCountHi.toNat) % 2 ^ 32) = desc.freeBlocksCountLo := by
      apply UInt16.toNat_inj.mp
      rw [UInt16.toNat_ofNat']
      omega
    have highHalf : UInt16.ofNat ((desc.freeBlocksCountLo.toNat +
        2 ^ 16 * desc.freeBlocksCountHi.toNat) % 2 ^ 32 / 2 ^ 16) = desc.freeBlocksCountHi := by
      apply UInt16.toNat_inj.mp
      rw [UInt16.toNat_ofNat']
      omega
    rw [lowHalf, highHalf]
  · simp only [if_neg wide, UInt32.toNat_ofNat']
    have lowHalf : UInt16.ofNat (desc.freeBlocksCountLo.toNat % 2 ^ 32) =
        desc.freeBlocksCountLo := by
      apply UInt16.toNat_inj.mp
      rw [UInt16.toNat_ofNat']
      omega
    rw [lowHalf]

theorem setFreeCount_setFreeCount (desc : GroupDesc) (first second : UInt32) :
    setFreeCount geo (setFreeCount geo desc first) second = setFreeCount geo desc second := by
  unfold setFreeCount
  by_cases wide : minDescSize64bit ≤ geo.descSize
  · simp only [if_pos wide]
  · simp only [if_neg wide]

theorem others_setFreeCount (desc : GroupDesc) (count : UInt32) :
    (setFreeCount geo desc count).others = desc.others := by
  unfold setFreeCount
  split <;> rfl

/-- The checksum field is not among the bytes that the checksum covers. -/
theorem descCsum_setFreeCount (group : Nat) (desc : GroupDesc) (value : UInt16) (count : UInt32) :
    ({ setFreeCount geo { desc with checksum := value } count with
        checksum := descCsum geo uuid group
          (setFreeCount geo { desc with checksum := value } count) } : GroupDesc) =
      { setFreeCount geo desc count with
        checksum := descCsum geo uuid group (setFreeCount geo desc count) } := by
  unfold setFreeCount
  split <;> rfl

/-- Every law holds of this code, on every volume. -/
theorem lawful : (code geo uuid).Lawful geo where
  locate := fun _ => rfl
  free_lt := freeCount_lt geo
  free_set := freeCount_setFreeCount geo
  set_free := setFreeCount_freeCount geo
  set_set := setFreeCount_setFreeCount geo
  free_bitmapCsum := fun _ _ => rfl
  free_descCsum := fun _ _ => rfl
  bitmapCsum_bitmapCsum := fun _ _ _ => rfl
  bitmapCsum_set := fun _ _ _ => rfl
  bitmapVerify_bitmapCsum := fun _ _ => rfl
  bitmapCsum_of_verify := fun _ _ _ => rfl
  bitmapVerify_descCsum := fun _ _ _ => rfl
  descVerify_descCsum := fun group desc => beq_self_eq_true (descCsum geo uuid group desc)
  descCsum_of_verify := by
    intro group desc valid
    have same : desc.checksum = descCsum geo uuid group desc := beq_iff_eq.mp valid
    change ({ desc with checksum := descCsum geo uuid group desc } : GroupDesc) = desc
    rw [← same]
  descCsum_set := fun group desc count => descCsum_setFreeCount geo uuid group desc _ count
  descCsum_bitmapCsum := fun _ _ _ => rfl
  others_set := others_setFreeCount geo
  others_bitmapCsum := fun _ _ => rfl
  others_descCsum := fun _ _ => rfl

/-- A descriptor whose stored checksum is off by one. -/
def staleDesc (desc : GroupDesc) : GroupDesc := { desc with checksum := desc.checksum + 1 }

theorem freeCount_staleDesc (desc : GroupDesc) :
    (code geo uuid).ext4FreeGroupClusters (staleDesc desc) =
      (code geo uuid).ext4FreeGroupClusters desc := rfl

theorem descVerify_staleDesc {group : Nat} {desc : GroupDesc}
    (valid : (code geo uuid).ext4GroupDescCsumVerify group desc = true) :
    (code geo uuid).ext4GroupDescCsumVerify group (staleDesc desc) = false := by
  have stored : desc.checksum = descCsum geo uuid group desc := beq_iff_eq.mp valid
  apply beq_eq_false_iff_ne.mpr
  change desc.checksum + 1 ≠ descCsum geo uuid group desc
  rw [← stored]
  intro same
  have values := congrArg UInt16.toNat same
  have width := desc.checksum.toNat_lt
  rw [UInt16.toNat_add, show (1 : UInt16).toNat = 1 from rfl] at values
  omega

/-- A volume of 40000 blocks of 4 KiB with 64-byte descriptors.  Its second
group has 7232 blocks, so 25536 bits of that group's bitmap are padding. -/
def volume : Geometry where
  firstDataBlock := 0
  blocksCount := 40000
  blocksPerGroup := 32768
  clustersPerGroup := 32768
  clusterBits := 0
  groupsCount := 2
  descSize := 64
  descPerBlock := 64
  logGroupsPerFlex := 4
  first_lt := by decide
  blocks_lt := by decide
  clusters_pos := by decide
  blocks_eq := by decide
  groups_eq := by decide
  groups_lt := by decide
  desc_pos := by decide

/-- The code of that volume, whose identifier is empty. -/
def volumeCode : Ext4Code := code volume []

theorem volumeCode_lawful : volumeCode.Lawful volume := lawful volume []

theorem volume_countsFit : volume.CountsFit := by decide

end GdtCsum

end Ext4
end Evfs
