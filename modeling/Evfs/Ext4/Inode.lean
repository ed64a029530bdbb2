import Evfs.Ext4.Superblock
import Evfs.Foundation.StoredFields

namespace Evfs
namespace Ext4

/-!
# Inodes in memory

`Inode` has the fields of `struct inode` and of `struct ext4_inode_info` that
the inode ioctls read or write.  A flag word has 32 bits.  The dynamic state
flags that a 64-bit kernel keeps above them are not part of it.

Code outside the repository that computes such fields is supplied as an
`InodeCode`: the checksum seed, the quota bookkeeping, the version counter and
the flags of the generic layer.
-/

/-- A word of inode flags. -/
abbrev FlagWord := BitVec 32

namespace FlagWord

def secrm : FlagWord := 0x00000001
def unrm : FlagWord := 0x00000002
def compr : FlagWord := 0x00000004
def sync : FlagWord := 0x00000008
def immutable : FlagWord := 0x00000010
def append : FlagWord := 0x00000020
def nodump : FlagWord := 0x00000040
def noatime : FlagWord := 0x00000080
def dirty : FlagWord := 0x00000100
def comprblk : FlagWord := 0x00000200
def nocompr : FlagWord := 0x00000400
def encrypt : FlagWord := 0x00000800
def index : FlagWord := 0x00001000
def journalData : FlagWord := 0x00004000
def notail : FlagWord := 0x00008000
def dirsync : FlagWord := 0x00010000
def topdir : FlagWord := 0x00020000
def hugeFile : FlagWord := 0x00040000
def extents : FlagWord := 0x00080000
def verity : FlagWord := 0x00100000
def eaInode : FlagWord := 0x00200000
/-- The bit that was `EXT4_EOFBLOCKS_FL`. -/
def eofblocks : FlagWord := 0x00400000
def dax : FlagWord := 0x02000000
def inlineData : FlagWord := 0x10000000
def projinherit : FlagWord := 0x20000000
def casefold : FlagWord := 0x40000000

/-- `EXT4_FL_USER_MODIFIABLE`. -/
def userModifiable : FlagWord :=
  secrm ||| unrm ||| compr ||| sync ||| immutable ||| append ||| nodump ||| noatime |||
    journalData ||| notail ||| dirsync ||| topdir ||| extents ||| eofblocks ||| dax |||
    projinherit ||| casefold

/-- `EXT4_FL_USER_VISIBLE`. -/
def userVisible : FlagWord :=
  userModifiable ||| dirty ||| comprblk ||| nocompr ||| encrypt ||| index ||| verity |||
    inlineData

/-- `EXT4_REG_FLMASK`. -/
def regFlmask : FlagWord := ~~~(dirsync ||| topdir ||| casefold ||| projinherit)

/-- `EXT4_OTHER_FLMASK`. -/
def otherFlmask : FlagWord := nodump ||| noatime

/-- `EXT4_FL_SHOULD_SWAP`. -/
def shouldSwap : FlagWord := hugeFile ||| extents

/-- `EXT4_DAX_MUT_EXCL`. -/
def daxMutExcl : FlagWord := verity ||| encrypt ||| journalData ||| inlineData

/-- The flag of one bit. -/
def ofBit (position : Nat) : FlagWord := 1#32 <<< position

/-- Some flag of the mask is set. -/
def Has (flags mask : FlagWord) : Prop := flags &&& mask ≠ 0

instance (flags mask : FlagWord) : Decidable (flags.Has mask) :=
  inferInstanceAs (Decidable (flags &&& mask ≠ 0))

end FlagWord

/-- `struct timespec64`. -/
structure Timespec where
  tvSec : Int
  tvNsec : Nat
deriving DecidableEq, Repr

/-- `i_data`, the root of the block map of an inode: fifteen 32-bit words. -/
structure IData where
  bytes : List UInt8
  length_bytes : bytes.length = 60
deriving DecidableEq, Repr

/-- An empty block map, all zero. -/
def IData.zero : IData := ⟨List.replicate 60 0, List.length_replicate⟩

/-- The flags of the generic layer, `i_flags` of `struct inode`. -/
structure VfsFlags where
  swapfile : Bool
  encrypted : Bool
  append : Bool
  immutable : Bool
  dax : Bool
deriving DecidableEq, Repr

def VfsFlags.none : VfsFlags := ⟨false, false, false, false, false⟩

inductive FileType where
  | regular
  | directory
  | other
deriving DecidableEq, Repr

/-- `struct inode` with its `struct ext4_inode_info`.  `flags` is `i_flags` of the
latter and `vfsFlags` that of the former.  `fileType` and `perm` are the two parts
of `i_mode`. -/
structure Inode where
  fileType : FileType
  perm : Nat
  nlink : Nat
  uid : Nat
  gid : Nat
  projid : Nat
  flags : FlagWord
  vfsFlags : VfsFlags
  version : UInt64
  generation : UInt32
  csumSeed : UInt32
  atime : Timespec
  mtime : Timespec
  ctime : Timespec
  data : IData
  size : Int
  disksize : Int
  blocks : Nat
  bytes : Nat
deriving DecidableEq, Repr

namespace Inode

/-- The bytes that an inode accounts for, in units of 512 and a rest. -/
def space (inode : Inode) : Nat := inode.blocks * 512 + inode.bytes

/-- The rest is less than a unit. -/
def Normal (inode : Inode) : Prop := inode.bytes < 512

theorem Normal.space_div {inode : Inode} (normal : inode.Normal) :
    inode.space / 512 = inode.blocks := by
  unfold Normal at normal
  unfold space
  omega

theorem Normal.space_mod {inode : Inode} (normal : inode.Normal) :
    inode.space % 512 = inode.bytes := by
  unfold Normal at normal
  unfold space
  omega

end Inode

/-- Functions on inodes that are not in the repository. -/
structure InodeCode where
  /-- `ext4_chksum` over one little-endian word. -/
  ext4Chksum : UInt32 -> UInt32 -> UInt32
  /-- `s_csum_seed`. -/
  sCsumSeed : UInt32
  inodeIncIversion : UInt64 -> UInt64
  /-- `ext4_ext_tree_init`, as it changes `i_data`. -/
  ext4ExtTreeInit : IData -> IData
  dquotFreeSpace : Nat -> Inode -> Inode
  /-- `dquot_alloc_space` where it does not fail. -/
  dquotAllocSpace : Nat -> Inode -> Inode
  /-- What `ext4_set_inode_flags` derives for the generic layer. -/
  ext4SetInodeFlags : Inode -> VfsFlags

/-- The quota functions move the space of the inode and nothing else. -/
structure InodeCode.Lawful (code : InodeCode) : Prop where
  freeSpace_eq : forall count inode, inode.Normal -> count ≤ inode.space ->
    code.dquotFreeSpace count inode =
      { inode with
        blocks := (inode.space - count) / 512
        bytes := (inode.space - count) % 512 }
  allocSpace_eq : forall count inode, inode.Normal ->
    code.dquotAllocSpace count inode =
      { inode with
        blocks := (inode.space + count) / 512
        bytes := (inode.space + count) % 512 }

/-! ## Exchanging block maps -/

/-- `memswap`, which stops after `len` bytes. -/
def memswap : List UInt8 -> List UInt8 -> Nat -> List UInt8 × List UInt8
  | a :: as, b :: bs, len + 1 =>
      let (restA, restB) := memswap as bs len
      (b :: restA, a :: restB)
  | as, bs, _ => (as, bs)

/-- Areas of the given length are exchanged as a whole. -/
theorem memswap_eq {as bs : List UInt8} {len : Nat} (lengthA : as.length = len)
    (lengthB : bs.length = len) : memswap as bs len = (bs, as) := by
  induction as generalizing bs len with
  | nil =>
      subst lengthA
      rw [List.length_eq_zero_iff.mp lengthB]
      rfl
  | cons a as inductionHypothesis =>
      cases bs with
      | nil =>
          rw [← lengthB] at lengthA
          cases lengthA
      | cons b bs =>
          subst lengthA
          rw [List.length_cons, memswap, inductionHypothesis rfl (Nat.succ.inj lengthB)]

/-! ## A sample file -/

/-- The header of an empty extent tree, over the first 12 bytes of the root. -/
def extTreeHeader (data : IData) : IData where
  bytes := [0x0A, 0xF3, 0, 0, 4, 0, 0, 0, 0, 0, 0, 0] ++ data.bytes.drop 12
  length_bytes := by
    rw [List.length_append, List.length_drop, data.length_bytes]
    rfl

/-- Inode functions with CRC-32C seeds and exact quotas. -/
def inodeCode : InodeCode where
  ext4Chksum := fun crc word =>
    [word, word >>> 8, word >>> 16, word >>> 24].foldl
      (fun crc shifted => Crc32c.crc32cByte crc shifted.toUInt8) crc
  sCsumSeed := 0x1234
  inodeIncIversion := fun version => version + 1
  ext4ExtTreeInit := extTreeHeader
  dquotFreeSpace := fun count inode =>
    { inode with blocks := (inode.space - count) / 512, bytes := (inode.space - count) % 512 }
  dquotAllocSpace := fun count inode =>
    { inode with blocks := (inode.space + count) / 512, bytes := (inode.space + count) % 512 }
  ext4SetInodeFlags := fun inode =>
    { inode.vfsFlags with
      append := decide (inode.flags.Has FlagWord.append)
      immutable := decide (inode.flags.Has FlagWord.immutable)
      encrypted := decide (inode.flags.Has FlagWord.encrypt) }

theorem inodeCode_lawful : inodeCode.Lawful where
  freeSpace_eq := fun _ _ _ _ => rfl
  allocSpace_eq := fun _ _ _ => rfl

/-- A regular file with the given number of 512-byte units. -/
def sampleFile (blocks : Nat) : Inode where
  fileType := .regular
  perm := 0o644
  nlink := 1
  uid := 0
  gid := 0
  projid := 0
  flags := FlagWord.extents
  vfsFlags := VfsFlags.none
  version := 1
  generation := 0
  csumSeed := 0
  atime := ⟨0, 0⟩
  mtime := ⟨0, 0⟩
  ctime := ⟨0, 0⟩
  data := IData.zero
  size := Int.ofNat (blocks * 512)
  disksize := Int.ofNat (blocks * 512)
  blocks := blocks
  bytes := 0

end Ext4
end Evfs
