import Evfs.Ext4.Inode

namespace Evfs
namespace Ext4

/-!
# Fields as they are stored

The inline functions and macros of `ext4.h` that turn values into little-endian
fields of inodes and directory entries, and back.  The order of the bytes within
a field is left out: a field is the number that `le32_to_cpu` or `le16_to_cpu`
makes of it.
-/

/-! ## Timestamps -/

/-- `EXT4_EPOCH_BITS`. -/
def epochBits : Nat := 2

/-- `EXT4_EPOCH_MASK`. -/
def epochMask : BitVec 32 := 3

/-- `EXT4_NSEC_MASK`, in the 32 bits that it is applied to. -/
def nsecMask : BitVec 32 := ~~~epochMask

/-- `ext4_encode_extra_time`. -/
def ext4EncodeExtraTime (ts : Timespec) : BitVec 32 :=
  let extra :=
    BitVec.ofInt 32 (Int.shiftRight (ts.tvSec - (BitVec.ofInt 32 ts.tvSec).toInt) 32) &&& epochMask
  extra ||| BitVec.ofNat 32 (ts.tvNsec <<< epochBits)

/-- `ext4_decode_extra_time`. -/
def ext4DecodeExtraTime (base extra : BitVec 32) : Timespec where
  tvSec :=
    if extra &&& epochMask ≠ 0 then base.toInt + Int.ofNat ((extra &&& epochMask).toNat <<< 32)
    else base.toInt
  tvNsec := ((extra &&& nsecMask) >>> epochBits).toNat

/-- The two fields of a timestamp in an inode. -/
structure RawXtime where
  xtime : BitVec 32
  extra : BitVec 32
deriving DecidableEq, Repr

/-- The four timestamps of an inode. -/
inductive Xtime where
  | atime
  | mtime
  | ctime
  | crtime
deriving DecidableEq, Repr

/-- `EXT4_GOOD_OLD_INODE_SIZE`. -/
def goodOldInodeSize : Nat := 128

/-- The offset of the field in `struct ext4_inode`. -/
def Xtime.offset : Xtime -> Nat
  | .atime => 0x08
  | .ctime => 0x0C
  | .mtime => 0x10
  | .crtime => 0x90

/-- The offset of the extra field. -/
def Xtime.extraOffset : Xtime -> Nat
  | .ctime => 0x84
  | .mtime => 0x88
  | .atime => 0x8C
  | .crtime => 0x94

/-- `EXT4_FITS_IN_INODE` for a field of four bytes. -/
def ext4FitsInInode (extraIsize offset : Nat) : Bool :=
  decide (offset + 4 ≤ goodOldInodeSize + extraIsize)

/-- `clamp_t` with the type `int32_t`, which converts its arguments before it compares
them, and the bounds `S32_MIN` and `S32_MAX`. -/
def clampS32 (seconds : Int) : Int :=
  max (-2147483648) (min (BitVec.ofInt 32 seconds).toInt 2147483647)

/-- `EXT4_INODE_SET_XTIME_VAL`. -/
def setXtimeVal (extraIsize : Nat) (field : Xtime) (ts : Timespec) (raw : RawXtime) : RawXtime :=
  if ext4FitsInInode extraIsize field.extraOffset then
    { xtime := BitVec.ofInt 32 ts.tvSec, extra := ext4EncodeExtraTime ts }
  else { raw with xtime := BitVec.ofInt 32 (clampS32 ts.tvSec) }

/-- `EXT4_INODE_GET_XTIME_VAL`. -/
def getXtimeVal (extraIsize : Nat) (field : Xtime) (raw : RawXtime) : Timespec :=
  if ext4FitsInInode extraIsize field.extraOffset then ext4DecodeExtraTime raw.xtime raw.extra
  else ⟨raw.xtime.toInt, 0⟩

/-- `EXT4_INODE_SET_ATIME` and its likes, and `EXT4_EINODE_SET_XTIME` for the creation
time, whose own field may not fit. -/
def setXtime (extraIsize : Nat) (field : Xtime) (ts : Timespec) (raw : RawXtime) : RawXtime :=
  if field = .crtime ∧ ext4FitsInInode extraIsize field.offset = false then raw
  else setXtimeVal extraIsize field ts raw

/-- `EXT4_INODE_GET_ATIME` and its likes, and `EXT4_EINODE_GET_XTIME`. -/
def getXtime (extraIsize : Nat) (field : Xtime) (raw : RawXtime) : Timespec :=
  if field = .crtime ∧ ext4FitsInInode extraIsize field.offset = false then ⟨0, 0⟩
  else getXtimeVal extraIsize field raw

/-! ## Record lengths -/

/-- `EXT4_MAX_REC_LEN`. -/
def ext4MaxRecLen : Nat := 65535

/-- `ext4_rec_len_from_disk`, where pages have 64 KiB or more, and where they have less. -/
def ext4RecLenFromDisk (largePages : Bool) (dlen : UInt16) (blocksize : Nat) : Nat :=
  let len := dlen.toNat
  if largePages then
    if len = ext4MaxRecLen ∨ len = 0 then blocksize else (len &&& 65532) ||| ((len &&& 3) <<< 16)
  else len

/-- The arguments at which `ext4_rec_len_to_disk` does not stop in its `BUG_ON`. -/
def RecLenAllowed (len blocksize : Nat) : Prop :=
  ¬ (blocksize < len ∨ 1 <<< 18 < blocksize ∨ len &&& 3 ≠ 0)

/-- `ext4_rec_len_to_disk` past its `BUG_ON`. -/
def ext4RecLenToDisk (largePages : Bool) (len blocksize : Nat) : UInt16 :=
  if largePages then
    if len < 65536 then UInt16.ofNat len
    else if len = blocksize then
      if blocksize = 65536 then UInt16.ofNat ext4MaxRecLen else 0
    else UInt16.ofNat ((len &&& 65532) ||| ((len >>> 16) &&& 3))
  else UInt16.ofNat len

/-- `ext4_dir_rec_len` of a name.  The directory is given by whether its entries hold
hashes, as `ext4_hash_in_dirent` decides, and `~EXT4_DIR_ROUND` clears two bits. -/
def ext4DirRecLen (nameLen : UInt8) (hashInDirent : Bool) : Nat :=
  let recLen := nameLen.toNat + 8 + 3 + if hashInDirent then 8 else 0
  recLen >>> 2 <<< 2

end Ext4
end Evfs
