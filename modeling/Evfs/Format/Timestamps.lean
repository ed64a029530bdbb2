import Evfs.Ext4.DiskFields

namespace Evfs
namespace Format

open Ext4 Foundation

/-!
# Timestamps on the disk

A timestamp is stored as 32 bits of seconds and, where the inode has room, 30 bits
of nanoseconds beside a two-bit epoch.  The seconds are signed, so the epoch counts
from the year 1901 and not from 1970, and the stored form covers 2^34 seconds.

Each of the four timestamps is a field with limited room, whatever the room of the
inode is.  A timestamp outside of the range is not refused and not clamped.  It
comes back wrapped round, also in an inode without room for the extra field, where
the clamp compares values that have already been converted to 32 bits.
-/

/-! ## The stored words as numbers -/

/-- Seconds modulo a power of two, counted from the least that 32 bits can express. -/
def wrapSeconds (bits : Nat) (seconds : Int) : Int := (seconds + 2 ^ 31) % 2 ^ bits - 2 ^ 31

theorem wrapSeconds_32 (seconds : Int) :
    wrapSeconds 32 seconds = (BitVec.ofInt 32 seconds).toInt := by
  rw [BitVec.toInt_ofInt, Int.bmod_def]
  unfold wrapSeconds
  split <;> omega

theorem wrapSeconds_toInt (word : BitVec 32) : wrapSeconds 32 word.toInt = word.toInt := by
  rw [wrapSeconds_32, BitVec.ofInt_toInt]

/-- The clamp never acts. -/
theorem clampS32_eq (seconds : Int) : clampS32 seconds = wrapSeconds 32 seconds := by
  have lower := BitVec.le_toInt (BitVec.ofInt 32 seconds)
  have upper := @BitVec.toInt_lt 32 (BitVec.ofInt 32 seconds)
  rw [wrapSeconds_32]
  unfold clampS32
  omega

theorem ofInt_wrapSeconds (seconds : Int) :
    BitVec.ofInt 32 (wrapSeconds 32 seconds) = BitVec.ofInt 32 seconds := by
  rw [wrapSeconds_32, BitVec.ofInt_toInt]

/-- The number of times that the seconds wrap round 32 bits, modulo four. -/
def epoch (seconds : Int) : Nat := ((seconds + 2 ^ 31) / 2 ^ 32 % 4).toNat

theorem shiftRight_eq (value : Int) : Int.shiftRight value 32 = value / 4294967296 :=
  Int.shiftRight_eq_div_pow value 32

theorem encode_epoch (seconds : Int) :
    (BitVec.ofInt 32 (Int.shiftRight (seconds - (BitVec.ofInt 32 seconds).toInt) 32) &&&
      epochMask).toNat = epoch seconds := by
  rw [← wrapSeconds_32, shiftRight_eq, BitVec.toNat_and, BitVec.toNat_ofInt]
  rw [show epochMask.toNat = 2 ^ 2 - 1 from rfl, Nat.and_two_pow_sub_one_eq_mod]
  unfold wrapSeconds epoch
  omega

/-- The extra field as a number: the nanoseconds above the epoch. -/
theorem toNat_encode (ts : Timespec) :
    (ext4EncodeExtraTime ts).toNat = ts.tvNsec % 2 ^ 30 * 4 + epoch ts.tvSec := by
  have small : epoch ts.tvSec < 2 ^ 2 := by
    unfold epoch
    omega
  have shifted : (BitVec.ofNat 32 (ts.tvNsec <<< epochBits)).toNat =
      2 ^ 2 * (ts.tvNsec % 2 ^ 30) := by
    rw [BitVec.toNat_ofNat, Nat.shiftLeft_eq]
    unfold epochBits
    omega
  unfold ext4EncodeExtraTime
  rw [BitVec.toNat_or, encode_epoch, shifted, Nat.or_comm, ← Nat.two_pow_add_eq_or_of_lt small]
  omega

theorem toNat_epochMask (extra : BitVec 32) : (extra &&& epochMask).toNat = extra.toNat % 4 := by
  rw [BitVec.toNat_and, show epochMask.toNat = 2 ^ 2 - 1 from rfl, Nat.and_two_pow_sub_one_eq_mod]

theorem shift_nsecMask (extra : BitVec 32) : (extra &&& nsecMask) >>> epochBits = extra >>> 2 := by
  ext position inside
  have outside : epochMask.getLsbD (2 + position) = false := by
    have high : ¬ 2 + position < 2 := by omega
    rw [show epochMask = BitVec.ofNat 32 (2 ^ 2 - 1) from rfl, BitVec.getLsbD_ofNat,
      Nat.testBit_two_pow_sub_one, decide_eq_false high, Bool.and_false]
  rw [BitVec.getElem_ushiftRight, BitVec.getElem_ushiftRight, BitVec.getLsbD_and]
  unfold nsecMask epochBits
  rw [BitVec.getLsbD_not, outside]
  by_cases within : 2 + position < 32
  · simp [within]
  · simp [BitVec.getLsbD_of_ge extra _ (Nat.le_of_not_lt within)]

theorem decode_eq (base extra : BitVec 32) :
    ext4DecodeExtraTime base extra =
      ⟨base.toInt + (extra.toNat % 4 : Nat) * 2 ^ 32, extra.toNat / 4⟩ := by
  have nanoseconds : ((extra &&& nsecMask) >>> epochBits).toNat = extra.toNat / 4 := by
    rw [shift_nsecMask, BitVec.toNat_ushiftRight, Nat.shiftRight_eq_div_pow]
  have seconds : (if extra &&& epochMask ≠ 0 then
      base.toInt + Int.ofNat ((extra &&& epochMask).toNat <<< 32) else base.toInt) =
      base.toInt + (extra.toNat % 4 : Nat) * 2 ^ 32 := by
    split
    · rw [toNat_epochMask, Nat.shiftLeft_eq, Int.ofNat_eq_natCast]
      push_cast
      rfl
    · rename_i none
      have zero : extra.toNat % 4 = 0 := by
        rw [← toNat_epochMask, not_not.mp none]
        rfl
      rw [zero]
      omega
  unfold ext4DecodeExtraTime
  rw [seconds, nanoseconds]

/-! ## The two words together -/

theorem decode_encode (ts : Timespec) :
    ext4DecodeExtraTime (BitVec.ofInt 32 ts.tvSec) (ext4EncodeExtraTime ts) =
      ⟨wrapSeconds 34 ts.tvSec, ts.tvNsec % 2 ^ 30⟩ := by
  have small : epoch ts.tvSec < 4 := by
    unfold epoch
    omega
  rw [decode_eq, toNat_encode, ← wrapSeconds_32]
  congr 1
  · rw [show (ts.tvNsec % 2 ^ 30 * 4 + epoch ts.tvSec) % 4 = epoch ts.tvSec by omega]
    unfold wrapSeconds epoch
    omega
  · omega

theorem encode_decode_base (base extra : BitVec 32) :
    BitVec.ofInt 32 (ext4DecodeExtraTime base extra).tvSec = base := by
  apply BitVec.eq_of_toInt_eq
  rw [decode_eq, ← wrapSeconds_32, ← wrapSeconds_toInt base]
  simp only [wrapSeconds]
  omega

theorem encode_decode_extra (base extra : BitVec 32) :
    ext4EncodeExtraTime (ext4DecodeExtraTime base extra) = extra := by
  have bound := extra.isLt
  apply BitVec.eq_of_toNat_eq
  rw [toNat_encode, decode_eq]
  dsimp only
  have count : epoch (base.toInt + (extra.toNat % 4 : Nat) * 2 ^ 32) = extra.toNat % 4 := by
    have lower := base.le_toInt
    have upper := @BitVec.toInt_lt 32 base
    unfold epoch
    omega
  rw [count]
  omega

/-! ## The field in an inode -/

/-- Whether the field itself is there: the first three timestamps are in every inode. -/
def Present (extraIsize : Nat) (field : Xtime) : Prop :=
  ¬ (field = .crtime ∧ ext4FitsInInode extraIsize field.offset = false)

instance (extraIsize : Nat) (field : Xtime) : Decidable (Present extraIsize field) :=
  inferInstanceAs (Decidable (¬ _))

/-- Whether the inode has room for the extra field. -/
def Roomy (extraIsize : Nat) (field : Xtime) : Prop :=
  ext4FitsInInode extraIsize field.extraOffset = true

instance (extraIsize : Nat) (field : Xtime) : Decidable (Roomy extraIsize field) :=
  inferInstanceAs (Decidable (_ = _))

theorem setXtime_absent {extraIsize : Nat} {field : Xtime} (absent : ¬ Present extraIsize field)
    (ts : Timespec) (raw : RawXtime) : setXtime extraIsize field ts raw = raw :=
  if_pos (not_not.mp absent)

theorem getXtime_absent {extraIsize : Nat} {field : Xtime} (absent : ¬ Present extraIsize field)
    (raw : RawXtime) : getXtime extraIsize field raw = ⟨0, 0⟩ :=
  if_pos (not_not.mp absent)

theorem setXtime_roomy {extraIsize : Nat} {field : Xtime} (present : Present extraIsize field)
    (roomy : Roomy extraIsize field) (ts : Timespec) (raw : RawXtime) :
    setXtime extraIsize field ts raw = ⟨BitVec.ofInt 32 ts.tvSec, ext4EncodeExtraTime ts⟩ :=
  (if_neg present).trans (if_pos roomy)

theorem getXtime_roomy {extraIsize : Nat} {field : Xtime} (present : Present extraIsize field)
    (roomy : Roomy extraIsize field) (raw : RawXtime) :
    getXtime extraIsize field raw = ext4DecodeExtraTime raw.xtime raw.extra :=
  (if_neg present).trans (if_pos roomy)

/-- Without room for the extra field it is neither written nor read: the bytes at its
place belong to the extended attributes. -/
theorem setXtime_cramped {extraIsize : Nat} {field : Xtime} (present : Present extraIsize field)
    (cramped : ¬ Roomy extraIsize field) (ts : Timespec) (raw : RawXtime) :
    setXtime extraIsize field ts raw = ⟨BitVec.ofInt 32 ts.tvSec, raw.extra⟩ := by
  rw [← ofInt_wrapSeconds, ← clampS32_eq]
  exact (if_neg present).trans (if_neg cramped)

theorem getXtime_cramped {extraIsize : Nat} {field : Xtime} (present : Present extraIsize field)
    (cramped : ¬ Roomy extraIsize field) (raw : RawXtime) :
    getXtime extraIsize field raw = ⟨raw.xtime.toInt, 0⟩ :=
  (if_neg present).trans (if_neg cramped)

/-- A timestamp of an inode is a field with limited room. -/
def xtimeField (extraIsize : Nat) (field : Xtime) : StoredField RawXtime Timespec where
  get := getXtime extraIsize field
  put := setXtime extraIsize field
  put_get := by
    intro raw
    by_cases present : Present extraIsize field
    · by_cases roomy : Roomy extraIsize field
      · rw [getXtime_roomy present roomy, setXtime_roomy present roomy, encode_decode_base,
          encode_decode_extra]
      · rw [getXtime_cramped present roomy, setXtime_cramped present roomy, BitVec.ofInt_toInt]
    · rw [setXtime_absent present]
  put_put := by
    intro later earlier raw
    by_cases present : Present extraIsize field
    · by_cases roomy : Roomy extraIsize field
      · rw [setXtime_roomy present roomy, setXtime_roomy present roomy]
      · rw [setXtime_cramped present roomy, setXtime_cramped present roomy,
          setXtime_cramped present roomy]
    · rw [setXtime_absent present earlier]

/-- What becomes of a timestamp that is written and read again. -/
def readBack (extraIsize : Nat) (field : Xtime) (ts : Timespec) : Timespec :=
  if ¬ Present extraIsize field then ⟨0, 0⟩
  else if Roomy extraIsize field then ⟨wrapSeconds 34 ts.tvSec, ts.tvNsec % 2 ^ 30⟩
  else ⟨wrapSeconds 32 ts.tvSec, 0⟩

theorem settle_xtimeField (extraIsize : Nat) (field : Xtime) (ts : Timespec) (raw : RawXtime) :
    (xtimeField extraIsize field).settle ts raw = readBack extraIsize field ts := by
  show getXtime extraIsize field (setXtime extraIsize field ts raw) = _
  unfold readBack
  by_cases present : Present extraIsize field
  · rw [if_neg (not_not.mpr present)]
    by_cases roomy : Roomy extraIsize field
    · rw [setXtime_roomy present roomy, getXtime_roomy present roomy, decode_encode, if_pos roomy]
    · rw [setXtime_cramped present roomy, getXtime_cramped present roomy, ← wrapSeconds_32,
        if_neg roomy]
  · rw [getXtime_absent present, if_pos present]

/-- The timestamps that the field can hold. -/
def Expressible (extraIsize : Nat) (field : Xtime) (ts : Timespec) : Prop :=
  if ¬ Present extraIsize field then ts = ⟨0, 0⟩
  else if Roomy extraIsize field then
    -2 ^ 31 ≤ ts.tvSec ∧ ts.tvSec < 2 ^ 34 - 2 ^ 31 ∧ ts.tvNsec < 2 ^ 30
  else -2 ^ 31 ≤ ts.tvSec ∧ ts.tvSec < 2 ^ 31 ∧ ts.tvNsec = 0

theorem readBack_eq_iff (extraIsize : Nat) (field : Xtime) (ts : Timespec) :
    readBack extraIsize field ts = ts ↔ Expressible extraIsize field ts := by
  obtain ⟨seconds, nanoseconds⟩ := ts
  unfold readBack Expressible
  split
  · exact eq_comm
  · split <;> simp only [Timespec.mk.injEq, wrapSeconds] <;> omega

/-- A timestamp that is written and read again comes back if and only if the inode can
hold it, whatever had been stored.  Any other comes back wrapped round, and the record is
then as if the wrapped timestamp had been written. -/
theorem timestamps_read_back (extraIsize : Nat) (field : Xtime) (ts : Timespec) (raw : RawXtime) :
    getXtime extraIsize field (setXtime extraIsize field ts raw) = readBack extraIsize field ts ∧
      setXtime extraIsize field (readBack extraIsize field ts) raw =
        setXtime extraIsize field ts raw ∧
      (readBack extraIsize field ts = ts ↔ Expressible extraIsize field ts) := by
  have settled := settle_xtimeField extraIsize field ts raw
  refine ⟨settled, ?_, readBack_eq_iff extraIsize field ts⟩
  rw [← settled]
  exact (xtimeField extraIsize field).put_settle ts raw

/-- Reading the timestamps of an inode and writing them back leaves every byte of them in
place, and a write changes the stored form if and only if it changes the timestamp.
Bytes behind the end of the inode's own fields are never touched. -/
theorem timestamps_written_back (extraIsize : Nat) (field : Xtime) (ts : Timespec)
    (raw : RawXtime) :
    setXtime extraIsize field (getXtime extraIsize field raw) raw = raw ∧
      (setXtime extraIsize field ts raw = raw ↔
        readBack extraIsize field ts = getXtime extraIsize field raw) ∧
      (¬ Present extraIsize field -> setXtime extraIsize field ts raw = raw) ∧
      (¬ Roomy extraIsize field -> (setXtime extraIsize field ts raw).extra = raw.extra) := by
  refine ⟨(xtimeField extraIsize field).put_get raw, ?_,
    fun absent => setXtime_absent absent ts raw, fun cramped => ?_⟩
  · rw [← settle_xtimeField extraIsize field ts raw]
    exact (xtimeField extraIsize field).put_eq_self_iff ts raw
  · by_cases present : Present extraIsize field
    · rw [setXtime_cramped present cramped]
    · rw [setXtime_absent present]

end Format
end Evfs
