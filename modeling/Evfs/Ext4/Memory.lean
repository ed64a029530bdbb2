import Evfs.Ext4.Descriptor
import Evfs.Foundation.Toggles
import Mathlib.Algebra.Order.BigOperators.Group.Finset

namespace Evfs
namespace Ext4

open Foundation

/-!
# The free-space records of a mounted volume

Free space is recorded several times over in memory: in the bitmap of each
group, in the count of its descriptor, in the counter of the whole volume, and
in the mirrors that the block allocator and the flex groups keep.  `Memory`
has all of them, since a flip can only be judged against all of them.

`Consistent` relates the bitmaps to the descriptors and the counter.  Counts
are `UInt32` values that wrap, whereas the per-CPU counter is taken as the exact
integer that its summation returns.
-/

/-- The fields of `struct ext4_group_info` that the buddy allocator counts with.
`needInit` is the `EXT4_GROUP_INFO_NEED_INIT` bit of `bb_state`. -/
structure GroupInfo where
  bbFree : Int
  needInit : Bool
deriving DecidableEq, Repr

/-- The in-memory free-space state behind one `struct ext4_sb_info`. -/
structure Memory where
  bitmap : Nat -> Bitmap
  desc : Nat -> GroupDesc
  freeclustersCounter : Int
  dirtyclustersCounter : Int
  groupInfo : Nat -> GroupInfo
  flexFreeClusters : Nat -> Int

namespace Memory

/-- `ext4_set_bit` and `ext4_clear_bit` on the bitmap buffer of a group. -/
def writeBit (group offset : Nat) (value : Bool) (mem : Memory) : Memory :=
  { mem with
    bitmap := Function.update mem.bitmap group
      (Function.update (mem.bitmap group) offset value) }

/-- Store through a pointer into the descriptor of a group. -/
def writeDesc (group : Nat) (desc : GroupDesc) (mem : Memory) : Memory :=
  { mem with desc := Function.update mem.desc group desc }

/-- `percpu_counter_add` on `s_freeclusters_counter`. -/
def addFreeclusters (amount : Int) (mem : Memory) : Memory :=
  { mem with freeclustersCounter := mem.freeclustersCounter + amount }

/-- The stored free count of a group, as a natural number. -/
def freeCount (code : Ext4Code) (mem : Memory) (group : Nat) : Nat :=
  (code.ext4FreeGroupClusters (mem.desc group)).toNat

/-- The clear bits among the real clusters of a group. -/
def freeBits (geo : Geometry) (mem : Memory) (group : Nat) : Nat :=
  zeros (geo.clustersInGroup group) (mem.bitmap group)

/-- Descriptor counts and the global counter agree with the bitmaps. -/
structure CountsMatch (code : Ext4Code) (geo : Geometry) (mem : Memory) : Prop where
  group_count : forall group, group < geo.groupsCount ->
    mem.freeCount code group = mem.freeBits geo group
  global_count : mem.freeclustersCounter =
    (Finset.range geo.groupsCount).sum fun group => (mem.freeCount code group : Int)

/-- Where the checksum features are on, both stored checksums of every group
match the current contents. -/
structure ChecksumsMatch (code : Ext4Code) (geo : Geometry) (mem : Memory) : Prop where
  bitmap_csum : forall group, group < geo.groupsCount ->
    code.ext4BlockBitmapCsumVerify (mem.desc group) (mem.bitmap group) = true
  desc_csum : forall group, group < geo.groupsCount ->
    code.ext4GroupDescCsumVerify group (mem.desc group) = true

/-- All redundant records of free space agree. -/
structure Consistent (code : Ext4Code) (geo : Geometry) (mem : Memory) : Prop where
  counts : mem.CountsMatch code geo
  checksums : mem.ChecksumsMatch code geo

/-- A consistent count is within the group, so it is far from wrapping. -/
theorem CountsMatch.freeCount_le {code : Ext4Code} {geo : Geometry} {mem : Memory}
    (counts : mem.CountsMatch code geo) {group : Nat} (inside : group < geo.groupsCount) :
    mem.freeCount code group ≤ geo.clustersInGroup group := by
  rw [counts.group_count group inside]
  exact zeros_le _ _

theorem CountsMatch.freeclustersCounter_nonneg {code : Ext4Code} {geo : Geometry} {mem : Memory}
    (counts : mem.CountsMatch code geo) : 0 ≤ mem.freeclustersCounter := by
  rw [counts.global_count]
  exact Finset.sum_nonneg fun group _ => Int.natCast_nonneg _

/-- A consistent global counter is at most the number of clusters of the volume. -/
theorem CountsMatch.freeclustersCounter_le {code : Ext4Code} {geo : Geometry} {mem : Memory}
    (counts : mem.CountsMatch code geo) :
    mem.freeclustersCounter ≤
      (Finset.range geo.groupsCount).sum fun group => (geo.clustersInGroup group : Int) := by
  rw [counts.global_count]
  apply Finset.sum_le_sum
  intro group member
  exact Int.ofNat_le.mpr (counts.freeCount_le (Finset.mem_range.mp member))

end Memory

end Ext4
end Evfs
