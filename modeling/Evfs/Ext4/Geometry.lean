import Mathlib.Data.Nat.Basic
import Mathlib.Tactic.Linarith
import Mathlib.Tactic.Ring

namespace Evfs
namespace Ext4

/-!
# The geometry of a mounted volume

Block numbers, group numbers and cluster offsets are natural numbers here.
The places where the C types wrap are written as explicit remainders: the
unsigned 64-bit subtraction of the first data block, and the store of a 64-bit
quotient into the 32-bit `ext4_group_t`.

A `Geometry` can only be built together with the relations that the mount
code has established before an ioctl can reach the volume.  The last group may
be short.  Its bitmap then has padding bits past the real clusters, which no
block of the volume owns.
-/

/-- The fields of `ext4_super_block` and `ext4_sb_info` that locate a block. -/
structure Geometry where
  firstDataBlock : Nat
  blocksCount : Nat
  blocksPerGroup : Nat
  clustersPerGroup : Nat
  clusterBits : Nat
  groupsCount : Nat
  descSize : Nat
  descPerBlock : Nat
  logGroupsPerFlex : Nat
  first_lt : firstDataBlock < blocksCount
  blocks_lt : blocksCount < 2 ^ 64
  clusters_pos : 0 < clustersPerGroup
  blocks_eq : blocksPerGroup = clustersPerGroup * 2 ^ clusterBits
  groups_eq : groupsCount = (blocksCount - firstDataBlock + blocksPerGroup - 1) / blocksPerGroup
  groups_lt : groupsCount < 2 ^ 32
  desc_pos : 0 < descPerBlock

/-- `EXT4_MIN_DESC_SIZE_64BIT`: from this size on a descriptor has the
high halves of its counts. -/
def minDescSize64bit : Nat := 64

namespace Geometry

variable (geo : Geometry)

/-- `s_cluster_ratio`, the number of blocks in a cluster. -/
def clusterRatio : Nat := 2 ^ geo.clusterBits

/-- `EXT4_B2C`. -/
def ext4B2C (block : Nat) : Nat := block >>> geo.clusterBits

/-- `EXT4_NUM_B2C`: a partly used cluster counts as a whole one. -/
def ext4NumB2C (blocks : Nat) : Nat := (blocks + geo.clusterRatio - 1) >>> geo.clusterBits

/-- The block lies on the volume. -/
def InRange (block : Nat) : Prop :=
  geo.firstDataBlock ≤ block ∧ block < geo.blocksCount

instance (block : Nat) : Decidable (geo.InRange block) :=
  inferInstanceAs (Decidable (_ ∧ _))

/-- The blocks of a group that exist, which is less than
`s_blocks_per_group` in a short last group. -/
def blocksInGroup (group : Nat) : Nat :=
  min geo.blocksPerGroup (geo.blocksCount - geo.firstDataBlock - group * geo.blocksPerGroup)

/-- The clusters of a group that exist.  Bitmap bits from this number on are padding. -/
def clustersInGroup (group : Nat) : Nat := geo.ext4NumB2C (geo.blocksInGroup group)

/-- The contents of cluster `offset` of `group`, as an interval of blocks. -/
def InCluster (group offset block : Nat) : Prop :=
  offset < geo.clustersPerGroup ∧
    geo.firstDataBlock + group * geo.blocksPerGroup + offset * geo.clusterRatio ≤ block ∧
    block < geo.firstDataBlock + group * geo.blocksPerGroup + (offset + 1) * geo.clusterRatio

/-- The group and the cluster offset of a block of the volume. -/
def place (block : Nat) : Nat × Nat :=
  ((block - geo.firstDataBlock) / geo.blocksPerGroup,
    geo.ext4B2C ((block - geo.firstDataBlock) % geo.blocksPerGroup))

/-- What `ext4_get_group_no_and_offset` is documented to store for an
arbitrary 64-bit number.  The subtraction wraps, the quotient is truncated. -/
def groupNoAndOffset (blockNumber : UInt64) : Nat × Nat :=
  let relative := (blockNumber.toNat + 2 ^ 64 - geo.firstDataBlock) % 2 ^ 64
  (relative / geo.blocksPerGroup % 2 ^ 32, geo.ext4B2C (relative % geo.blocksPerGroup))

/-- `ext4_flex_group`. -/
def ext4FlexGroup (group : Nat) : Nat := group >>> geo.logGroupsPerFlex

/-- The descriptor block, an index into `s_group_desc`, that holds the
descriptor of a group. -/
def descBlock (group : Nat) : Nat := group / geo.descPerBlock

/-- The width of the stored free-cluster count: the low half alone in a
descriptor of `EXT4_MIN_DESC_SIZE`. -/
def freeCountBits : Nat := if minDescSize64bit ≤ geo.descSize then 32 else 16

/-- The count field of a descriptor can hold every count of a group.  The mount code
admits no more clusters in a group than a block has bits, which is 32768 for the
largest blocks that fit in a page of 4 KiB, and `mke2fs` makes at most 65528. -/
def CountsFit : Prop := geo.clustersPerGroup < 2 ^ geo.freeCountBits

instance : Decidable geo.CountsFit := inferInstanceAs (Decidable (_ < _))

theorem freeCountBits_le : geo.freeCountBits ≤ 32 := by
  unfold freeCountBits
  split <;> omega

theorem freeCountBits_pos : 0 < geo.freeCountBits := by
  unfold freeCountBits
  split <;> omega

theorem clusterRatio_pos : 0 < geo.clusterRatio := Nat.two_pow_pos geo.clusterBits

theorem blocksPerGroup_pos : 0 < geo.blocksPerGroup := by
  rw [geo.blocks_eq]
  exact Nat.mul_pos geo.clusters_pos geo.clusterRatio_pos

theorem ext4B2C_eq (block : Nat) : geo.ext4B2C block = block / geo.clusterRatio :=
  Nat.shiftRight_eq_div_pow block geo.clusterBits

theorem ext4NumB2C_eq (blocks : Nat) :
    geo.ext4NumB2C blocks = (blocks + geo.clusterRatio - 1) / geo.clusterRatio :=
  Nat.shiftRight_eq_div_pow _ geo.clusterBits

/-- A block among the first `blocks` is in one of the clusters counted for them. -/
theorem ext4B2C_lt_ext4NumB2C {block blocks : Nat} (inside : block < blocks) :
    geo.ext4B2C block < geo.ext4NumB2C blocks := by
  rw [ext4B2C_eq, ext4NumB2C_eq]
  have positive := geo.clusterRatio_pos
  have shifted : block / geo.clusterRatio + 1 = (block + geo.clusterRatio) / geo.clusterRatio :=
    (Nat.add_div_right block positive).symm
  have monotone : (block + geo.clusterRatio) / geo.clusterRatio ≤
      (blocks + geo.clusterRatio - 1) / geo.clusterRatio :=
    Nat.div_le_div_right (by omega)
  omega

theorem clustersInGroup_le (group : Nat) :
    geo.clustersInGroup group ≤ geo.clustersPerGroup := by
  have bounded : geo.blocksInGroup group ≤ geo.clustersPerGroup * geo.clusterRatio :=
    Nat.le_trans (Nat.min_le_left _ _) (Nat.le_of_eq geo.blocks_eq)
  unfold clustersInGroup
  rw [ext4NumB2C_eq]
  have positive := geo.clusterRatio_pos
  calc
    (geo.blocksInGroup group + geo.clusterRatio - 1) / geo.clusterRatio
        ≤ (geo.clustersPerGroup * geo.clusterRatio + (geo.clusterRatio - 1)) / geo.clusterRatio :=
      Nat.div_le_div_right (by omega)
    _ = geo.clustersPerGroup := by
      rw [Nat.mul_comm, Nat.mul_add_div positive,
        Nat.div_eq_of_lt (Nat.sub_lt positive Nat.one_pos), Nat.add_zero]

section InRange

variable {geo} {block : Nat} (inRange : geo.InRange block)
include inRange

theorem place_group_lt : (geo.place block).1 < geo.groupsCount := by
  have positive := geo.blocksPerGroup_pos
  rw [geo.groups_eq]
  have last : block - geo.firstDataBlock ≤ geo.blocksCount - geo.firstDataBlock - 1 := by
    have upper := inRange.2
    omega
  have shape : geo.blocksCount - geo.firstDataBlock + geo.blocksPerGroup - 1 =
      geo.blocksCount - geo.firstDataBlock - 1 + geo.blocksPerGroup := by
    have nonempty := geo.first_lt
    omega
  rw [shape, Nat.add_div_right _ positive]
  exact Nat.lt_succ_of_le (Nat.div_le_div_right last)

theorem place_offset_lt :
    (geo.place block).2 < geo.clustersInGroup (geo.place block).1 := by
  apply geo.ext4B2C_lt_ext4NumB2C
  have positive := geo.blocksPerGroup_pos
  have division := Nat.div_add_mod' (block - geo.firstDataBlock) geo.blocksPerGroup
  have remainder := Nat.mod_lt (block - geo.firstDataBlock) positive
  have lower := inRange.1
  have upper := inRange.2
  change _ < min geo.blocksPerGroup (geo.blocksCount - geo.firstDataBlock -
    (block - geo.firstDataBlock) / geo.blocksPerGroup * geo.blocksPerGroup)
  rw [lt_min_iff]
  exact ⟨remainder, by omega⟩

/-- The cluster that holds a block of the volume is unique, and it is the
one that `place` computes. -/
theorem inCluster_iff_place (group offset : Nat) :
    geo.InCluster group offset block ↔ geo.place block = (group, offset) := by
  have ratioPositive := geo.clusterRatio_pos
  have groupPositive := geo.blocksPerGroup_pos
  have lower := inRange.1
  obtain ⟨relative, shift⟩ : exists relative, block = geo.firstDataBlock + relative :=
    ⟨block - geo.firstDataBlock, by omega⟩
  have size : geo.blocksPerGroup = geo.clustersPerGroup * geo.clusterRatio := geo.blocks_eq
  have placed : geo.place block =
      (relative / geo.blocksPerGroup, relative % geo.blocksPerGroup / geo.clusterRatio) := by
    unfold place
    rw [ext4B2C_eq, shift, Nat.add_sub_cancel_left]
  rw [placed, Prod.mk.injEq]
  unfold InCluster
  constructor
  · rintro ⟨small, from_, below⟩
    have ends : (offset + 1) * geo.clusterRatio ≤ geo.blocksPerGroup := by
      rw [size]
      exact Nat.mul_le_mul_right _ small
    rw [Nat.add_mul, Nat.one_mul] at below ends
    have quotient : relative / geo.blocksPerGroup = group :=
      Nat.div_eq_of_lt_le (by omega) (by rw [Nat.add_mul, Nat.one_mul]; omega)
    have division := Nat.div_add_mod' relative geo.blocksPerGroup
    rw [quotient] at division
    refine ⟨quotient, Nat.div_eq_of_lt_le (by omega) ?_⟩
    rw [Nat.add_mul, Nat.one_mul]
    omega
  · rintro ⟨quotient, cluster⟩
    have division := Nat.div_add_mod' relative geo.blocksPerGroup
    have remainder := Nat.mod_lt relative groupPositive
    have inner := Nat.div_add_mod' (relative % geo.blocksPerGroup) geo.clusterRatio
    have innerRemainder := Nat.mod_lt (relative % geo.blocksPerGroup) ratioPositive
    rw [quotient] at division
    rw [cluster] at inner
    refine ⟨?_, by omega, by rw [Nat.add_mul, Nat.one_mul]; omega⟩
    rw [← cluster]
    apply Nat.div_lt_of_lt_mul
    rw [Nat.mul_comm, ← size]
    exact remainder

end InRange

/-- On the volume nothing wraps and nothing is truncated. -/
theorem groupNoAndOffset_of_inRange {blockNumber : UInt64}
    (inRange : geo.InRange blockNumber.toNat) :
    geo.groupNoAndOffset blockNumber = geo.place blockNumber.toNat := by
  have lower := inRange.1
  have width := blockNumber.toNat_lt
  have relative : (blockNumber.toNat + 2 ^ 64 - geo.firstDataBlock) % 2 ^ 64 =
      blockNumber.toNat - geo.firstDataBlock := by omega
  have narrow := Nat.lt_trans (place_group_lt inRange) geo.groups_lt
  unfold groupNoAndOffset place at *
  simp only [relative, Nat.mod_eq_of_lt narrow]

end Geometry

end Ext4
end Evfs
