import Evfs.Ext4.FlipBlockBit
import Evfs.Ext4.GdtCsum
import Evfs.Foundation.Runs
import Mathlib.Algebra.BigOperators.Group.Finset.Piecewise

namespace Evfs
namespace FreeSpace

open Foundation Ext4

/-!
# The allocation map

What the free-space records are for: they describe one set of used clusters.
An `AllocationMap` is that set, over all groups at once, and a flip inverts
one of its cells.  Every count of free space is a function of the map.

The faithful memory refines this model.  `usage` forgets all redundant
records, `flipMemory` becomes a toggle, and the counts of a consistent memory
are the counts of its map.  Conversely every map has a consistent memory, so
consistency restricts only the records and never the set of used clusters.
-/

/-- A cluster of the volume: a group and an offset in its bitmap. -/
abbrev Cell := Nat × Nat

/-- Which clusters are in use. -/
abbrev AllocationMap := Cell -> Bool

namespace AllocationMap

variable (geo : Geometry)

/-- The free clusters of a group. -/
def free (map : AllocationMap) (group : Nat) : Nat :=
  zeros (geo.clustersInGroup group) fun offset => map (group, offset)

/-- The free clusters of the volume. -/
def totalFree (map : AllocationMap) : Int :=
  (Finset.range geo.groupsCount).sum fun group => (map.free geo group : Int)

/-- The part of a map that lies in one group. -/
def bits (map : AllocationMap) (group : Nat) : Bitmap := fun offset => map (group, offset)

theorem bits_toggle_same (map : AllocationMap) (group offset : Nat) :
    bits (toggle map (group, offset)) group = toggle (map.bits group) offset := by
  funext other
  simp only [bits, toggle_apply, Prod.mk.injEq, true_and]

theorem bits_toggle_of_ne (map : AllocationMap) {group other : Nat} (offset : Nat)
    (different : other ≠ group) : bits (toggle map (group, offset)) other = map.bits other := by
  funext cell
  exact toggle_of_ne map fun same => different (congrArg Prod.fst same)

/-- A toggle moves the count of its own group by one and no other. -/
theorem free_toggle (map : AllocationMap) {group offset : Nat}
    (inside : offset < geo.clustersInGroup group) (other : Nat) :
    (free geo (toggle map (group, offset)) other : Int) =
      map.free geo other +
        if other = group then counterDelta (map (group, offset)) else 0 := by
  by_cases same : other = group
  · subst same
    rw [if_pos rfl]
    change (zeros _ (bits (toggle map (other, offset)) other) : Int) = _
    rw [bits_toggle_same]
    exact zeros_toggle inside
  · rw [if_neg same, Int.add_zero]
    change (zeros _ (bits (toggle map (group, offset)) other) : Int) = _
    rw [bits_toggle_of_ne map offset same]
    rfl

theorem totalFree_toggle (map : AllocationMap) {group offset : Nat}
    (present : group < geo.groupsCount) (inside : offset < geo.clustersInGroup group) :
    totalFree geo (toggle map (group, offset)) =
      map.totalFree geo + counterDelta (map (group, offset)) := by
  unfold totalFree
  simp only [free_toggle geo map inside, Finset.sum_add_distrib, Finset.sum_ite_eq',
    Finset.mem_range, if_pos present]

end AllocationMap

/-! ## Refinement -/

/-- The abstraction of a memory. -/
def usage (mem : Memory) : AllocationMap := fun cell => mem.bitmap cell.1 cell.2

theorem usage_flipMemory (code : Ext4Code) (group offset : Nat) (mem : Memory) :
    usage (flipMemory code group offset mem) = toggle (usage mem) (group, offset) := by
  funext cell
  rcases cell with ⟨other, index⟩
  by_cases same : other = group
  · subst same
    simp only [usage, flipMemory, Function.update_self, toggle_apply, Prod.mk.injEq, true_and]
  · simp only [usage, flipMemory, Function.update_of_ne same, toggle_apply, Prod.mk.injEq,
      same, false_and, decide_false, Bool.xor_false]

/-- A flip is always visible in the bitmaps. -/
theorem bitmap_flipMemory_ne (code : Ext4Code) (group offset : Nat) (mem : Memory) :
    (flipMemory code group offset mem).bitmap ≠ mem.bitmap := by
  intro kept
  have same : usage (flipMemory code group offset mem) = usage mem := by
    funext cell
    exact congrFun (congrFun kept cell.1) cell.2
  rw [usage_flipMemory] at same
  exact toggle_ne_self (usage mem) (group, offset) same

/-- The stores of a granted call are visible in the bitmap. -/
theorem bitmap_ne_of_granted {code : Ext4Code} {geo : Geometry} {call : FlipCall}
    (granted : call.Granted code geo) (kernel : Kernel) :
    (flipStep code geo kernel call).mem.bitmap ≠ kernel.mem.bitmap := by
  rw [flipStep_mem_of_granted code geo granted]
  exact bitmap_flipMemory_ne code _ _ kernel.mem

theorem freeBits_eq_free (geo : Geometry) (mem : Memory) (group : Nat) :
    mem.freeBits geo group = (usage mem).free geo group := rfl

theorem countsMatch_iff (code : Ext4Code) (geo : Geometry) (mem : Memory) :
    mem.CountsMatch code geo ↔
      (forall group, group < geo.groupsCount ->
        mem.freeCount code group = (usage mem).free geo group) ∧
      mem.freeclustersCounter = (usage mem).totalFree geo := by
  have sums : (forall group, group < geo.groupsCount ->
        mem.freeCount code group = (usage mem).free geo group) ->
      (Finset.range geo.groupsCount).sum (fun group => (mem.freeCount code group : Int)) =
        (usage mem).totalFree geo := by
    intro counts
    apply Finset.sum_congr rfl
    intro group member
    rw [counts group (Finset.mem_range.mp member)]
  constructor
  · rintro ⟨groupCount, globalCount⟩
    exact ⟨groupCount, globalCount.trans (sums groupCount)⟩
  · rintro ⟨groupCount, globalCount⟩
    exact ⟨groupCount, globalCount.trans (sums groupCount).symm⟩

/-- The memory that describes a map, over given values of the other
descriptor fields.  Mounting a volume whose records are right gives it. -/
def memoryOf (code : Ext4Code) (geo : Geometry) (base : Nat -> GroupDesc)
    (map : AllocationMap) : Memory where
  bitmap := map.bits
  desc := fun group =>
    code.updateDesc group (UInt32.ofNat (map.free geo group)) (map.bits group) (base group)
  freeclustersCounter := map.totalFree geo
  dirtyclustersCounter := 0
  groupInfo := fun group => ⟨map.free geo group, false⟩
  flexFreeClusters := fun flex => (Finset.range geo.groupsCount).sum fun group =>
    if geo.ext4FlexGroup group = flex then (map.free geo group : Int) else 0

theorem memoryOf_consistent {code : Ext4Code} {geo : Geometry} (lawful : code.Lawful geo)
    (fits : geo.CountsFit) (base : Nat -> GroupDesc) (map : AllocationMap) :
    (memoryOf code geo base map).Consistent code geo where
  counts := by
    refine (countsMatch_iff code geo _).mpr ⟨?_, rfl⟩
    intro group _
    have small : map.free geo group ≤ geo.clustersPerGroup :=
      Nat.le_trans (zeros_le _ _) (geo.clustersInGroup_le group)
    have narrow : map.free geo group < 2 ^ 32 :=
      Nat.lt_of_le_of_lt small (Nat.lt_of_lt_of_le fits
        (Nat.pow_le_pow_right (by decide) geo.freeCountBits_le))
    have exactCount : (UInt32.ofNat (map.free geo group)).toNat = map.free geo group :=
      UInt32.toNat_ofNat_of_lt' narrow
    change (code.ext4FreeGroupClusters (code.updateDesc group _ _ _)).toNat = _
    rw [Ext4Code.freeGroupClusters_updateDesc_of_le lawful fits (by rw [exactCount]; exact small)]
    exact exactCount
  checksums :=
    { bitmap_csum := fun group _ => Ext4Code.bitmapVerify_updateDesc lawful group _ _ _
      desc_csum := fun group _ => Ext4Code.descVerify_updateDesc lawful group _ _ _ }

/-- The volume of `GdtCsum`, just mounted, with the first 600 clusters of each
group in use. -/
def sampleKernel : Kernel where
  mem := memoryOf GdtCsum.volumeCode GdtCsum.volume (fun _ => GroupDesc.zero)
    fun cell => decide (cell.2 < 600)
  dirtied := []
  trace := []

theorem sampleKernel_consistent :
    sampleKernel.mem.Consistent GdtCsum.volumeCode GdtCsum.volume :=
  memoryOf_consistent GdtCsum.volumeCode_lawful GdtCsum.volume_countsFit _ _

end FreeSpace
end Evfs
