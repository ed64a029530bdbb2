import Evfs.FreeSpace.AllocationMap

namespace Evfs
namespace FreeSpace

open Foundation Ext4

/-!
# Free-space accounting over whole runs

Four redundant records describe the free space of a group: bitmap, descriptor
count, bitmap checksum and descriptor checksum.  One global counter describes
the volume.  A flip moves all of them together, so they agree after every
call, whichever operation of whichever call fails.

The counts of the code wrap.  That they do not wrap in a run is not a separate
assumption: a clear bit among the real clusters forces a positive count, and a
set bit forces a count below the number of clusters.  This needs the offset
to be that of a real cluster, hence the restriction to blocks of the volume.
-/

section

variable {code : Ext4Code} {geo : Geometry}

/-- The new count of the code is the new number of clear bits.  The two cases
are the two polarities, and neither addition leaves the range of `UInt32`. -/
theorem countAfter_toNat {limit : Nat} {bits : Bitmap} {offset : Nat} {free : UInt32}
    (inside : offset < limit) (narrow : limit < 2 ^ 32) (agree : free.toNat = zeros limit bits) :
    (countAfter (bits offset) free).toNat = zeros limit (toggle bits offset) := by
  have after := zeros_le limit (toggle bits offset)
  cases polarity : bits offset with
  | true =>
      have grown := zeros_toggle_set inside polarity
      simp only [countAfter, if_true, UInt32.toNat_add]
      rw [agree, grown, show (1 : UInt32).toNat = 1 from rfl]
      exact Nat.mod_eq_of_lt (by omega)
  | false =>
      have shrunk := zeros_toggle_clear inside polarity
      simp only [countAfter, Bool.false_eq_true, if_false, UInt32.toNat_sub]
      rw [agree, show (1 : UInt32).toNat = 1 from rfl]
      omega

theorem clustersInGroup_narrow (fits : geo.CountsFit) (group : Nat) :
    geo.clustersInGroup group < 2 ^ 32 :=
  calc
    geo.clustersInGroup group ≤ geo.clustersPerGroup := geo.clustersInGroup_le group
    _ < 2 ^ geo.freeCountBits := fits
    _ ≤ 2 ^ 32 := Nat.pow_le_pow_right (by decide) geo.freeCountBits_le

/-- The flipped group's count and bitmap agree again. -/
theorem freeCount_flipMemory_same (lawful : code.Lawful geo) (fits : geo.CountsFit)
    {mem : Memory} {group offset : Nat}
    (inside : offset < geo.clustersInGroup group)
    (agree : mem.freeCount code group = mem.freeBits geo group) :
    (flipMemory code group offset mem).freeCount code group =
      (flipMemory code group offset mem).freeBits geo group := by
  have count := countAfter_toNat inside (clustersInGroup_narrow fits group) agree
  have bounded : (countAfter (mem.bitmap group offset)
      (code.ext4FreeGroupClusters (mem.desc group))).toNat ≤ geo.clustersPerGroup := by
    rw [count]
    exact Nat.le_trans (zeros_le _ _) (geo.clustersInGroup_le group)
  have stored := Ext4Code.freeGroupClusters_updateDesc_of_le lawful fits bounded group
    (toggle (mem.bitmap group) offset) (mem.desc group)
  simp only [Memory.freeCount, Memory.freeBits, flipMemory, Function.update_self]
  rw [stored, count]

theorem freeCount_flipMemory_of_ne {mem : Memory} {group other : Nat} (offset : Nat)
    (different : other ≠ group) :
    (flipMemory code group offset mem).freeCount code other = mem.freeCount code other := by
  simp only [Memory.freeCount, flipMemory, Function.update_of_ne different]

/-- A count that is one off and stored has the other parity.  The stored width
is a positive number of bits, so the wrap keeps parity too. -/
theorem storedCount_parity (lawful : code.Lawful geo) (group : Nat) (wasSet : Bool)
    (free : UInt32) (bits : Bitmap) (desc : GroupDesc) :
    (code.ext4FreeGroupClusters
      (code.updateDesc group (countAfter wasSet free) bits desc)).toNat % 2 =
        (free.toNat + 1) % 2 := by
  have width := free.toNat_lt
  have moved : (countAfter wasSet free).toNat % 2 = (free.toNat + 1) % 2 := by
    cases wasSet with
    | false =>
        simp only [countAfter, Bool.false_eq_true, if_false, UInt32.toNat_sub,
          show (1 : UInt32).toNat = 1 from rfl]
        omega
    | true =>
        simp only [countAfter, if_true, UInt32.toNat_add, show (1 : UInt32).toNat = 1 from rfl]
        omega
  have even : 2 ∣ 2 ^ geo.freeCountBits := dvd_pow_self 2 (Nat.ne_of_gt geo.freeCountBits_pos)
  rw [Ext4Code.freeGroupClusters_updateDesc lawful, Nat.mod_mod_of_dvd _ even, moved]

/-- Whatever the memory holds, the count of the flipped group changes parity. -/
theorem freeCount_flipMemory_parity (lawful : code.Lawful geo) (mem : Memory)
    (group offset : Nat) :
    (flipMemory code group offset mem).freeCount code group % 2 =
      (mem.freeCount code group + 1) % 2 := by
  simp only [Memory.freeCount, flipMemory, Function.update_self]
  exact storedCount_parity lawful group _ _ _ _

theorem freeCount_flipMemory_ne (lawful : code.Lawful geo) (mem : Memory) (group offset : Nat) :
    (flipMemory code group offset mem).freeCount code group ≠ mem.freeCount code group := by
  intro same
  have parity := freeCount_flipMemory_parity lawful mem group offset
  rw [same] at parity
  omega

/-- The step of the counting invariant. -/
theorem flipMemory_countsMatch (lawful : code.Lawful geo) (fits : geo.CountsFit)
    {mem : Memory} {group offset : Nat}
    (present : group < geo.groupsCount) (inside : offset < geo.clustersInGroup group)
    (counts : mem.CountsMatch code geo) :
    (flipMemory code group offset mem).CountsMatch code geo := by
  rw [countsMatch_iff, usage_flipMemory]
  have before := (countsMatch_iff code geo mem).mp counts
  constructor
  · intro other otherPresent
    by_cases same : other = group
    · subst same
      rw [freeCount_flipMemory_same lawful fits inside (counts.group_count other present),
        freeBits_eq_free, usage_flipMemory]
    · have kept : AllocationMap.free geo (toggle (usage mem) (group, offset)) other =
          (usage mem).free geo other := by
        have moved := AllocationMap.free_toggle geo (usage mem) inside other
        rw [if_neg same, Int.add_zero] at moved
        exact Int.ofNat_inj.mp moved
      rw [freeCount_flipMemory_of_ne offset same, kept]
      exact before.1 other otherPresent
  · rw [AllocationMap.totalFree_toggle geo (usage mem) present inside, ← before.2]
    rfl

/-- The step of the checksum invariant.  It needs no hypothesis on the counts. -/
theorem flipMemory_checksumsMatch (lawful : code.Lawful geo) {mem : Memory} (group offset : Nat)
    (checksums : mem.ChecksumsMatch code geo) :
    (flipMemory code group offset mem).ChecksumsMatch code geo where
  bitmap_csum := by
    intro other present
    by_cases same : other = group
    · subst same
      simp only [flipMemory, Function.update_self]
      exact Ext4Code.bitmapVerify_updateDesc lawful other _ _ _
    · simp only [flipMemory, Function.update_of_ne same]
      exact checksums.bitmap_csum other present
  desc_csum := by
    intro other present
    by_cases same : other = group
    · subst same
      simp only [flipMemory, Function.update_self]
      exact Ext4Code.descVerify_updateDesc lawful other _ _ _
    · simp only [flipMemory, Function.update_of_ne same]
      exact checksums.desc_csum other present

/-- A property of memory that every flip of a real cluster keeps is kept by
every call on a block of the volume, whatever fails. -/
theorem flipStep_keeps (lawful : code.Lawful geo) (good : Memory -> Prop)
    (kept : forall mem group offset, group < geo.groupsCount ->
      offset < geo.clustersInGroup group -> good mem -> good (flipMemory code group offset mem))
    (kernel : Kernel) (call : FlipCall) (inRange : geo.InRange call.blockNumber.toNat)
    (before : good kernel.mem) : good (flipStep code geo kernel call).mem := by
  refine (flipStep_mem_iff code geo good before call).mpr ?_
  intro granted
  exact kept kernel.mem _ _ granted.group_lt (FlipCall.offset_lt_of_inRange lawful inRange) before

/-- Consistency and the absence of wrap-around, at every state of every run,
for every fault schedule. -/
theorem flips_keep_accounting (lawful : code.Lawful geo) (fits : geo.CountsFit)
    (kernel : Kernel) (calls : List FlipCall) (initial : kernel.mem.Consistent code geo)
    (inRange : forall call, call ∈ calls -> geo.InRange call.blockNumber.toNat) :
    Run.Always (flipStep code geo) kernel calls fun state =>
      state.mem.Consistent code geo ∧
        (forall group, group < geo.groupsCount ->
          state.mem.freeCount code group ≤ geo.clustersInGroup group) ∧
        0 ≤ state.mem.freeclustersCounter ∧
        state.mem.freeclustersCounter ≤
          (Finset.range geo.groupsCount).sum fun group => (geo.clustersInGroup group : Int) := by
  have consistent : Run.Always (flipStep code geo) kernel calls
      (fun state => state.mem.Consistent code geo) := by
    refine Run.always_of_step (fun state : Kernel => state.mem.Consistent code geo) ?_
      initial calls inRange
    intro state call callInRange before
    refine flipStep_keeps lawful (fun mem => mem.Consistent code geo) ?_
      state call callInRange before
    intro mem group offset present inside records
    exact ⟨flipMemory_countsMatch lawful fits present inside records.counts,
      flipMemory_checksumsMatch lawful group offset records.checksums⟩
  intro visited short
  have records := consistent visited short
  exact ⟨records, fun group present => records.counts.freeCount_le present,
    records.counts.freeclustersCounter_nonneg, records.counts.freeclustersCounter_le⟩

/-- Two groups, the second short.  The run clears a bit with a failing
`ext4_handle_dirty_metadata`, then sets one in the short group. -/
theorem flips_keep_accounting_sample :
    Run.Always (flipStep GdtCsum.volumeCode GdtCsum.volume) sampleKernel
      [{ blockNumber := 100, faults := { dirtyDesc := some .eio } }, { blockNumber := 39999 }]
      fun state =>
        state.mem.Consistent GdtCsum.volumeCode GdtCsum.volume ∧
          (forall group, group < 2 -> state.mem.freeCount GdtCsum.volumeCode group ≤
            GdtCsum.volume.clustersInGroup group) ∧
          0 ≤ state.mem.freeclustersCounter ∧
          state.mem.freeclustersCounter ≤ (Finset.range 2).sum fun group =>
            (GdtCsum.volume.clustersInGroup group : Int) :=
  flips_keep_accounting GdtCsum.volumeCode_lawful GdtCsum.volume_countsFit sampleKernel _
    sampleKernel_consistent (by decide)

end

end FreeSpace
end Evfs
