import Evfs.FreeSpace.Accounting

namespace Evfs
namespace FreeSpace

open Foundation Ext4

/-!
# Runs of successful flips

Every flip branches on the current bit and moves the counts relative to their
current values, yet a run of successful flips has a closed form.  The map of
used clusters changes by one symmetric difference, and every record of a
touched group is the record of the final map.  `netMemory` is that closed
form.  It depends on the multiplicities of the named clusters alone, so the
order of the calls does not matter.

Two flips of one cluster restore the map and the counts.  The checksums are
recomputed from the restored contents, so they are restored as well when they
matched those contents at the start.
-/

section

variable (code : Ext4Code) (geo : Geometry)

/-- The clusters of the blocks that the calls name. -/
def named (calls : List FlipCall) : List Cell :=
  calls.map fun call => geo.place call.blockNumber.toNat

/-- Some cluster of the group is among the cells. -/
def Touched (cells : List Cell) (group : Nat) : Prop := group ∈ cells.map Prod.fst

instance (cells : List Cell) (group : Nat) : Decidable (Touched cells group) :=
  inferInstanceAs (Decidable (group ∈ cells.map Prod.fst))

/-- Every call of the run returns zero. -/
def AllSucceed (kernel : Kernel) (calls : List FlipCall) : Prop :=
  Run.AtEachCall (flipStep code geo) kernel calls
    fun state call => (flipBlockBit code geo call state).2 = 0

/-- The memory after flips of the listed cells, without intermediate states. -/
def netMemory (cells : List Cell) (mem : Memory) : Memory :=
  let map : AllocationMap := toggleAll (usage mem) cells
  { mem with
    bitmap := map.bits
    desc := fun group =>
      if Touched cells group then
        code.updateDesc group (UInt32.ofNat (map.free geo group)) (map.bits group)
          (mem.desc group)
      else mem.desc group
    freeclustersCounter := map.totalFree geo }

/-- What flips of the listed cells have done from one memory to the next. -/
structure NetEffect (cells : List Cell) (before after : Memory) : Prop where
  /-- A bit is inverted exactly when its cluster was named an odd number of times. -/
  bits : forall cell, usage after cell = Bool.xor (usage before cell) (namedOdd cells cell)
  group_count : forall group, group < geo.groupsCount ->
    (after.freeCount code group : Int) - before.freeCount code group =
      inverted (geo.clustersInGroup group) true (before.bitmap group) (after.bitmap group) -
        inverted (geo.clustersInGroup group) false (before.bitmap group) (after.bitmap group)
  global_count : after.freeclustersCounter - before.freeclustersCounter =
    (Finset.range geo.groupsCount).sum fun group =>
      (inverted (geo.clustersInGroup group) true (before.bitmap group) (after.bitmap group) -
        inverted (geo.clustersInGroup group) false (before.bitmap group)
          (after.bitmap group) : Int)
  touched : forall group, Touched cells group ->
    code.ext4BlockBitmapCsumVerify (after.desc group) (after.bitmap group) = true ∧
      code.ext4GroupDescCsumVerify group (after.desc group) = true
  untouched : forall group, ¬ Touched cells group ->
    after.desc group = before.desc group ∧ after.bitmap group = before.bitmap group
  other_fields : forall group, (after.desc group).others = (before.desc group).others
  other_records : after.dirtyclustersCounter = before.dirtyclustersCounter ∧
    after.groupInfo = before.groupInfo ∧ after.flexFreeClusters = before.flexFreeClusters

variable {code geo}

/-- The cells of an untouched group keep their bits. -/
theorem bits_toggleAll_of_untouched (map : AllocationMap) {cells : List Cell} {group : Nat}
    (apart : ¬ Touched cells group) :
    AllocationMap.bits (toggleAll map cells) group = map.bits group := by
  funext offset
  have unnamed : namedOdd cells (group, offset) = false :=
    namedOdd_of_not_mem fun member => apart (List.mem_map_of_mem member)
  unfold AllocationMap.bits
  rw [toggleAll_apply, unnamed, Bool.xor_false]

/-- An untouched group has as many free clusters as before. -/
theorem free_toggleAll_of_untouched (map : AllocationMap) {cells : List Cell} {group : Nat}
    (apart : ¬ Touched cells group) :
    AllocationMap.free geo (toggleAll map cells) group = map.free geo group :=
  congrArg (zeros (geo.clustersInGroup group)) (bits_toggleAll_of_untouched map apart)

theorem touched_cons (cell : Cell) (cells : List Cell) (group : Nat) :
    Touched (cell :: cells) group ↔ group = cell.1 ∨ Touched cells group :=
  List.mem_cons

theorem touched_perm {first second : List Cell} (permutation : first.Perm second) (group : Nat) :
    Touched first group ↔ Touched second group :=
  (permutation.map Prod.fst).mem_iff

/-! ## The closed form -/

theorem netMemory_desc_of_touched {cells : List Cell} {group : Nat} (touched : Touched cells group)
    (mem : Memory) :
    (netMemory code geo cells mem).desc group =
      code.updateDesc group
        (UInt32.ofNat (AllocationMap.free geo (toggleAll (usage mem) cells) group))
        (AllocationMap.bits (toggleAll (usage mem) cells) group) (mem.desc group) :=
  if_pos touched

theorem netMemory_desc_of_untouched {cells : List Cell} {group : Nat}
    (apart : ¬ Touched cells group) (mem : Memory) :
    (netMemory code geo cells mem).desc group = mem.desc group :=
  if_neg apart

theorem netMemory_nil {mem : Memory} (counts : mem.CountsMatch code geo) :
    netMemory code geo [] mem = mem := by
  have global : (usage mem).totalFree geo = mem.freeclustersCounter :=
    ((countsMatch_iff code geo mem).mp counts).2.symm
  change { mem with freeclustersCounter := (usage mem).totalFree geo } = mem
  rw [global]

/-- The descriptor that one flip stores, in the words of the map. -/
theorem desc_flipMemory (fits : geo.CountsFit) {mem : Memory} {group offset : Nat}
    (present : group < geo.groupsCount) (inside : offset < geo.clustersInGroup group)
    (counts : mem.CountsMatch code geo) :
    (flipMemory code group offset mem).desc group =
      code.updateDesc group
        (UInt32.ofNat (AllocationMap.free geo (toggle (usage mem) (group, offset)) group))
        (AllocationMap.bits (toggle (usage mem) (group, offset)) group) (mem.desc group) := by
  have count := countAfter_toNat inside (clustersInGroup_narrow fits group)
    (counts.group_count group present)
  have bits : AllocationMap.bits (toggle (usage mem) (group, offset)) group =
      toggle (mem.bitmap group) offset := AllocationMap.bits_toggle_same (usage mem) group offset
  have free : AllocationMap.free geo (toggle (usage mem) (group, offset)) group =
      zeros (geo.clustersInGroup group) (toggle (mem.bitmap group) offset) := by
    rw [← bits]
    rfl
  rw [free, bits, ← count, UInt32.ofNat_toNat]
  simp only [flipMemory, Function.update_self]

/-- A flip before the closed form is absorbed by it. -/
theorem netMemory_flipMemory (lawful : code.Lawful geo) (fits : geo.CountsFit)
    {mem : Memory} {group offset : Nat}
    (present : group < geo.groupsCount) (inside : offset < geo.clustersInGroup group)
    (counts : mem.CountsMatch code geo) (cells : List Cell) :
    netMemory code geo cells (flipMemory code group offset mem) =
      netMemory code geo ((group, offset) :: cells) mem := by
  have descs : forall other,
      (netMemory code geo cells (flipMemory code group offset mem)).desc other =
        (netMemory code geo ((group, offset) :: cells) mem).desc other := by
    intro other
    have map : toggleAll (usage mem) ((group, offset) :: cells) =
        toggleAll (toggle (usage mem) (group, offset)) cells := rfl
    by_cases same : other = group
    · subst same
      have touched : Touched ((other, offset) :: cells) other :=
        (touched_cons _ cells other).mpr (Or.inl rfl)
      rw [netMemory_desc_of_touched touched, map]
      by_cases again : Touched cells other
      · rw [netMemory_desc_of_touched again, desc_flipMemory fits present inside counts,
          usage_flipMemory, Ext4Code.updateDesc_updateDesc lawful]
      · -- the last flip of this group is the first call of the run
        rw [netMemory_desc_of_untouched again, desc_flipMemory fits present inside counts,
          free_toggleAll_of_untouched _ again, bits_toggleAll_of_untouched _ again]
    · have kept : (flipMemory code group offset mem).desc other = mem.desc other := by
        simp only [flipMemory, Function.update_of_ne same]
      by_cases again : Touched cells other
      · have touched : Touched ((group, offset) :: cells) other :=
          (touched_cons _ cells other).mpr (Or.inr again)
        rw [netMemory_desc_of_touched again, netMemory_desc_of_touched touched, map,
          usage_flipMemory, kept]
      · have apart : ¬ Touched ((group, offset) :: cells) other := by
          rw [touched_cons]
          exact not_or.mpr ⟨same, again⟩
        rw [netMemory_desc_of_untouched again, netMemory_desc_of_untouched apart, kept]
  have others : { netMemory code geo cells (flipMemory code group offset mem) with
        desc := (netMemory code geo ((group, offset) :: cells) mem).desc } =
      netMemory code geo ((group, offset) :: cells) mem := by
    unfold netMemory
    simp only [usage_flipMemory]
    rfl
  rw [← others, ← funext descs]

/-- The memory after a run of successful calls. -/
theorem exec_mem_of_success (lawful : code.Lawful geo) (fits : geo.CountsFit)
    {kernel : Kernel} {calls : List FlipCall}
    (counts : kernel.mem.CountsMatch code geo)
    (inRange : forall call, call ∈ calls -> geo.InRange call.blockNumber.toNat)
    (success : AllSucceed code geo kernel calls) :
    (Run.exec (flipStep code geo) kernel calls).mem =
      netMemory code geo (named geo calls) kernel.mem := by
  induction calls generalizing kernel with
  | nil => exact (netMemory_nil counts).symm
  | cons call rest inductionHypothesis =>
      have parts := (Run.atEachCall_cons kernel call rest _).mp success
      have granted := ((flipBlockBit_ret_eq_zero_iff code geo call kernel).mp parts.1).1
      have onVolume := inRange call List.mem_cons_self
      have present := FlipCall.group_lt_of_inRange lawful onVolume
      have inside := FlipCall.offset_lt_of_inRange lawful onVolume
      have stored := flipStep_mem_of_granted code geo granted kernel
      have countsAfter : (flipStep code geo kernel call).mem.CountsMatch code geo := by
        rw [stored]
        exact flipMemory_countsMatch lawful fits present inside counts
      rw [Run.exec_cons, inductionHypothesis countsAfter
        (fun later member => inRange later (List.mem_cons_of_mem call member)) parts.2, stored,
        netMemory_flipMemory lawful fits present inside counts]
      unfold named
      rw [List.map_cons, ← FlipCall.place_of_inRange lawful onVolume]

/-- Whether a call succeeds is decided by the call alone. -/
theorem allSucceed_iff (kernel : Kernel) (calls : List FlipCall) :
    AllSucceed code geo kernel calls ↔
      forall call, call ∈ calls -> call.Granted code geo ∧ call.lateError = none :=
  Run.atEachCall_iff_forall (fun _ => True) (fun _ _ _ => trivial)
    (fun state call _ => flipBlockBit_ret_eq_zero_iff code geo call state) trivial calls

/-! ## What the closed form says -/

theorem usage_netMemory (cells : List Cell) (mem : Memory) :
    usage (netMemory code geo cells mem) = toggleAll (usage mem) cells := rfl

theorem netMemory_perm {first second : List Cell} (permutation : first.Perm second)
    (mem : Memory) : netMemory code geo first mem = netMemory code geo second mem := by
  have map : toggleAll (usage mem) first = toggleAll (usage mem) second := by
    funext cell
    rw [toggleAll_apply, toggleAll_apply, namedOdd_perm permutation]
  unfold netMemory
  simp only [map, touched_perm permutation]

/-- The counts stored by the closed form are those of its map. -/
theorem freeCount_netMemory (lawful : code.Lawful geo) (fits : geo.CountsFit)
    {mem : Memory}
    (counts : mem.CountsMatch code geo) (cells : List Cell) {group : Nat}
    (present : group < geo.groupsCount) :
    (netMemory code geo cells mem).freeCount code group =
      AllocationMap.free geo (toggleAll (usage mem) cells) group := by
  have small : AllocationMap.free geo (toggleAll (usage mem) cells) group ≤
      geo.clustersPerGroup := Nat.le_trans (zeros_le _ _) (geo.clustersInGroup_le group)
  have narrow : AllocationMap.free geo (toggleAll (usage mem) cells) group < 2 ^ 32 :=
    Nat.lt_of_le_of_lt (zeros_le _ _) (clustersInGroup_narrow fits group)
  have exactCount := UInt32.toNat_ofNat_of_lt' narrow
  rw [Memory.freeCount]
  by_cases touched : Touched cells group
  · rw [netMemory_desc_of_touched touched, Ext4Code.freeGroupClusters_updateDesc_of_le lawful fits
      (by rw [exactCount]; exact small), exactCount]
  · rw [netMemory_desc_of_untouched touched, free_toggleAll_of_untouched _ touched]
    exact counts.group_count group present

theorem netMemory_netEffect (lawful : code.Lawful geo) (fits : geo.CountsFit)
    {mem : Memory}
    (counts : mem.CountsMatch code geo) (cells : List Cell) :
    NetEffect code geo cells mem (netMemory code geo cells mem) where
  bits := fun cell => toggleAll_apply (usage mem) cells cell
  group_count := by
    intro group present
    rw [freeCount_netMemory lawful fits counts cells present, counts.group_count group present]
    exact zeros_sub_zeros (geo.clustersInGroup group) (mem.bitmap group) _
  global_count := by
    have before := ((countsMatch_iff code geo mem).mp counts).2
    rw [before]
    change AllocationMap.totalFree geo (toggleAll (usage mem) cells) - _ = _
    unfold AllocationMap.totalFree
    rw [← Finset.sum_sub_distrib]
    apply Finset.sum_congr rfl
    intro group _
    exact zeros_sub_zeros (geo.clustersInGroup group) (mem.bitmap group) _
  touched := by
    intro group member
    rw [netMemory_desc_of_touched member]
    exact ⟨Ext4Code.bitmapVerify_updateDesc lawful group _ _ _,
      Ext4Code.descVerify_updateDesc lawful group _ _ _⟩
  untouched := by
    intro group apart
    exact ⟨netMemory_desc_of_untouched apart mem, bits_toggleAll_of_untouched (usage mem) apart⟩
  other_fields := by
    intro group
    by_cases touched : Touched cells group
    · rw [netMemory_desc_of_touched touched]
      exact Ext4Code.others_updateDesc lawful group _ _ _
    · rw [netMemory_desc_of_untouched touched]
  other_records := ⟨rfl, rfl, rfl⟩

/-- The record of an unchanged map is the old one where the old one was right. -/
theorem updateDesc_of_matching (lawful : code.Lawful geo) {mem : Memory}
    (counts : mem.CountsMatch code geo) {group : Nat} (present : group < geo.groupsCount)
    (bitmapValid : code.ext4BlockBitmapCsumVerify (mem.desc group) (mem.bitmap group) = true)
    (descValid : code.ext4GroupDescCsumVerify group (mem.desc group) = true) :
    code.updateDesc group (UInt32.ofNat ((usage mem).free geo group)) (mem.bitmap group)
      (mem.desc group) = mem.desc group := by
  have count : UInt32.ofNat ((usage mem).free geo group) =
      code.ext4FreeGroupClusters (mem.desc group) := by
    rw [← freeBits_eq_free, ← counts.group_count group present]
    exact UInt32.ofNat_toNat
  rw [count]
  exact Ext4Code.updateDesc_self lawful bitmapValid descValid

/-- Flips that name every cluster an even number of times restore the map.  A
descriptor that matched its contents at the start is restored with it. -/
theorem netMemory_even (lawful : code.Lawful geo) (fits : geo.CountsFit)
    {mem : Memory}
    (counts : mem.CountsMatch code geo) {cells : List Cell}
    (present : forall group, Touched cells group -> group < geo.groupsCount)
    (even : forall cell, namedOdd cells cell = false) :
    (netMemory code geo cells mem).bitmap = mem.bitmap ∧
      (netMemory code geo cells mem).freeclustersCounter = mem.freeclustersCounter ∧
      forall group,
        (netMemory code geo cells mem).freeCount code group = mem.freeCount code group ∧
          (code.ext4BlockBitmapCsumVerify (mem.desc group) (mem.bitmap group) = true ->
            code.ext4GroupDescCsumVerify group (mem.desc group) = true ->
            (netMemory code geo cells mem).desc group = mem.desc group) := by
  have map : toggleAll (usage mem) cells = usage mem := toggleAll_of_even (usage mem) even
  refine ⟨?_, ?_, ?_⟩
  · exact congrArg AllocationMap.bits map
  · rw [((countsMatch_iff code geo mem).mp counts).2]
    exact congrArg (AllocationMap.totalFree geo) map
  · intro group
    by_cases touched : Touched cells group
    · have onVolume := present group touched
      constructor
      · rw [freeCount_netMemory lawful fits counts cells onVolume, map]
        exact (counts.group_count group onVolume).symm
      · intro bitmapValid descValid
        rw [netMemory_desc_of_touched touched, map]
        exact updateDesc_of_matching lawful counts onVolume bitmapValid descValid
    · have kept : (netMemory code geo cells mem).desc group = mem.desc group :=
        netMemory_desc_of_untouched touched mem
      refine ⟨?_, fun _ _ => kept⟩
      rw [Memory.freeCount, kept]
      rfl

/-- The used clusters after a run of successful calls, as sets. -/
theorem used_exec_symmDiff (lawful : code.Lawful geo) (fits : geo.CountsFit)
    {kernel : Kernel} {calls : List FlipCall}
    (counts : kernel.mem.CountsMatch code geo)
    (inRange : forall call, call ∈ calls -> geo.InRange call.blockNumber.toNat)
    (success : AllSucceed code geo kernel calls) :
    {cell | usage (Run.exec (flipStep code geo) kernel calls).mem cell = true} =
      symmDiff {cell | usage kernel.mem cell = true}
        {cell | namedOdd (named geo calls) cell = true} := by
  rw [exec_mem_of_success lawful fits counts inRange success, usage_netMemory]
  exact toggleAll_symmDiff (usage kernel.mem) (named geo calls)

theorem exec_netEffect (lawful : code.Lawful geo) (fits : geo.CountsFit)
    {kernel : Kernel} {calls : List FlipCall}
    (counts : kernel.mem.CountsMatch code geo)
    (inRange : forall call, call ∈ calls -> geo.InRange call.blockNumber.toNat)
    (success : AllSucceed code geo kernel calls) :
    NetEffect code geo (named geo calls) kernel.mem
      (Run.exec (flipStep code geo) kernel calls).mem := by
  rw [exec_mem_of_success lawful fits counts inRange success]
  exact netMemory_netEffect lawful fits counts (named geo calls)

theorem touched_named_present {calls : List FlipCall}
    (inRange : forall call, call ∈ calls -> geo.InRange call.blockNumber.toNat) {group : Nat}
    (touched : Touched (named geo calls) group) : group < geo.groupsCount := by
  unfold Touched named at touched
  rw [List.map_map] at touched
  rcases List.mem_map.mp touched with ⟨call, member, rfl⟩
  exact Geometry.place_group_lt (inRange call member)

/-- A run of successful flips is one symmetric difference.  Every permutation
of it succeeds with the same final memory.  A run that names every cluster an
even number of times, such as two flips of one cluster, restores bitmaps and
counts, and the descriptors whose checksums matched at the start. -/
theorem flips_symmetric_difference (lawful : code.Lawful geo) (fits : geo.CountsFit)
    (kernel : Kernel) (calls : List FlipCall) (counts : kernel.mem.CountsMatch code geo)
    (inRange : forall call, call ∈ calls -> geo.InRange call.blockNumber.toNat)
    (success : AllSucceed code geo kernel calls) :
    {cell | usage (Run.exec (flipStep code geo) kernel calls).mem cell = true} =
        symmDiff {cell | usage kernel.mem cell = true}
          {cell | namedOdd (named geo calls) cell = true} ∧
      NetEffect code geo (named geo calls) kernel.mem
        (Run.exec (flipStep code geo) kernel calls).mem ∧
      (forall reordered : List FlipCall, calls.Perm reordered ->
        AllSucceed code geo kernel reordered ∧
          (Run.exec (flipStep code geo) kernel reordered).mem =
            (Run.exec (flipStep code geo) kernel calls).mem) ∧
      ((forall cell, namedOdd (named geo calls) cell = false) ->
        (Run.exec (flipStep code geo) kernel calls).mem.bitmap = kernel.mem.bitmap ∧
          (Run.exec (flipStep code geo) kernel calls).mem.freeclustersCounter =
            kernel.mem.freeclustersCounter ∧
          forall group,
            (Run.exec (flipStep code geo) kernel calls).mem.freeCount code group =
                kernel.mem.freeCount code group ∧
              (code.ext4BlockBitmapCsumVerify (kernel.mem.desc group)
                  (kernel.mem.bitmap group) = true ->
                code.ext4GroupDescCsumVerify group (kernel.mem.desc group) = true ->
                (Run.exec (flipStep code geo) kernel calls).mem.desc group =
                  kernel.mem.desc group)) := by
  have closed := exec_mem_of_success lawful fits counts inRange success
  refine ⟨used_exec_symmDiff lawful fits counts inRange success,
    exec_netEffect lawful fits counts inRange success, ?_, ?_⟩
  · intro reordered permutation
    have stillSuccess : AllSucceed code geo kernel reordered :=
      (allSucceed_iff kernel reordered).mpr fun call member =>
        (allSucceed_iff kernel calls).mp success call (permutation.mem_iff.mpr member)
    refine ⟨stillSuccess, ?_⟩
    rw [closed, exec_mem_of_success lawful fits counts
      (fun call member => inRange call (permutation.mem_iff.mpr member)) stillSuccess]
    exact (netMemory_perm (permutation.map _) kernel.mem).symm
  · intro even
    rw [closed]
    exact netMemory_even lawful fits counts (fun _ => touched_named_present inRange) even

/-- Both polarities, a repeated block and the short group. -/
theorem flips_symmetric_difference_sample :
    NetEffect GdtCsum.volumeCode GdtCsum.volume
      (named GdtCsum.volume [{ blockNumber := 7 }, { blockNumber := 39999 }, { blockNumber := 7 }])
      sampleKernel.mem
      (Run.exec (flipStep GdtCsum.volumeCode GdtCsum.volume) sampleKernel
        [{ blockNumber := 7 }, { blockNumber := 39999 }, { blockNumber := 7 }]).mem :=
  (flips_symmetric_difference GdtCsum.volumeCode_lawful GdtCsum.volume_countsFit sampleKernel
    [{ blockNumber := 7 }, { blockNumber := 39999 }, { blockNumber := 7 }]
    sampleKernel_consistent.counts (by decide)
    ((allSucceed_iff _ _).mpr (by decide))).2.1

/-! ## Stale checksums -/

/-- A memory whose counts are right and whose first descriptor checksum is not. -/
def staleKernel : Kernel :=
  { sampleKernel with
    mem := sampleKernel.mem.writeDesc 0 (GdtCsum.staleDesc (sampleKernel.mem.desc 0)) }

theorem staleKernel_desc :
    staleKernel.mem.desc 0 = GdtCsum.staleDesc (sampleKernel.mem.desc 0) := by
  simp only [staleKernel, Memory.writeDesc, Function.update_self]

theorem staleKernel_freeCount (group : Nat) :
    staleKernel.mem.freeCount GdtCsum.volumeCode group =
      sampleKernel.mem.freeCount GdtCsum.volumeCode group := by
  unfold Memory.freeCount
  by_cases first : group = 0
  · rw [first, staleKernel_desc]
    exact congrArg UInt32.toNat (GdtCsum.freeCount_staleDesc _ _ _)
  · simp only [staleKernel, Memory.writeDesc, Function.update_of_ne first]

theorem staleKernel_countsMatch :
    staleKernel.mem.CountsMatch GdtCsum.volumeCode GdtCsum.volume where
  group_count := by
    intro group present
    rw [staleKernel_freeCount]
    exact sampleKernel_consistent.counts.group_count group present
  global_count := by
    simp only [staleKernel_freeCount]
    exact sampleKernel_consistent.counts.global_count

theorem staleKernel_descVerify :
    GdtCsum.volumeCode.ext4GroupDescCsumVerify 0 (staleKernel.mem.desc 0) = false := by
  rw [staleKernel_desc]
  exact GdtCsum.descVerify_staleDesc _ _
    (sampleKernel_consistent.checksums.desc_csum 0 (by decide))

/-- Two successful flips of block 1000 on matching counts: the descriptor is
not the old one, because its stale checksum has been replaced by a right one. -/
theorem stale_checksum_not_restored :
    staleKernel.mem.CountsMatch GdtCsum.volumeCode GdtCsum.volume ∧
      AllSucceed GdtCsum.volumeCode GdtCsum.volume staleKernel
        [{ blockNumber := 1000 }, { blockNumber := 1000 }] ∧
      (Run.exec (flipStep GdtCsum.volumeCode GdtCsum.volume) staleKernel
        [{ blockNumber := 1000 }, { blockNumber := 1000 }]).mem.desc 0 ≠
          staleKernel.mem.desc 0 := by
  have success : AllSucceed GdtCsum.volumeCode GdtCsum.volume staleKernel
      [{ blockNumber := 1000 }, { blockNumber := 1000 }] :=
    (allSucceed_iff _ _).mpr (by decide)
  refine ⟨staleKernel_countsMatch, success, ?_⟩
  have effect := exec_netEffect GdtCsum.volumeCode_lawful GdtCsum.volume_countsFit
    staleKernel_countsMatch (by decide) success
  intro restored
  have valid := (effect.touched 0 (by decide)).2
  rw [restored, staleKernel_descVerify] at valid
  exact absurd valid (by decide)

end

end FreeSpace
end Evfs
