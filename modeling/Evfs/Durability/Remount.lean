import Evfs.Durability.CrashConsistency
import Evfs.Ext4.Mount
import Evfs.FreeSpace.SymmetricDifference

namespace Evfs
namespace Durability

open Foundation Ext4 FreeSpace

/-!
# Unmount and remount

The handler maintains bits, counts and checksums, and no descriptor flag.  A
group that still carries `EXT4_BG_BLOCK_UNINIT` keeps it, so on a volume with
descriptor checksums the next mount makes up the bitmap of that group and
never looks at the flipped one.  The descriptor count, which has followed the
flips, is kept.

A run of successful flips survives exactly when the final bitmap of every such
group is the one that would be made up.  For a group whose bitmap is as it was
read, this means that no cluster of it is flipped an odd number of times.
-/

section

variable (code : Ext4Code) (geo : Geometry) (features : Features) (metadata : Nat -> Bitmap)

/-- What a remount has to preserve, with the memory before the unmount and
the one after the mount. -/
structure Survives (before after : Memory) : Prop where
  bitmap : forall group, group < geo.groupsCount -> after.bitmap group = before.bitmap group
  count : forall group, group < geo.groupsCount ->
    after.freeCount code group = before.freeCount code group
  agree : forall group, group < geo.groupsCount ->
    after.freeCount code group = after.freeBits geo group
  counter : after.freeclustersCounter = before.freeclustersCounter

/-- The named flips turn the bitmap of every lazy group into the one that a
lazy read makes up. -/
def LazyGroupsRestored (mem : Memory) (cells : List Cell) : Prop :=
  forall group, group < geo.groupsCount -> lazyBitmap features (mem.desc group) = true ->
    forall offset, Bool.xor (mem.bitmap group offset) (namedOdd cells (group, offset)) =
      metadata group offset

variable {code geo features metadata}

/-- A remount keeps descriptors and counter of a coherent volume whatever the
flags are, so only the bitmaps decide. -/
theorem survives_iff {disk : Disk geo} {kernel : Kernel} (counts : kernel.mem.CountsMatch code geo)
    (coherent : Coherent features metadata disk kernel) (records : Memory) :
    Survives code geo kernel.mem
        (mount code features metadata (disk.writeBack kernel) records) ↔
      forall group, group < geo.groupsCount ->
        lazyBitmap features (kernel.mem.desc group) = true ->
          kernel.mem.bitmap group = metadata group := by
  have count : forall group,
      (mount code features metadata (disk.writeBack kernel) records).freeCount code group =
        kernel.mem.freeCount code group := by
    intro group
    exact congrArg (fun desc => (code.ext4FreeGroupClusters desc).toNat)
      (coherent.desc_writeBack group)
  constructor
  · intro survives group present
    exact (coherent.bitmap_mount_iff records group).mp (survives.bitmap group present)
  · intro restored
    have bitmap : forall group, group < geo.groupsCount ->
        (mount code features metadata (disk.writeBack kernel) records).bitmap group =
          kernel.mem.bitmap group :=
      fun group present => (coherent.bitmap_mount_iff records group).mpr (restored group present)
    refine ⟨bitmap, fun group _ => count group, ?_, ?_⟩
    · intro group present
      rw [count group, counts.group_count group present]
      unfold Memory.freeBits
      rw [bitmap group present]
    · rw [mount_freeclustersCounter, counts.global_count]
      simp only [count]

/-- Successful calls on the volume keep counts and coherence. -/
theorem exec_coherent (lawful : code.Lawful geo) (fits : geo.CountsFit)
    {disk : Disk geo} {kernel : Kernel} {calls : List FlipCall}
    (counts : kernel.mem.CountsMatch code geo)
    (coherent : Coherent features metadata disk kernel)
    (inRange : forall call, call ∈ calls -> geo.InRange call.blockNumber.toNat)
    (success : AllSucceed code geo kernel calls) :
    (Run.exec (flipStep code geo) kernel calls).mem.CountsMatch code geo ∧
      Coherent features metadata disk (Run.exec (flipStep code geo) kernel calls) := by
  have clean : forall call, call ∈ calls ->
      geo.InRange call.blockNumber.toNat ∧ call.Registers code geo := by
    intro call member
    rcases (allSucceed_iff kernel calls).mp success call member with ⟨-, quiet⟩
    rcases call.lateError_eq_none_iff.mp quiet with ⟨bitmapAdded, descAdded, -⟩
    exact ⟨inRange call member, fun _ => ⟨bitmapAdded, descAdded⟩⟩
  have always := Run.always_of_step
    (fun state : Kernel => state.mem.CountsMatch code geo ∧ Coherent features metadata disk state)
    (fun state call admitted before =>
      And.intro
        (flipStep_keeps lawful (fun mem => mem.CountsMatch code geo)
          (fun _ _ _ present inside => flipMemory_countsMatch lawful fits present inside)
          state call admitted.1 before.1)
        (before.2.after_flip lawful admitted.2))
    ⟨counts, coherent⟩ calls clean
  exact Run.always_exec always

/-- The condition on the final memory, in terms of the initial one. -/
theorem lazyGroupsRestored_iff {cells : List Cell} {before after : Memory}
    (effect : NetEffect code geo cells before after) :
    LazyGroupsRestored geo features metadata before cells ↔
      forall group, group < geo.groupsCount -> lazyBitmap features (after.desc group) = true ->
        after.bitmap group = metadata group := by
  unfold LazyGroupsRestored
  apply forall_congr'
  intro group
  have flags : lazyBitmap features (after.desc group) =
      lazyBitmap features (before.desc group) := by
    unfold lazyBitmap
    rw [GroupDesc.blockUninit_eq_of_others (effect.other_fields group)]
  have bits : forall offset, after.bitmap group offset =
      Bool.xor (before.bitmap group offset) (namedOdd cells (group, offset)) :=
    fun offset => effect.bits (group, offset)
  rw [flags, funext_iff]
  simp only [bits]

/-- For lazy groups whose bitmaps are as they were read, the condition is that
none of their clusters is named an odd number of times. -/
theorem lazyGroupsRestored_iff_even {disk : Disk geo} {kernel : Kernel}
    (coherent : Coherent features metadata disk kernel)
    (asRead : forall group, lazyBitmap features (kernel.mem.desc group) = true ->
      .bitmap group ∉ kernel.dirtied) (cells : List Cell) :
    LazyGroupsRestored geo features metadata kernel.mem cells ↔
      forall group, group < geo.groupsCount ->
        lazyBitmap features (kernel.mem.desc group) = true ->
          forall offset, namedOdd cells (group, offset) = false := by
  unfold LazyGroupsRestored
  apply forall_congr'
  intro group
  apply imp_congr_right
  intro _
  apply imp_congr_right
  intro uninit
  have read := coherent.bitmaps group (asRead group uninit)
  unfold readBitmap at read
  rw [if_pos uninit] at read
  apply forall_congr'
  intro offset
  rw [read]
  cases metadata group offset <;> simp

/-- A run of successful flips survives the remount if and only if it leaves
every lazy group as a lazy read would make it up. -/
theorem remount_survives_iff (lawful : code.Lawful geo) (fits : geo.CountsFit)
    (disk : Disk geo) (kernel : Kernel) (records : Memory) (calls : List FlipCall)
    (counts : kernel.mem.CountsMatch code geo)
    (coherent : Coherent features metadata disk kernel)
    (inRange : forall call, call ∈ calls -> geo.InRange call.blockNumber.toNat)
    (success : AllSucceed code geo kernel calls) :
    Survives code geo (Run.exec (flipStep code geo) kernel calls).mem
        (mount code features metadata
          (disk.writeBack (Run.exec (flipStep code geo) kernel calls)) records) ↔
      LazyGroupsRestored geo features metadata kernel.mem (named geo calls) := by
  have final := exec_coherent lawful fits counts coherent inRange success
  have effect := exec_netEffect lawful fits counts inRange success
  rw [survives_iff final.1 final.2 records, lazyGroupsRestored_iff effect]

/-! ## Instances -/

/-- The features of the sample volume. -/
def sampleFeatures : Features := { gdtCsum := true, metadataCsum := false, chksumDriver := false }

/-- The metadata of each sample group is in its first 600 clusters. -/
def sampleMetadata : Nat -> Bitmap := fun _ offset => decide (offset < 600)

def lazyDesc : GroupDesc := { GroupDesc.zero with flags := GroupDesc.bgBlockUninit }

/-- The sample volume with `EXT4_BG_BLOCK_UNINIT` in every descriptor. -/
def lazyKernel : Kernel where
  mem := memoryOf GdtCsum.volumeCode GdtCsum.volume (fun _ => lazyDesc)
    fun cell => sampleMetadata cell.1 cell.2
  dirtied := []
  trace := []

/-- Its disk, with a block bitmap that was never written. -/
def lazyDisk : Disk GdtCsum.volume :=
  Disk.imageOf GdtCsum.volume { lazyKernel.mem with bitmap := fun _ _ => false }

theorem lazyKernel_countsMatch : lazyKernel.mem.CountsMatch GdtCsum.volumeCode GdtCsum.volume :=
  (memoryOf_consistent GdtCsum.volumeCode_lawful GdtCsum.volume_countsFit _ _).counts

theorem lazyKernel_lazy (group : Nat) :
    lazyBitmap sampleFeatures (lazyKernel.mem.desc group) = true := by
  have kept : (lazyKernel.mem.desc group).others = lazyDesc.others :=
    Ext4Code.others_updateDesc GdtCsum.volumeCode_lawful group _ _ _
  unfold lazyBitmap
  rw [GroupDesc.blockUninit_eq_of_others kept]
  decide

theorem lazyKernel_coherent : Coherent sampleFeatures sampleMetadata lazyDisk lazyKernel where
  descs := fun group _ =>
    (Disk.desc_imageOf { lazyKernel.mem with bitmap := fun _ _ => false } group).symm
  bitmaps := by
    intro group _
    unfold readBitmap
    rw [if_pos (lazyKernel_lazy group)]
    rfl

/-- Two flips of one block of a lazy group. -/
theorem remount_survives_iff_sample :
    Survives GdtCsum.volumeCode GdtCsum.volume
      (Run.exec (flipStep GdtCsum.volumeCode GdtCsum.volume) lazyKernel
        [{ blockNumber := 39000 }, { blockNumber := 39000 }]).mem
      (mount GdtCsum.volumeCode sampleFeatures sampleMetadata
        (lazyDisk.writeBack (Run.exec (flipStep GdtCsum.volumeCode GdtCsum.volume) lazyKernel
          [{ blockNumber := 39000 }, { blockNumber := 39000 }])) lazyKernel.mem) :=
  (remount_survives_iff GdtCsum.volumeCode_lawful GdtCsum.volume_countsFit lazyDisk lazyKernel
    lazyKernel.mem [{ blockNumber := 39000 }, { blockNumber := 39000 }] lazyKernel_countsMatch
    lazyKernel_coherent (by decide) ((allSucceed_iff _ _).mpr (by decide))).mpr
    ((lazyGroupsRestored_iff_even lazyKernel_coherent (fun _ _ => List.not_mem_nil) _).mpr (by
      intro group _ _ offset
      change namedOdd [((1, 6232) : Cell), (1, 6232)] (group, offset) = false
      rw [namedOdd_cons, namedOdd_cons, namedOdd_nil, Bool.xor_false, Bool.xor_self]))

/-- One flip of block 39000 in a lazy group is lost: after the remount the bit
is clear again, while the descriptor count is still one less. -/
theorem lazy_flip_lost :
    ¬ Survives GdtCsum.volumeCode GdtCsum.volume
      (Run.exec (flipStep GdtCsum.volumeCode GdtCsum.volume) lazyKernel
        [{ blockNumber := 39000 }]).mem
      (mount GdtCsum.volumeCode sampleFeatures sampleMetadata
        (lazyDisk.writeBack (Run.exec (flipStep GdtCsum.volumeCode GdtCsum.volume) lazyKernel
          [{ blockNumber := 39000 }])) lazyKernel.mem) := by
  have success : AllSucceed GdtCsum.volumeCode GdtCsum.volume lazyKernel
      [{ blockNumber := 39000 }] := (allSucceed_iff _ _).mpr (by decide)
  have final := exec_coherent GdtCsum.volumeCode_lawful GdtCsum.volume_countsFit
    lazyKernel_countsMatch lazyKernel_coherent (by decide) success
  have effect := exec_netEffect GdtCsum.volumeCode_lawful GdtCsum.volume_countsFit
    lazyKernel_countsMatch (by decide) success
  rw [survives_iff final.1 final.2, ← lazyGroupsRestored_iff effect,
    lazyGroupsRestored_iff_even lazyKernel_coherent (fun _ _ => List.not_mem_nil)]
  intro even
  exact absurd (even 1 (by decide) (lazyKernel_lazy 1) 6232) (by decide)

end

end Durability
end Evfs
