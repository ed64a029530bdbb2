import Evfs.Ext4.Disk

namespace Evfs
namespace Ext4

/-!
# Reading a volume from disk

An unmount writes the buffers of the running transaction back, and the next
mount reads everything again.  Descriptors are read as they are.  For a bitmap
the descriptor is consulted first: where descriptors have checksums and the
flags contain `EXT4_BG_BLOCK_UNINIT`, the contents on disk are not used, and
the bitmap is made up from the metadata of the group.  The global counter is
the sum of the descriptor counts.

Which bits the metadata of a group occupies is a parameter, as it is computed
in a file that this repository does not carry.
-/

/-- What `ext4_has_group_desc_csum` looks at. -/
structure Features where
  gdtCsum : Bool
  metadataCsum : Bool
  /-- `s_chksum_driver` is not null. -/
  chksumDriver : Bool
deriving DecidableEq, Repr

def ext4HasMetadataCsum (features : Features) : Bool :=
  features.metadataCsum && features.chksumDriver

def ext4HasGroupDescCsum (features : Features) : Bool :=
  features.gdtCsum || ext4HasMetadataCsum features

/-- The bitmap of a group with this descriptor is not read from disk. -/
def lazyBitmap (features : Features) (desc : GroupDesc) : Bool :=
  ext4HasGroupDescCsum features && desc.blockUninit

/-- The bitmap that `ext4_read_block_bitmap` returns for an uncached group.  The
argument `metadata` has the bits of the group's own metadata set. -/
def readBitmap (features : Features) (metadata : Bitmap) (desc : GroupDesc)
    (onDisk : Bitmap) : Bitmap :=
  if lazyBitmap features desc then metadata else onDisk

section

variable (code : Ext4Code) {geo : Geometry} (features : Features) (metadata : Nat -> Bitmap)

/-- The memory after a mount, over any values of the other records. -/
def mount (disk : Disk geo) (records : Memory) : Memory :=
  { records with
    bitmap := fun group =>
      readBitmap features (metadata group) (disk.desc group) (disk.bitmap group)
    desc := disk.desc
    freeclustersCounter := (Finset.range geo.groupsCount).sum fun group =>
      ((code.ext4FreeGroupClusters (disk.desc group)).toNat : Int) }

theorem mount_freeclustersCounter (disk : Disk geo) (records : Memory) :
    (mount code features metadata disk records).freeclustersCounter =
      (Finset.range geo.groupsCount).sum fun group =>
        ((mount code features metadata disk records).freeCount code group : Int) := rfl

/-- Every buffer outside the running transaction is as a read of the disk would
give it.  The descriptor that a bitmap read consults is the one in memory. -/
structure Coherent (disk : Disk geo) (kernel : Kernel) : Prop where
  descs : forall group, .descriptor (geo.descBlock group) ∉ kernel.dirtied ->
    kernel.mem.desc group = disk.desc group
  bitmaps : forall group, .bitmap group ∉ kernel.dirtied ->
    kernel.mem.bitmap group =
      readBitmap features (metadata group) (kernel.mem.desc group) (disk.bitmap group)

variable {code features metadata}

theorem lazyBitmap_flipStep (lawful : code.Lawful geo) (kernel : Kernel) (call : FlipCall)
    (group : Nat) :
    lazyBitmap features ((flipStep code geo kernel call).mem.desc group) =
      lazyBitmap features (kernel.mem.desc group) := by
  refine (flipStep_mem_iff code geo (fun mem : Memory =>
    lazyBitmap features (mem.desc group) = lazyBitmap features (kernel.mem.desc group))
    rfl call).mpr ?_
  intro _
  by_cases same : group = call.group code
  · subst same
    simp only [lazyBitmap, flipMemory, Function.update_self]
    rw [GroupDesc.blockUninit_eq_of_others (Ext4Code.others_updateDesc lawful _ _ _ _)]
  · simp only [flipMemory, Function.update_of_ne same]

/-- A call that registers what it changes keeps the volume coherent. -/
theorem Coherent.after_flip (lawful : code.Lawful geo) {disk : Disk geo} {kernel : Kernel}
    (coherent : Coherent features metadata disk kernel) {call : FlipCall}
    (registers : call.Registers code geo) :
    Coherent features metadata disk (flipStep code geo kernel call) where
  descs := by
    intro group absent
    have before := flipStep_covers registers kernel absent
    rw [← coherent.descs group before.1, ← @Disk.desc_imageOf geo kernel.mem,
      ← @Disk.desc_imageOf geo (flipStep code geo kernel call).mem]
    exact congrFun before.2 (geo.descSlot group)
  bitmaps := by
    intro group absent
    have before := flipStep_covers registers kernel absent
    have same : (flipStep code geo kernel call).mem.bitmap group = kernel.mem.bitmap group :=
      before.2
    rw [same, coherent.bitmaps group before.1]
    unfold readBitmap
    rw [lazyBitmap_flipStep lawful]

/-- After the write-back the descriptors on disk are those in memory. -/
theorem Coherent.desc_writeBack {disk : Disk geo} {kernel : Kernel}
    (coherent : Coherent features metadata disk kernel) (group : Nat) :
    (disk.writeBack kernel).desc group = kernel.mem.desc group := by
  rw [Disk.desc_writeBack]
  by_cases member : .descriptor (geo.descBlock group) ∈ kernel.dirtied
  · rw [if_pos member]
  · rw [if_neg member, coherent.descs group member]

/-- The bitmap of a group survives exactly when it is not lazy, or is what a
lazy read would make up. -/
theorem Coherent.bitmap_mount_iff {disk : Disk geo} {kernel : Kernel}
    (coherent : Coherent features metadata disk kernel) (records : Memory) (group : Nat) :
    (mount code features metadata (disk.writeBack kernel) records).bitmap group =
        kernel.mem.bitmap group ↔
      (lazyBitmap features (kernel.mem.desc group) = true ->
        kernel.mem.bitmap group = metadata group) := by
  unfold mount readBitmap
  dsimp only
  rw [coherent.desc_writeBack group]
  cases uninit : lazyBitmap features (kernel.mem.desc group) with
  | true =>
      simp only [if_true, forall_const]
      exact eq_comm
  | false =>
      simp only [Bool.false_eq_true, if_false, false_imp_iff, iff_true]
      rw [Disk.bitmap_writeBack]
      by_cases member : .bitmap group ∈ kernel.dirtied
      · rw [if_pos member]
      · rw [if_neg member, coherent.bitmaps group member]
        unfold readBitmap
        rw [uninit]
        rfl

end

end Ext4
end Evfs
