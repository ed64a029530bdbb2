import Evfs.Ext4.FlipBlockBit
import Evfs.Foundation.Journal

namespace Evfs
namespace Ext4

open Foundation

/-!
# Block contents on disk

The journal sees buffers: one block bitmap for each group, and descriptor
blocks that hold the descriptors of several groups.  A `Disk` gives the
contents of each buffer, and `imageOf` is what the buffers of a memory hold.
With the buffers that the handler passes to `ext4_handle_dirty_metadata` as the
running transaction, the kernel state is the cache of a redo journal.

A flip changes two buffers and no other.
-/

/-- The contents of a buffer.  A descriptor block is an array of descriptors. -/
def Contents (geo : Geometry) : Buffer -> Type
  | .bitmap _ => Bitmap
  | .descriptor _ => Fin geo.descPerBlock -> GroupDesc

/-- The contents of every buffer. -/
abbrev Disk (geo : Geometry) := Journal.Store (Contents geo)

/-- The index of a group's descriptor in its descriptor block. -/
def Geometry.descSlot (geo : Geometry) (group : Nat) : Fin geo.descPerBlock :=
  ⟨group % geo.descPerBlock, Nat.mod_lt group geo.desc_pos⟩

namespace Disk

variable {geo : Geometry}

def bitmap (disk : Disk geo) (group : Nat) : Bitmap := disk (.bitmap group)

def desc (disk : Disk geo) (group : Nat) : GroupDesc :=
  disk (.descriptor (geo.descBlock group)) (geo.descSlot group)

/-- The buffers of a memory. -/
def imageOf (geo : Geometry) (mem : Memory) : Disk geo
  | .bitmap group => mem.bitmap group
  | .descriptor block => fun slot => mem.desc (block * geo.descPerBlock + slot)

@[simp] theorem bitmap_imageOf (mem : Memory) (group : Nat) :
    bitmap (imageOf geo mem) group = mem.bitmap group := rfl

@[simp] theorem desc_imageOf (mem : Memory) (group : Nat) :
    desc (imageOf geo mem) group = mem.desc group := by
  change mem.desc (group / geo.descPerBlock * geo.descPerBlock + group % geo.descPerBlock) = _
  rw [Nat.div_add_mod']

theorem descBlock_slot (block : Nat) (slot : Fin geo.descPerBlock) :
    geo.descBlock (block * geo.descPerBlock + slot) = block := by
  unfold Geometry.descBlock
  rw [Nat.mul_comm, Nat.mul_add_div geo.desc_pos, Nat.div_eq_of_lt slot.isLt, Nat.add_zero]

theorem descSlot_slot (block : Nat) (slot : Fin geo.descPerBlock) :
    geo.descSlot (block * geo.descPerBlock + slot) = slot := by
  apply Fin.ext
  change (block * geo.descPerBlock + slot) % geo.descPerBlock = slot
  rw [Nat.mul_comm, Nat.mul_add_mod, Nat.mod_eq_of_lt slot.isLt]

/-- Buffers filled from a disk hold what the disk holds. -/
theorem imageOf_of_read {disk : Disk geo} {mem : Memory} (bitmaps : mem.bitmap = disk.bitmap)
    (descs : mem.desc = disk.desc) : imageOf geo mem = disk := by
  funext buffer
  cases buffer with
  | bitmap group => exact congrFun bitmaps group
  | descriptor block =>
      funext slot
      change mem.desc (block * geo.descPerBlock + slot) = _
      rw [descs]
      unfold desc
      rw [descBlock_slot, descSlot_slot]

/-- A flip changes the bitmap buffer and the descriptor buffer of its group. -/
theorem imageOf_flipMemory (code : Ext4Code) (group offset : Nat) (mem : Memory)
    {buffer : Buffer} (notBitmap : buffer ≠ .bitmap group)
    (notDescriptor : buffer ≠ .descriptor (geo.descBlock group)) :
    imageOf geo (flipMemory code group offset mem) buffer = imageOf geo mem buffer := by
  cases buffer with
  | bitmap other =>
      have different : other ≠ group := fun same => notBitmap (congrArg Buffer.bitmap same)
      exact Function.update_of_ne different _ _
  | descriptor block =>
      funext slot
      have different : block * geo.descPerBlock + slot ≠ group := by
        intro same
        apply notDescriptor
        rw [← same, descBlock_slot]
      exact Function.update_of_ne different _ _

/-! ## Writing back the running transaction -/

/-- The disk after the buffers of the running transaction have reached it. -/
def writeBack (disk : Disk geo) (kernel : Kernel) : Disk geo :=
  Journal.replay disk ⟨kernel.dirtied, imageOf geo kernel.mem⟩

theorem bitmap_writeBack (disk : Disk geo) (kernel : Kernel) (group : Nat) :
    bitmap (disk.writeBack kernel) group =
      if .bitmap group ∈ kernel.dirtied then kernel.mem.bitmap group else disk.bitmap group := by
  by_cases member : .bitmap group ∈ kernel.dirtied
  · rw [if_pos member]
    exact Journal.replay_of_mem disk member
  · rw [if_neg member]
    exact Journal.replay_of_not_mem disk member

theorem desc_writeBack (disk : Disk geo) (kernel : Kernel) (group : Nat) :
    desc (disk.writeBack kernel) group =
      if .descriptor (geo.descBlock group) ∈ kernel.dirtied then kernel.mem.desc group
      else disk.desc group := by
  by_cases member : .descriptor (geo.descBlock group) ∈ kernel.dirtied
  · rw [if_pos member, ← @desc_imageOf geo]
    exact congrFun (Journal.replay_of_mem disk member) (geo.descSlot group)
  · rw [if_neg member]
    exact congrFun (Journal.replay_of_not_mem disk member) (geo.descSlot group)

end Disk

/-! ## Which buffers a call adds to the transaction -/

/-- A call that reaches the stores adds both buffers to the transaction. -/
def FlipCall.Registers (code : Ext4Code) (geo : Geometry) (call : FlipCall) : Prop :=
  call.Granted code geo -> call.faults.dirtyBitmap = none ∧ call.faults.dirtyDesc = none

instance (code : Ext4Code) (geo : Geometry) (call : FlipCall) :
    Decidable (call.Registers code geo) :=
  inferInstanceAs (Decidable (_ -> _))

/-- The buffers that a registering call leaves out of the transaction were
outside it before and have their old contents. -/
theorem flipStep_covers {code : Ext4Code} {geo : Geometry} {call : FlipCall}
    (registers : call.Registers code geo) (kernel : Kernel) {buffer : Buffer}
    (absent : buffer ∉ (flipStep code geo kernel call).dirtied) :
    buffer ∉ kernel.dirtied ∧
      Disk.imageOf geo (flipStep code geo kernel call).mem buffer =
        Disk.imageOf geo kernel.mem buffer := by
  rw [flipStep_dirtied, List.mem_append, not_or] at absent
  rcases absent with ⟨listed, earlier⟩
  refine ⟨earlier, ?_⟩
  refine (flipStep_mem_iff code geo (fun mem =>
    Disk.imageOf geo mem buffer = Disk.imageOf geo kernel.mem buffer) rfl call).mpr ?_
  intro granted
  rcases registers granted with ⟨bitmapAdded, descAdded⟩
  rw [FlipCall.registered_of_clean granted bitmapAdded descAdded] at listed
  simp only [List.mem_cons, List.not_mem_nil, or_false, not_or] at listed
  exact Disk.imageOf_flipMemory code _ _ kernel.mem listed.2 listed.1

/-- The kernel state as the cache of the journal. -/
def journalCache (geo : Geometry) : Journal.Cache Kernel (Contents geo) where
  image := fun kernel => Disk.imageOf geo kernel.mem
  running := Kernel.dirtied
  restart := fun kernel => { kernel with dirtied := [] }
  image_restart := fun _ => rfl
  running_restart := fun _ => rfl

/-- The kernel state above a disk. -/
abbrev Volume (geo : Geometry) := Journal.Machine Kernel (Contents geo)

namespace Volume

variable (code : Ext4Code) (geo : Geometry)

/-- One flip, or one action of the journal between flips. -/
def next (volume : Volume geo) (event : Journal.Event Buffer FlipCall) : Volume geo :=
  Journal.Machine.next (journalCache geo) (flipStep code geo) volume event

theorem recovered_commit (volume : Volume geo) :
    (next code geo volume .commit).recovered = Disk.writeBack volume.recovered volume.state :=
  Journal.Machine.recovered_commit (journalCache geo) (flipStep code geo) volume

@[simp] theorem state_call (volume : Volume geo) (call : FlipCall) :
    (next code geo volume (.call call)).state = flipStep code geo volume.state call := rfl

@[simp] theorem recovered_call (volume : Volume geo) (call : FlipCall) :
    (next code geo volume (.call call)).recovered = volume.recovered := rfl

variable {geo}

/-- A volume whose buffers have just been read, over any values of the
records that are not on disk. -/
def mounted (disk : Disk geo) (records : Memory) : Volume geo where
  home := disk
  log := []
  state :=
    { mem := { records with bitmap := disk.bitmap, desc := disk.desc }
      dirtied := []
      trace := [] }

@[simp] theorem recovered_mounted (disk : Disk geo) (records : Memory) :
    (mounted disk records).recovered = disk := rfl

theorem imageOf_mounted (disk : Disk geo) (records : Memory) :
    Disk.imageOf geo (mounted disk records).state.mem = disk := Disk.imageOf_of_read rfl rfl

end Volume

end Ext4
end Evfs
