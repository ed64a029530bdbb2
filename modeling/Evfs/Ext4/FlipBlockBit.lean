import Evfs.Ext4.Kernel

namespace Evfs
namespace Ext4

open Foundation

/-!
# The block-bit flip

`flipBlockBit` is the `EXT4_IOC_FLIP_BLOCK_BIT` case of `__ext4_evfs_ioctl`.
Its nine fallible operations take their results from a `Faults` value, with
one restriction: the bitmap and the descriptor of a group that does not exist
cannot be read, whatever the schedule says.

A call either is refused before the first store, or performs all five updates
of `flipMemory` and may still report a later error.  The specification theorems
at the end say this as equations in the inputs of the call.  Nothing after this
module unfolds the handler again.
-/

/-- The results of the fallible operations of one call.  The default is a call
in which nothing fails. -/
structure Faults where
  copyFromUser : Bool := false
  readBlockBitmap : Option Errno := none
  getGroupDesc : Bool := false
  journalStart : Option Errno := none
  bitmapWriteAccess : Option Errno := none
  descWriteAccess : Option Errno := none
  dirtyBitmap : Option Errno := none
  dirtyDesc : Option Errno := none
  journalStop : Option Errno := none
deriving DecidableEq, Repr

/-- One call: the number found at the user pointer, and a fault schedule. -/
structure FlipCall where
  blockNumber : UInt64
  faults : Faults := {}
deriving DecidableEq, Repr

variable (code : Ext4Code) (geo : Geometry)

/-- `ext4_read_block_bitmap`, reduced to whether it fails. -/
def ext4ReadBlockBitmap (faults : Faults) (group : Nat) : Option Errno :=
  if geo.groupsCount ≤ group then some .efscorrupted else faults.readBlockBitmap

/-- `ext4_get_group_desc`, reduced to whether it returns a null pointer. -/
def ext4GetGroupDescFails (faults : Faults) (group : Nat) : Bool :=
  decide (geo.groupsCount ≤ group) || faults.getGroupDesc

/-! ## The handler -/

/-- The stores between the last `ext4_journal_get_write_access` and the first
`ext4_handle_dirty_metadata`. -/
def flipBit (group offset : Nat) (kernel : Kernel) : Kernel :=
  let wasSet := kernel.mem.bitmap group offset
  let kernel := kernel.log (.testBit group offset)
  let kernel :=
    if wasSet then
      kernel.perform (.writeBit group offset false) (Memory.writeBit group offset false)
    else
      kernel.perform (.writeBit group offset true) (Memory.writeBit group offset true)
  -- the descriptor count, read and written back without a lock
  let free := code.ext4FreeGroupClusters (kernel.mem.desc group)
  let count := if wasSet then free + 1 else free - 1
  let kernel := kernel.perform (.freeGroupClustersSet group)
    (fun mem => mem.writeDesc group (code.ext4FreeGroupClustersSet (mem.desc group) count))
  let amount : Int := if wasSet then 1 else -1
  let kernel := kernel.perform (.percpuCounterAdd amount) (Memory.addFreeclusters amount)
  let kernel := kernel.perform (.blockBitmapCsumSet group)
    (fun mem => mem.writeDesc group
      (code.ext4BlockBitmapCsumSet (mem.desc group) (mem.bitmap group)))
  kernel.perform (.groupDescCsumSet group)
    (fun mem => mem.writeDesc group (code.ext4GroupDescCsumSet group (mem.desc group)))

/-- The label `out_journal`.  The result of this stop is discarded. -/
def outJournal (faults : Faults) (group : Nat) (err : Errno) (kernel : Kernel) : Kernel × Int :=
  ((kernel.log (.journalStop faults.journalStop)).log (.brelse (.bitmap group)), err.code)

/-- The case `EXT4_IOC_FLIP_BLOCK_BIT` of `__ext4_evfs_ioctl`. -/
def flipBlockBit (call : FlipCall) (kernel : Kernel) : Kernel × Int :=
  let faults := call.faults
  let kernel := kernel.log (.copyFromUser faults.copyFromUser)
  if faults.copyFromUser then (kernel, Errno.efault.code) else
  let group := (code.ext4GetGroupNoAndOffset call.blockNumber).1
  let offset := (code.ext4GetGroupNoAndOffset call.blockNumber).2
  let kernel := kernel.log (.readBlockBitmap group (ext4ReadBlockBitmap geo faults group))
  match ext4ReadBlockBitmap geo faults group with
  | some err => (kernel, err.code)
  | none =>
  let kernel := kernel.log (.getGroupDesc group (ext4GetGroupDescFails geo faults group))
  if ext4GetGroupDescFails geo faults group then
    (kernel.log (.brelse (.bitmap group)), Errno.eio.code) else
  let descriptorBh := Buffer.descriptor (geo.descBlock group)
  let kernel := kernel.log (.journalStart 3 faults.journalStart)
  match faults.journalStart with
  | some err => (kernel.log (.brelse (.bitmap group)), err.code)
  | none =>
  let kernel := kernel.log (.getWriteAccess (.bitmap group) faults.bitmapWriteAccess)
  match faults.bitmapWriteAccess with
  | some err => outJournal faults group err kernel
  | none =>
  let kernel := kernel.log (.getWriteAccess descriptorBh faults.descWriteAccess)
  match faults.descWriteAccess with
  | some err => outJournal faults group err kernel
  | none =>
  let kernel := flipBit code group offset kernel
  let kernel := kernel.handleDirtyMetadata (.bitmap group) faults.dirtyBitmap
  match faults.dirtyBitmap with
  | some err => outJournal faults group err kernel
  | none =>
  let kernel := kernel.handleDirtyMetadata descriptorBh faults.dirtyDesc
  match faults.dirtyDesc with
  | some err => outJournal faults group err kernel
  | none =>
  ((kernel.log (.journalStop faults.journalStop)).log (.brelse (.bitmap group)),
    Errno.result faults.journalStop)

/-! ## What the inputs of a call decide -/

namespace FlipCall

variable (call : FlipCall)

def group : Nat := (code.ext4GetGroupNoAndOffset call.blockNumber).1

def offset : Nat := (code.ext4GetGroupNoAndOffset call.blockNumber).2

/-- The error of the first operation that fails before the stores. -/
def refusal : Option Errno :=
  if call.faults.copyFromUser then some .efault
  else if geo.groupsCount ≤ call.group code then some .efscorrupted
  else call.faults.readBlockBitmap.or
    ((if call.faults.getGroupDesc then some .eio else none).or
      (call.faults.journalStart.or
        (call.faults.bitmapWriteAccess.or call.faults.descWriteAccess)))

/-- The error of the first operation that fails after the stores. -/
def lateError : Option Errno :=
  call.faults.dirtyBitmap.or (call.faults.dirtyDesc.or call.faults.journalStop)

/-- The call reaches the stores. -/
def Granted : Prop := call.refusal code geo = none

instance : Decidable (call.Granted code geo) :=
  inferInstanceAs (Decidable (call.refusal code geo = none))

/-- The buffers that the call adds to the running transaction. -/
def registered : List Buffer :=
  if call.Granted code geo then
    match call.faults.dirtyBitmap, call.faults.dirtyDesc with
    | some _, _ => []
    | none, some _ => [.bitmap (call.group code)]
    | none, none => [.descriptor (geo.descBlock (call.group code)), .bitmap (call.group code)]
  else []

theorem granted_iff : call.Granted code geo ↔
    call.faults.copyFromUser = false ∧ call.group code < geo.groupsCount ∧
      call.faults.readBlockBitmap = none ∧ call.faults.getGroupDesc = false ∧
      call.faults.journalStart = none ∧ call.faults.bitmapWriteAccess = none ∧
      call.faults.descWriteAccess = none := by
  unfold Granted refusal
  cases copied : call.faults.copyFromUser with
  | true => simp
  | false =>
      by_cases inside : call.group code < geo.groupsCount
      · cases found : call.faults.getGroupDesc <;>
          simp [Nat.not_le.mpr inside, inside, Option.or_eq_none_iff]
      · simp [Nat.not_lt.mp inside, inside]

/-- The same in the words of the operations that the handler performs. -/
theorem granted_iff_operations : call.Granted code geo ↔
    call.faults.copyFromUser = false ∧
      ext4ReadBlockBitmap geo call.faults (call.group code) = none ∧
      ext4GetGroupDescFails geo call.faults (call.group code) = false ∧
      call.faults.journalStart = none ∧ call.faults.bitmapWriteAccess = none ∧
      call.faults.descWriteAccess = none := by
  rw [granted_iff, ext4ReadBlockBitmap, ext4GetGroupDescFails]
  by_cases outside : geo.groupsCount ≤ call.group code
  · simp [outside, Nat.not_lt.mpr outside]
  · simp [outside, Nat.not_le.mp outside]

theorem lateError_eq_none_iff : call.lateError = none ↔
    call.faults.dirtyBitmap = none ∧ call.faults.dirtyDesc = none ∧
      call.faults.journalStop = none := by
  rw [lateError, Option.or_eq_none_iff, Option.or_eq_none_iff]

/-- A granted call whose buffers are both accepted adds both. -/
theorem registered_of_clean {code : Ext4Code} {geo : Geometry} {call : FlipCall}
    (granted : call.Granted code geo) (bitmapAdded : call.faults.dirtyBitmap = none)
    (descAdded : call.faults.dirtyDesc = none) :
    call.registered code geo =
      [.descriptor (geo.descBlock (call.group code)), .bitmap (call.group code)] := by
  rw [registered, if_pos granted, bitmapAdded, descAdded]

theorem Granted.group_lt {code : Ext4Code} {geo : Geometry} {call : FlipCall}
    (granted : call.Granted code geo) : call.group code < geo.groupsCount :=
  ((granted_iff code geo call).mp granted).2.1

end FlipCall

/-! ## The memory effect of the stores -/

/-- The new count: one more for a bit that was set, one less for a clear one. -/
def countAfter (wasSet : Bool) (free : UInt32) : UInt32 :=
  if wasSet then free + 1 else free - 1

/-- The change of the global counter. -/
def counterDelta (wasSet : Bool) : Int := if wasSet then 1 else -1

/-- The five updates as one record: bit, count, two checksums, counter. -/
def flipMemory (group offset : Nat) (mem : Memory) : Memory :=
  let bits := toggle (mem.bitmap group) offset
  let count := countAfter (mem.bitmap group offset)
    (code.ext4FreeGroupClusters (mem.desc group))
  { mem with
    bitmap := Function.update mem.bitmap group bits
    desc := Function.update mem.desc group
      (code.updateDesc group count bits (mem.desc group))
    freeclustersCounter := mem.freeclustersCounter + counterDelta (mem.bitmap group offset) }

/-- The stores of the handler, in their order, are one `flipMemory`. -/
theorem flipBit_mem (group offset : Nat) (kernel : Kernel) :
    (flipBit code group offset kernel).mem = flipMemory code group offset kernel.mem := by
  cases wasSet : kernel.mem.bitmap group offset <;>
    simp only [flipBit, flipMemory, wasSet, Bool.false_eq_true, if_true, if_false,
      Kernel.perform_mem, Kernel.log_mem, Memory.writeBit, Memory.writeDesc,
      Memory.addFreeclusters, Function.update_self, Function.update_idem,
      countAfter, counterDelta, toggle, Ext4Code.updateDesc, Bool.not_false, Bool.not_true]

@[simp] theorem flipBit_dirtied (group offset : Nat) (kernel : Kernel) :
    (flipBit code group offset kernel).dirtied = kernel.dirtied := by
  cases wasSet : kernel.mem.bitmap group offset <;>
    simp only [flipBit, wasSet, Bool.false_eq_true, if_true, if_false,
      Kernel.perform_dirtied, Kernel.log_dirtied]

/-! ## A call in three parts -/

/-- The operations of a call before its stores.  Where one of them fails the
list ends with the clean-up. -/
def FlipCall.beforeStores (call : FlipCall) : List Op :=
  let faults := call.faults
  let group := call.group code
  .copyFromUser faults.copyFromUser ::
  if faults.copyFromUser then [] else
  .readBlockBitmap group (ext4ReadBlockBitmap geo faults group) ::
  match ext4ReadBlockBitmap geo faults group with
  | some _ => []
  | none =>
  .getGroupDesc group (ext4GetGroupDescFails geo faults group) ::
  if ext4GetGroupDescFails geo faults group then [.brelse (.bitmap group)] else
  .journalStart 3 faults.journalStart ::
  match faults.journalStart with
  | some _ => [.brelse (.bitmap group)]
  | none =>
  .getWriteAccess (.bitmap group) faults.bitmapWriteAccess ::
  match faults.bitmapWriteAccess with
  | some _ => [.journalStop faults.journalStop, .brelse (.bitmap group)]
  | none =>
  .getWriteAccess (.descriptor (geo.descBlock group)) faults.descWriteAccess ::
  match faults.descWriteAccess with
  | some _ => [.journalStop faults.journalStop, .brelse (.bitmap group)]
  | none => []

/-- The state in which a granted call starts its stores. -/
def opened (call : FlipCall) (kernel : Kernel) : Kernel :=
  { kernel with trace := kernel.trace ++ call.beforeStores code geo }

/-- The handler from the first `ext4_handle_dirty_metadata` on. -/
def closing (call : FlipCall) (kernel : Kernel) : Kernel × Int :=
  let kernel := kernel.handleDirtyMetadata (.bitmap (call.group code)) call.faults.dirtyBitmap
  match call.faults.dirtyBitmap with
  | some err => outJournal call.faults (call.group code) err kernel
  | none =>
  let kernel := kernel.handleDirtyMetadata (.descriptor (geo.descBlock (call.group code)))
    call.faults.dirtyDesc
  match call.faults.dirtyDesc with
  | some err => outJournal call.faults (call.group code) err kernel
  | none =>
  ((kernel.log (.journalStop call.faults.journalStop)).log (.brelse (.bitmap (call.group code))),
    Errno.result call.faults.journalStop)

/-- A refused call performs these operations and reports the first failure. -/
theorem flipBlockBit_of_refused {call : FlipCall} (refused : ¬ call.Granted code geo)
    (kernel : Kernel) : flipBlockBit code geo call kernel =
      (opened code geo call kernel, Errno.result (call.refusal code geo)) := by
  rcases call with ⟨blockNumber, copied, readErr, descNull, startErr, bitmapAccess, descAccess,
    dirtyBitmap, dirtyDesc, stopErr⟩
  unfold FlipCall.Granted FlipCall.refusal FlipCall.group at refused
  unfold flipBlockBit opened FlipCall.beforeStores FlipCall.refusal FlipCall.group
  dsimp only at refused ⊢
  cases copied with
  | true => rfl
  | false =>
  by_cases outside : geo.groupsCount ≤ (code.ext4GetGroupNoAndOffset blockNumber).1
  · simp [Kernel.log, ext4ReadBlockBitmap, outside]
  simp only [ext4ReadBlockBitmap, ext4GetGroupDescFails, if_neg outside,
    decide_eq_false outside, Bool.false_or, Bool.false_eq_true, if_false] at refused ⊢
  cases readErr with
  | some err => simp [Kernel.log]
  | none =>
  cases descNull with
  | true => simp [Kernel.log]
  | false =>
  cases startErr with
  | some err => simp [Kernel.log]
  | none =>
  cases bitmapAccess with
  | some err => simp [Kernel.log, outJournal]
  | none =>
  cases descAccess with
  | some err => simp [Kernel.log, outJournal]
  | none => exact absurd rfl refused

theorem FlipCall.beforeStores_of_granted {code : Ext4Code} {geo : Geometry} {call : FlipCall}
    (granted : call.Granted code geo) : call.beforeStores code geo =
      [.copyFromUser false, .readBlockBitmap (call.group code) none,
        .getGroupDesc (call.group code) false, .journalStart 3 none,
        .getWriteAccess (.bitmap (call.group code)) none,
        .getWriteAccess (.descriptor (geo.descBlock (call.group code))) none] := by
  rw [granted_iff] at granted
  rcases granted with ⟨copied, inside, readErr, descNull, startErr, bitmapAccess, descAccess⟩
  unfold beforeStores ext4ReadBlockBitmap ext4GetGroupDescFails
  simp [copied, Nat.not_le.mpr inside, readErr, descNull, startErr, bitmapAccess, descAccess]

/-- A granted call goes through all three parts. -/
theorem flipBlockBit_of_granted {call : FlipCall} (granted : call.Granted code geo)
    (kernel : Kernel) : flipBlockBit code geo call kernel =
      closing code geo call (flipBit code (call.group code) (call.offset code)
        (opened code geo call kernel)) := by
  unfold opened
  rw [FlipCall.beforeStores_of_granted granted]
  rw [FlipCall.granted_iff] at granted
  rcases granted with ⟨copied, inside, readErr, descNull, startErr, bitmapAccess, descAccess⟩
  have outside : ¬ geo.groupsCount ≤ (code.ext4GetGroupNoAndOffset call.blockNumber).1 :=
    Nat.not_le.mpr inside
  have logged : forall first second third fourth fifth sixth : Op,
      { kernel with trace := kernel.trace ++ [first, second, third, fourth, fifth, sixth] } =
        (((((kernel.log first).log second).log third).log fourth).log fifth).log sixth := by
    intros
    simp [Kernel.log]
  rw [logged]
  unfold flipBlockBit
  simp only [copied, readErr, descNull, startErr, bitmapAccess, descAccess, ext4ReadBlockBitmap,
    ext4GetGroupDescFails, if_neg outside, decide_eq_false outside, Bool.false_or,
    Bool.false_eq_true, if_false]
  rfl

/-! ## The operations of a call -/

/-- The operations of the stores, for the bit that was found. -/
def storeOps (group offset : Nat) (wasSet : Bool) : List Op :=
  [.testBit group offset, .writeBit group offset (!wasSet), .freeGroupClustersSet group,
    .percpuCounterAdd (counterDelta wasSet), .blockBitmapCsumSet group, .groupDescCsumSet group]

theorem flipBit_trace (group offset : Nat) (kernel : Kernel) :
    (flipBit code group offset kernel).trace =
      kernel.trace ++ storeOps group offset (kernel.mem.bitmap group offset) := by
  cases wasSet : kernel.mem.bitmap group offset <;>
    simp only [flipBit, storeOps, wasSet, counterDelta, Bool.false_eq_true, if_true, if_false,
      Bool.not_false, Bool.not_true, Kernel.perform_trace, Kernel.log_trace, List.append_assoc,
      List.cons_append, List.nil_append]

/-- The operations of a granted call after its stores.  A failure on the
bitmap leaves the descriptor out, and every path ends in the same clean-up. -/
def FlipCall.afterStores (call : FlipCall) : List Op :=
  let faults := call.faults
  let group := call.group code
  .handleDirtyMetadata (.bitmap group) faults.dirtyBitmap ::
  match faults.dirtyBitmap with
  | some _ => [.journalStop faults.journalStop, .brelse (.bitmap group)]
  | none =>
  [.handleDirtyMetadata (.descriptor (geo.descBlock group)) faults.dirtyDesc,
    .journalStop faults.journalStop, .brelse (.bitmap group)]

theorem closing_trace (call : FlipCall) (kernel : Kernel) :
    (closing code geo call kernel).1.trace = kernel.trace ++ call.afterStores code geo := by
  unfold closing FlipCall.afterStores
  cases dirtyBitmap : call.faults.dirtyBitmap with
  | some err => simp [outJournal, dirtyBitmap]
  | none =>
  cases dirtyDesc : call.faults.dirtyDesc with
  | some err => simp [outJournal, dirtyBitmap, dirtyDesc]
  | none => simp [dirtyBitmap, dirtyDesc]

/-- All operations of a call on a given memory, in order. -/
def FlipCall.operations (call : FlipCall) (mem : Memory) : List Op :=
  if call.Granted code geo then
    call.beforeStores code geo ++
      (storeOps (call.group code) (call.offset code)
        (mem.bitmap (call.group code) (call.offset code)) ++ call.afterStores code geo)
  else call.beforeStores code geo

theorem flipBlockBit_trace (call : FlipCall) (kernel : Kernel) :
    (flipBlockBit code geo call kernel).1.trace =
      kernel.trace ++ call.operations code geo kernel.mem := by
  unfold FlipCall.operations
  by_cases granted : call.Granted code geo
  · rw [flipBlockBit_of_granted code geo granted, closing_trace, flipBit_trace, if_pos granted]
    simp only [opened, List.append_assoc]
  · rw [flipBlockBit_of_refused code geo granted, if_neg granted]
    rfl

/-! ## Specification of a call -/

/-- The part after the stores: it changes no memory, and the first failing
operation decides the reply. -/
theorem closing_spec {call : FlipCall} (granted : call.Granted code geo) (kernel : Kernel) :
    (closing code geo call kernel).2 = Errno.result call.lateError ∧
      (closing code geo call kernel).1.mem = kernel.mem ∧
      (closing code geo call kernel).1.dirtied =
        call.registered code geo ++ kernel.dirtied := by
  unfold closing FlipCall.lateError FlipCall.registered
  rw [if_pos granted]
  cases call.faults.dirtyBitmap with
  | some err => simp [outJournal]
  | none =>
  cases call.faults.dirtyDesc with
  | some err => simp [outJournal]
  | none => simp

/-- Return value, memory and transaction after a call, as functions of its inputs. -/
theorem flipBlockBit_spec (call : FlipCall) (kernel : Kernel) :
    (flipBlockBit code geo call kernel).2 =
        Errno.result ((call.refusal code geo).or call.lateError) ∧
      (flipBlockBit code geo call kernel).1.mem =
        (if call.Granted code geo then
          flipMemory code (call.group code) (call.offset code) kernel.mem else kernel.mem) ∧
      (flipBlockBit code geo call kernel).1.dirtied =
        call.registered code geo ++ kernel.dirtied := by
  by_cases granted : call.Granted code geo
  · have closed := closing_spec code geo granted
      (flipBit code (call.group code) (call.offset code) (opened code geo call kernel))
    rw [flipBlockBit_of_granted code geo granted, if_pos granted,
      show call.refusal code geo = none from granted, Option.none_or]
    rwa [flipBit_mem, flipBit_dirtied] at closed
  · rw [flipBlockBit_of_refused code geo granted, if_neg granted]
    rcases Option.ne_none_iff_exists'.mp granted with ⟨err, refusal⟩
    refine ⟨?_, rfl, ?_⟩
    · rw [refusal, Option.some_or]
    · unfold FlipCall.registered
      rw [if_neg granted]
      rfl

theorem flipBlockBit_ret (call : FlipCall) (kernel : Kernel) :
    (flipBlockBit code geo call kernel).2 =
      Errno.result ((call.refusal code geo).or call.lateError) :=
  (flipBlockBit_spec code geo call kernel).1

theorem flipBlockBit_mem (call : FlipCall) (kernel : Kernel) :
    (flipBlockBit code geo call kernel).1.mem =
      if call.Granted code geo then
        flipMemory code (call.group code) (call.offset code) kernel.mem else kernel.mem :=
  (flipBlockBit_spec code geo call kernel).2.1

theorem flipBlockBit_dirtied (call : FlipCall) (kernel : Kernel) :
    (flipBlockBit code geo call kernel).1.dirtied =
      call.registered code geo ++ kernel.dirtied :=
  (flipBlockBit_spec code geo call kernel).2.2

/-- The handler as a transition of the kernel state, without its reply. -/
def flipStep (kernel : Kernel) (call : FlipCall) : Kernel := (flipBlockBit code geo call kernel).1

theorem flipStep_dirtied (kernel : Kernel) (call : FlipCall) :
    (flipStep code geo kernel call).dirtied = call.registered code geo ++ kernel.dirtied :=
  flipBlockBit_dirtied code geo call kernel

/-- A call returns zero exactly when nothing failed. -/
theorem flipBlockBit_ret_eq_zero_iff (call : FlipCall) (kernel : Kernel) :
    (flipBlockBit code geo call kernel).2 = 0 ↔
      call.Granted code geo ∧ call.lateError = none := by
  rw [flipBlockBit_ret, Errno.result_eq_zero_iff, Option.or_eq_none_iff]
  exact Iff.rfl

theorem flipStep_mem_of_granted {call : FlipCall} (granted : call.Granted code geo)
    (kernel : Kernel) : (flipStep code geo kernel call).mem =
      flipMemory code (call.group code) (call.offset code) kernel.mem := by
  unfold flipStep
  rw [flipBlockBit_mem, if_pos granted]

/-- A refused call reports an error and has stored nothing. -/
theorem flipStep_mem_of_refused {call : FlipCall} (refused : ¬ call.Granted code geo)
    (kernel : Kernel) : (flipStep code geo kernel call).mem = kernel.mem := by
  unfold flipStep
  rw [flipBlockBit_mem, if_neg refused]

/-- The step rule: a property of memory survives a call exactly when it
survives the flip of a granted one. -/
theorem flipStep_mem_iff (good : Memory -> Prop) {kernel : Kernel} (before : good kernel.mem)
    (call : FlipCall) :
    good (flipStep code geo kernel call).mem ↔
      (call.Granted code geo ->
        good (flipMemory code (call.group code) (call.offset code) kernel.mem)) := by
  by_cases granted : call.Granted code geo
  · rw [flipStep_mem_of_granted code geo granted]
    exact (imp_iff_right granted).symm
  · rw [flipStep_mem_of_refused code geo granted]
    exact iff_of_true before fun reached => absurd reached granted

theorem flipBlockBit_ret_of_refused {call : FlipCall} (refused : ¬ call.Granted code geo)
    (kernel : Kernel) : (flipBlockBit code geo call kernel).2 ≠ 0 := by
  intro success
  exact refused ((flipBlockBit_ret_eq_zero_iff code geo call kernel).mp success).1

/-- On the volume the handler addresses the cluster of the named block. -/
theorem FlipCall.place_of_inRange {code : Ext4Code} {geo : Geometry} (lawful : code.Lawful geo)
    {call : FlipCall} (inRange : geo.InRange call.blockNumber.toNat) :
    (call.group code, call.offset code) = geo.place call.blockNumber.toNat := by
  unfold FlipCall.group FlipCall.offset
  rw [lawful.locate, geo.groupNoAndOffset_of_inRange inRange]

theorem FlipCall.group_lt_of_inRange {code : Ext4Code} {geo : Geometry} (lawful : code.Lawful geo)
    {call : FlipCall} (inRange : geo.InRange call.blockNumber.toNat) :
    call.group code < geo.groupsCount := by
  have placed := congrArg Prod.fst (FlipCall.place_of_inRange lawful inRange)
  rw [show call.group code = _ from placed]
  exact Geometry.place_group_lt inRange

theorem FlipCall.offset_lt_of_inRange {code : Ext4Code} {geo : Geometry} (lawful : code.Lawful geo)
    {call : FlipCall} (inRange : geo.InRange call.blockNumber.toNat) :
    call.offset code < geo.clustersInGroup (call.group code) := by
  have placed := FlipCall.place_of_inRange lawful inRange
  rw [show call.offset code = _ from congrArg Prod.snd placed,
    show call.group code = _ from congrArg Prod.fst placed]
  exact Geometry.place_offset_lt inRange

end Ext4
end Evfs
