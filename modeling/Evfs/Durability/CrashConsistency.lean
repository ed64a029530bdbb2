import Evfs.Ext4.Disk
import Evfs.FreeSpace.Accounting

namespace Evfs
namespace Durability

open Foundation Ext4 FreeSpace

/-!
# Crash consistency

On a journalled mount a transaction carries whole buffers.  The bitmap and the
descriptor of a group are in different ones, so they reach the disk together
only if the transaction holds both.  The handler passes them on in two calls
that can fail separately.

When every call that reaches the stores passes on both, the volume obeys the
crash rule of redo journals.  One failure is enough to break it.  After a
failure on the descriptor buffer the bitmap goes to disk alone.  After a
failure on the bitmap buffer neither is in the transaction, but a later flip
in another group of the same descriptor block takes the descriptor along.
In general a run breaks the agreement exactly when one of its commits takes one
buffer of a group that does not agree with what the disk has of the other.
-/

section

variable (code : Ext4Code) (geo : Geometry)

/-- Free count and stored bitmap checksum of every group agree with its bitmap. -/
def Agrees (disk : Disk geo) : Prop :=
  forall group, group < geo.groupsCount ->
    (code.ext4FreeGroupClusters (disk.desc group)).toNat =
        zeros (geo.clustersInGroup group) (disk.bitmap group) ∧
      code.ext4BlockBitmapCsumVerify (disk.desc group) (disk.bitmap group) = true

variable {code geo}

/-- The agreement of one group is kept by a flip of any real cluster. -/
theorem agrees_flipMemory (lawful : code.Lawful geo) (fits : geo.CountsFit)
    {mem : Memory} {group offset : Nat}
    (inside : offset < geo.clustersInGroup group)
    (agrees : Agrees code geo (Disk.imageOf geo mem)) :
    Agrees code geo (Disk.imageOf geo (flipMemory code group offset mem)) := by
  intro other present
  have before := agrees other present
  rw [Disk.desc_imageOf, Disk.bitmap_imageOf] at before ⊢
  by_cases same : other = group
  · subst same
    refine ⟨freeCount_flipMemory_same lawful fits inside before.1, ?_⟩
    simp only [flipMemory, Function.update_self]
    exact Ext4Code.bitmapVerify_updateDesc lawful other _ _ _
  · simp only [flipMemory, Function.update_of_ne same]
    exact before

/-- A call on the volume keeps the agreement in memory, whatever fails. -/
theorem agrees_flipStep (lawful : code.Lawful geo) (fits : geo.CountsFit)
    (kernel : Kernel) (call : FlipCall) (inRange : geo.InRange call.blockNumber.toNat)
    (agrees : Agrees code geo (Disk.imageOf geo kernel.mem)) :
    Agrees code geo (Disk.imageOf geo (flipStep code geo kernel call).mem) := by
  refine (flipStep_mem_iff code geo (fun mem => Agrees code geo (Disk.imageOf geo mem))
    agrees call).mpr ?_
  intro _
  exact agrees_flipMemory lawful fits (FlipCall.offset_lt_of_inRange lawful inRange) agrees

/-- Every crash point of every run in which each call that reaches the stores
adds both of its buffers to the transaction. -/
theorem crash_keeps_agreement (lawful : code.Lawful geo) (fits : geo.CountsFit)
    (disk : Disk geo) (records : Memory) (events : List (Journal.Event Buffer FlipCall))
    (agrees : Agrees code geo disk)
    (inRange : forall call, call ∈ Journal.callsOf events -> geo.InRange call.blockNumber.toNat)
    (registers : forall call, call ∈ Journal.callsOf events -> call.Registers code geo) :
    Run.Always (Volume.next code geo) (Volume.mounted disk records) events
      fun volume => Agrees code geo volume.recovered := by
  have start : Disk.imageOf geo (Volume.mounted disk records).state.mem = disk :=
    Volume.imageOf_mounted disk records
  have safe : (Volume.mounted disk records).Safe (journalCache geo) (Agrees code geo) := by
    refine ⟨?_, agrees, ?_⟩
    · change Agrees code geo (Disk.imageOf geo (Volume.mounted disk records).state.mem)
      rw [start]
      exact agrees
    · intro buffer _
      exact congrFun start buffer
  refine Journal.Machine.recovered_always (Agrees code geo) ?_ ?_ safe events
    fun call member => And.intro (inRange call member) (registers call member)
  · intro kernel call admitted before
    exact agrees_flipStep lawful fits kernel call admitted.1 before
  · intro kernel call admitted buffer absent
    exact flipStep_covers admitted.2 kernel absent

/-! ## Which commits tear -/

section

variable (code geo)

/-- A descriptor and a bitmap that agree, as those of a group. -/
def AgreesAt (group : Nat) (desc : GroupDesc) (bits : Bitmap) : Prop :=
  (code.ext4FreeGroupClusters desc).toNat = zeros (geo.clustersInGroup group) bits ∧
    code.ext4BlockBitmapCsumVerify desc bits = true

/-- Where a commit takes one buffer of a group and not the other, the one that it takes
agrees with what the disk has of the other. -/
def CommitsWhole (volume : Volume geo) : Prop :=
  forall group, group < geo.groupsCount ->
    (.bitmap group ∈ volume.state.dirtied ->
      .descriptor (geo.descBlock group) ∉ volume.state.dirtied ->
        AgreesAt code geo group (Disk.desc volume.recovered group)
          (volume.state.mem.bitmap group)) ∧
    (.descriptor (geo.descBlock group) ∈ volume.state.dirtied ->
      .bitmap group ∉ volume.state.dirtied ->
        AgreesAt code geo group (volume.state.mem.desc group)
          (Disk.bitmap volume.recovered group))

end

/-- What recovery gives after a commit agrees if and only if the commit tears no group. -/
theorem agrees_commit_iff {volume : Volume geo}
    (cached : Agrees code geo (Disk.imageOf geo volume.state.mem))
    (durable : Agrees code geo volume.recovered) :
    Agrees code geo (Volume.next code geo volume .commit).recovered ↔
      CommitsWhole code geo volume := by
  rw [Volume.recovered_commit]
  refine forall_congr' fun group => imp_congr_right fun present => ?_
  have new := cached group present
  have old := durable group present
  rw [Disk.desc_imageOf, Disk.bitmap_imageOf] at new
  rw [Disk.desc_writeBack, Disk.bitmap_writeBack]
  by_cases bitmap : .bitmap group ∈ volume.state.dirtied <;>
    by_cases descriptor : .descriptor (geo.descBlock group) ∈ volume.state.dirtied
  · simp only [bitmap, descriptor, if_true, not_true, false_imp_iff, imp_true_iff, and_true]
    exact iff_of_true new trivial
  · simp only [bitmap, descriptor, if_true, if_false, not_false_eq_true, true_imp_iff,
      false_imp_iff, and_true, AgreesAt]
  · simp only [bitmap, descriptor, if_true, if_false, not_false_eq_true, true_imp_iff,
      false_imp_iff, true_and, AgreesAt]
  · simp only [bitmap, descriptor, if_false, false_imp_iff, and_true]
    exact iff_of_true old trivial

/-- Every run of calls on the volume, whatever fails in them: no crash point shows a
disagreement if and only if no commit tears a group. -/
theorem crash_agreement_iff (lawful : code.Lawful geo) (fits : geo.CountsFit)
    (disk : Disk geo) (records : Memory) (events : List (Journal.Event Buffer FlipCall))
    (agrees : Agrees code geo disk)
    (inRange : forall call, call ∈ Journal.callsOf events -> geo.InRange call.blockNumber.toNat) :
    Run.Always (Volume.next code geo) (Volume.mounted disk records) events
        (fun volume => Agrees code geo volume.recovered) ↔
      Run.AtEachCall (Volume.next code geo) (Volume.mounted disk records) events
        fun volume event => event = .commit -> CommitsWhole code geo volume := by
  have allowed : forall event, event ∈ events -> forall call : FlipCall, event = .call call ->
      geo.InRange call.blockNumber.toNat := by
    rintro event member call rfl
    exact inRange call (Journal.mem_callsOf member)
  have cachedStart : Agrees code geo
      (Disk.imageOf geo (Volume.mounted disk records).state.mem) := by
    rw [Volume.imageOf_mounted]
    exact agrees
  refine Run.always_iff_atEachCall_under
    (fun volume : Volume geo => Agrees code geo (Disk.imageOf geo volume.state.mem))
    (fun volume : Volume geo => Agrees code geo volume.recovered)
    ?_ ?_ cachedStart agrees events allowed
  · intro volume event allowed cached
    cases event with
    | call call => exact agrees_flipStep lawful fits volume.state call (allowed call rfl) cached
    | commit => exact cached
    | checkpoint =>
        rw [Volume.next, Journal.Machine.state_checkpoint]
        exact cached
    | writeHome buffer => exact cached
  · intro volume event _ cached durable
    cases event with
    | call call => exact iff_of_true durable (fun same => by cases same)
    | commit =>
        rw [agrees_commit_iff cached durable]
        exact ⟨fun whole _ => whole, fun whole => whole rfl⟩
    | checkpoint =>
        rw [Volume.next, Journal.Machine.recovered_checkpoint]
        exact iff_of_true durable (fun same => by cases same)
    | writeHome buffer =>
        rw [Volume.next, Journal.Machine.recovered_next_writeHome]
        exact iff_of_true durable (fun same => by cases same)

/-! ## Instances -/

/-- The disk under the sample volume. -/
def sampleDisk : Disk GdtCsum.volume := Disk.imageOf GdtCsum.volume sampleKernel.mem

theorem sampleDisk_agrees : Agrees GdtCsum.volumeCode GdtCsum.volume sampleDisk := by
  intro group present
  unfold sampleDisk
  rw [Disk.desc_imageOf, Disk.bitmap_imageOf]
  exact ⟨sampleKernel_consistent.counts.group_count group present,
    sampleKernel_consistent.checksums.bitmap_csum group present⟩

/-- Two flips share a transaction, a third one fails before its stores, and a
write-back follows the commit. -/
theorem crash_keeps_agreement_sample :
    Run.Always (Volume.next GdtCsum.volumeCode GdtCsum.volume)
      (Volume.mounted sampleDisk sampleKernel.mem)
      [.call { blockNumber := 100 }, .call { blockNumber := 39999 }, .commit,
        .call { blockNumber := 101, faults := { descWriteAccess := some .eio } },
        .writeHome (.bitmap 0), .checkpoint]
      fun volume => Agrees GdtCsum.volumeCode GdtCsum.volume volume.recovered :=
  crash_keeps_agreement GdtCsum.volumeCode_lawful GdtCsum.volume_countsFit sampleDisk
    sampleKernel.mem _ sampleDisk_agrees (by decide) (by decide)

/-! ## Torn commits -/

/-- A bitmap that reached the disk without its descriptor is out of step. -/
theorem torn_bitmap {first second : Disk geo} {group offset : Nat}
    (present : group < geo.groupsCount) (inside : offset < geo.clustersInGroup group)
    (descKept : second.desc group = first.desc group)
    (bitmapFlipped : second.bitmap group = toggle (first.bitmap group) offset)
    (before : Agrees code geo first) : ¬ Agrees code geo second := by
  intro after
  have old := (before group present).1
  have new := (after group present).1
  rw [descKept, bitmapFlipped, old] at new
  have moved := @zeros_toggle _ (first.bitmap group) _ inside
  rw [← new] at moved
  split at moved <;> omega

/-- A descriptor that reached the disk without its bitmap is out of step too. -/
theorem torn_desc (lawful : code.Lawful geo) {first second : Disk geo} {mem : Memory}
    (group offset : Nat) (present : group < geo.groupsCount)
    (read : mem.desc group = first.desc group)
    (descFlipped : second.desc group = (flipMemory code group offset mem).desc group)
    (bitmapKept : second.bitmap group = first.bitmap group)
    (before : Agrees code geo first) : ¬ Agrees code geo second := by
  intro after
  have old := (before group present).1
  have new := (after group present).1
  rw [descFlipped, bitmapKept, ← old, ← read] at new
  exact freeCount_flipMemory_ne lawful mem group offset new

/-- Whenever the descriptor buffer could not be added, a commit right after
the call sends the flipped bitmap to disk with the old descriptor. -/
theorem desc_failure_torn (lawful : code.Lawful geo) {disk : Disk geo} (records : Memory)
    (agrees : Agrees code geo disk) (call : FlipCall)
    (inRange : geo.InRange call.blockNumber.toNat) (granted : call.Granted code geo)
    {err : Errno} (bitmapAdded : call.faults.dirtyBitmap = none)
    (descFailed : call.faults.dirtyDesc = some err) :
    ¬ Run.Always (Volume.next code geo) (Volume.mounted disk records) [.call call, .commit]
      (fun volume => Agrees code geo volume.recovered) := by
  have registered : (flipStep code geo (Volume.mounted disk records).state call).dirtied =
      [.bitmap (call.group code)] := by
    rw [flipStep_dirtied, FlipCall.registered, if_pos granted, bitmapAdded, descFailed]
    rfl
  have flipped := flipStep_mem_of_granted code geo granted (Volume.mounted disk records).state
  intro always
  have committed := Run.always_exec always
  rw [Run.exec_cons, Run.exec_cons, Run.exec_nil, Volume.recovered_commit,
    Volume.recovered_call, Volume.recovered_mounted, Volume.state_call] at committed
  refine absurd committed (torn_bitmap (FlipCall.group_lt_of_inRange lawful inRange)
    (FlipCall.offset_lt_of_inRange lawful inRange) ?_ ?_ agrees)
  · rw [Disk.desc_writeBack, registered, if_neg (by simp)]
  · rw [Disk.bitmap_writeBack, registered, if_pos List.mem_cons_self, flipped]
    simp only [flipMemory, Function.update_self]
    rfl

/-- Whenever the bitmap buffer could not be added, a successful flip in another
group of the same descriptor block sends the descriptor to disk without it. -/
theorem bitmap_failure_torn (lawful : code.Lawful geo) {disk : Disk geo} (records : Memory)
    (agrees : Agrees code geo disk) (call other : FlipCall)
    (inRange : geo.InRange call.blockNumber.toNat) (granted : call.Granted code geo)
    {err : Errno} (bitmapFailed : call.faults.dirtyBitmap = some err)
    (otherGranted : other.Granted code geo) (otherClean : other.lateError = none)
    (different : call.group code ≠ other.group code)
    (sameBlock : geo.descBlock (call.group code) = geo.descBlock (other.group code)) :
    ¬ Run.Always (Volume.next code geo) (Volume.mounted disk records)
      [.call call, .call other, .commit]
      (fun volume => Agrees code geo volume.recovered) := by
  rcases other.lateError_eq_none_iff.mp otherClean with ⟨bitmapAdded, descAdded, -⟩
  have registered : (flipStep code geo
      (flipStep code geo (Volume.mounted disk records).state call) other).dirtied =
      [.descriptor (geo.descBlock (other.group code)), .bitmap (other.group code)] := by
    rw [flipStep_dirtied, flipStep_dirtied,
      FlipCall.registered_of_clean otherGranted bitmapAdded descAdded, FlipCall.registered,
      if_pos granted, bitmapFailed]
    rfl
  have flipped : (flipStep code geo (flipStep code geo (Volume.mounted disk records).state call)
        other).mem = flipMemory code (other.group code) (other.offset code)
      (flipMemory code (call.group code) (call.offset code)
        (Volume.mounted disk records).state.mem) := by
    rw [flipStep_mem_of_granted code geo otherGranted, flipStep_mem_of_granted code geo granted]
  intro always
  have committed := Run.always_exec always
  rw [Run.exec_cons, Run.exec_cons, Run.exec_cons, Run.exec_nil, Volume.recovered_commit,
    Volume.recovered_call, Volume.recovered_call, Volume.recovered_mounted, Volume.state_call,
    Volume.state_call] at committed
  refine absurd committed (torn_desc lawful (call.group code) (call.offset code)
    (FlipCall.group_lt_of_inRange lawful inRange)
    (show (Volume.mounted disk records).state.mem.desc (call.group code) = _ from rfl) ?_ ?_ agrees)
  · rw [Disk.desc_writeBack, registered, if_pos (by rw [sameBlock]; exact List.mem_cons_self),
      flipped]
    exact Function.update_of_ne different _ _
  · rw [Disk.bitmap_writeBack, registered, if_neg (by simp [different])]

/-- Block 1000 is flipped with a failure on the descriptor buffer, or with one
on the bitmap buffer and then a successful flip in group 1. -/
theorem crash_breaks_agreement :
    ¬ Run.Always (Volume.next GdtCsum.volumeCode GdtCsum.volume)
      (Volume.mounted sampleDisk sampleKernel.mem)
      [.call { blockNumber := 1000, faults := { dirtyDesc := some .eio } }, .commit]
      (fun volume => Agrees GdtCsum.volumeCode GdtCsum.volume volume.recovered) ∧
    ¬ Run.Always (Volume.next GdtCsum.volumeCode GdtCsum.volume)
      (Volume.mounted sampleDisk sampleKernel.mem)
      [.call { blockNumber := 1000, faults := { dirtyBitmap := some .eio } },
        .call { blockNumber := 39999 }, .commit]
      (fun volume => Agrees GdtCsum.volumeCode GdtCsum.volume volume.recovered) := by
  constructor
  · exact desc_failure_torn GdtCsum.volumeCode_lawful sampleKernel.mem sampleDisk_agrees _
      (by decide) (by decide) rfl rfl
  · exact bitmap_failure_torn GdtCsum.volumeCode_lawful sampleKernel.mem sampleDisk_agrees _ _
      (by decide) (by decide) rfl (by decide) rfl (by decide) (by decide)

end

end Durability
end Evfs
