import Evfs.FreeSpace.AllocationMap

namespace Evfs
namespace FreeSpace

open Foundation Ext4

/-!
# Which bit a block number addresses

The handler does not compare the number it was given with the bounds of the
volume.  Its only range check is the one on the group number inside the two
lookups, and that number has already been truncated to 32 bits.  For a block
of the volume the addressed bit is that of its cluster.  A number outside the
volume can still reach the stores: past the end of a short last group, or
after the truncation has brought its group number back into range.

`AddressingExact` is the contract.  It holds of a call if and only if the
number is in range or the call is refused before the stores.

A block is owned when it holds metadata of the filesystem or is mapped by an
inode, and the allocator relies on the bit of every owned block's cluster being
set.  The handler has no notion of ownership.  A run keeps every owned cluster
marked if and only if no call that reaches the stores was led to such a cluster,
be it by an owned block, by one that shares its cluster, or by truncation.
-/

section

variable (code : Ext4Code) (geo : Geometry)

/-- A number outside the volume is an error without effect.  A successful call
on a block of the volume toggles the bit of the cluster that holds it, and
no other. -/
def AddressingExact (call : FlipCall) (kernel : Kernel) : Prop :=
  let after := flipBlockBit code geo call kernel
  (¬ geo.InRange call.blockNumber.toNat ->
    after.2 ≠ 0 ∧ after.1.mem.bitmap = kernel.mem.bitmap ∧
      after.1.mem.desc = kernel.mem.desc ∧
      after.1.mem.freeclustersCounter = kernel.mem.freeclustersCounter) ∧
  (geo.InRange call.blockNumber.toNat -> after.2 = 0 ->
    exists group offset, geo.InCluster group offset call.blockNumber.toNat ∧
      usage after.1.mem = toggle (usage kernel.mem) (group, offset))

variable {code geo}

/-- Outside the volume, reaching the stores already breaks the contract. -/
theorem not_addressingExact_of_granted {call : FlipCall} (granted : call.Granted code geo)
    (outside : ¬ geo.InRange call.blockNumber.toNat) (kernel : Kernel) :
    ¬ AddressingExact code geo call kernel := by
  intro contract
  rcases contract.1 outside with ⟨-, kept, -⟩
  exact bitmap_ne_of_granted granted kernel kept

theorem addressingExact_iff (lawful : code.Lawful geo) (call : FlipCall) (kernel : Kernel) :
    AddressingExact code geo call kernel ↔
      geo.InRange call.blockNumber.toNat ∨ call.refusal code geo ≠ none := by
  constructor
  · intro contract
    by_cases inRange : geo.InRange call.blockNumber.toNat
    · exact Or.inl inRange
    · exact Or.inr fun granted => not_addressingExact_of_granted granted inRange kernel contract
  · intro condition
    constructor
    · intro outside
      have refused : ¬ call.Granted code geo := condition.resolve_left outside
      have kept : (flipBlockBit code geo call kernel).1.mem = kernel.mem :=
        flipStep_mem_of_refused code geo refused kernel
      refine ⟨flipBlockBit_ret_of_refused code geo refused kernel, ?_⟩
      rw [kept]
      exact ⟨rfl, rfl, rfl⟩
    · intro inRange success
      have granted := ((flipBlockBit_ret_eq_zero_iff code geo call kernel).mp success).1
      have placed := FlipCall.place_of_inRange lawful inRange
      refine ⟨call.group code, call.offset code, ?_, ?_⟩
      · exact (Geometry.inCluster_iff_place inRange _ _).mpr placed.symm
      · rw [← usage_flipMemory code]
        exact congrArg usage (flipStep_mem_of_granted code geo granted kernel)

/-- The last block of the volume. -/
theorem addressingExact_iff_lastBlock :
    AddressingExact GdtCsum.volumeCode GdtCsum.volume { blockNumber := 39999 } sampleKernel ↔
      GdtCsum.volume.InRange 39999 ∨
        FlipCall.refusal GdtCsum.volumeCode GdtCsum.volume { blockNumber := 39999 } ≠ none :=
  addressingExact_iff GdtCsum.volumeCode_lawful _ _

/-- The first number past the volume toggles a padding bit of the short last
group.  The number `2 ^ 47` is 2 ^ 32 groups beyond block 0, and toggles its bit. -/
theorem addressing_past_the_end :
    ¬ AddressingExact GdtCsum.volumeCode GdtCsum.volume { blockNumber := 40000 } sampleKernel ∧
      ¬ AddressingExact GdtCsum.volumeCode GdtCsum.volume
        { blockNumber := 140737488355328 } sampleKernel :=
  ⟨not_addressingExact_of_granted (by decide) (by decide) sampleKernel,
    not_addressingExact_of_granted (by decide) (by decide) sampleKernel⟩

end

/-! ## Blocks in use -/

section

variable (code : Ext4Code) (geo : Geometry)

/-- The bit of the cluster of every owned block is set. -/
def OwnedMarked (owned : Nat -> Prop) (mem : Memory) : Prop :=
  forall block, geo.InRange block -> owned block -> usage mem (geo.place block) = true

/-- The call is led to the cluster of some owned block. -/
def HitsOwned (owned : Nat -> Prop) (call : FlipCall) : Prop :=
  exists block, geo.InRange block ∧ owned block ∧
    geo.place block = (call.group code, call.offset code)

variable {code geo}

/-- A marked memory stays marked exactly when the flipped cluster is not
owned.  An owned cluster was marked before, so a flip clears it. -/
theorem ownedMarked_flipMemory_iff {owned : Nat -> Prop} {mem : Memory}
    (marked : OwnedMarked geo owned mem) (call : FlipCall) :
    OwnedMarked geo owned (flipMemory code (call.group code) (call.offset code) mem) ↔
      ¬ HitsOwned code geo owned call := by
  rw [OwnedMarked, usage_flipMemory]
  constructor
  · rintro after ⟨block, inRange, held, placed⟩
    have before := marked block inRange held
    have cleared := after block inRange held
    rw [placed] at before cleared
    rw [toggle_same, before] at cleared
    exact absurd cleared Bool.false_ne_true
  · intro apart block inRange held
    have different : geo.place block ≠ (call.group code, call.offset code) :=
      fun placed => apart ⟨block, inRange, held, placed⟩
    rw [toggle_of_ne _ different]
    exact marked block inRange held

/-- The step of the invariant. -/
theorem ownedMarked_step_iff {owned : Nat -> Prop} {kernel : Kernel}
    (marked : OwnedMarked geo owned kernel.mem) (call : FlipCall) :
    OwnedMarked geo owned (flipStep code geo kernel call).mem ↔
      (call.Granted code geo -> ¬ HitsOwned code geo owned call) := by
  rw [flipStep_mem_iff code geo (OwnedMarked geo owned) marked call]
  exact imp_congr_right fun _ => ownedMarked_flipMemory_iff marked call

/-- Whole runs, with arbitrary numbers and arbitrary failures. -/
theorem owned_stay_marked_iff (owned : Nat -> Prop) (kernel : Kernel) (calls : List FlipCall)
    (initial : OwnedMarked geo owned kernel.mem) :
    Run.Always (flipStep code geo) kernel calls
        (fun state => OwnedMarked geo owned state.mem) ↔
      forall call, call ∈ calls -> call.Granted code geo -> ¬ HitsOwned code geo owned call :=
  Run.always_iff_forall (fun state : Kernel => OwnedMarked geo owned state.mem)
    (fun _ call marked => ownedMarked_step_iff marked call) initial calls

/-- The metadata at the front of a volume stays marked while a file block
behind it is flipped twice. -/
theorem owned_stay_marked_iff_sample :
    Run.Always (flipStep GdtCsum.volumeCode GdtCsum.volume) sampleKernel
        [{ blockNumber := 1000 }, { blockNumber := 1000 }]
        (fun state => OwnedMarked GdtCsum.volume (· < 100) state.mem) ↔
      forall call, call ∈ ([{ blockNumber := 1000 }, { blockNumber := 1000 }] : List FlipCall) ->
        call.Granted GdtCsum.volumeCode GdtCsum.volume ->
        ¬ HitsOwned GdtCsum.volumeCode GdtCsum.volume (· < 100) call := by
  refine owned_stay_marked_iff (· < 100) sampleKernel _ ?_
  intro block _ small
  apply decide_eq_true
  change block % 32768 >>> 0 < 600
  rw [Nat.shiftRight_zero]
  omega

/-- Block 0 holds the superblock.  One flip of it frees its cluster. -/
theorem superblock_freed :
    OwnedMarked GdtCsum.volume (· = 0) sampleKernel.mem ∧
      ¬ Run.Always (flipStep GdtCsum.volumeCode GdtCsum.volume) sampleKernel
        [{ blockNumber := 0 }]
        (fun state => OwnedMarked GdtCsum.volume (· = 0) state.mem) := by
  constructor
  · rintro block - rfl
    decide
  · intro always
    have cleared := (Run.always_exec always) 0 (by decide) rfl
    rw [Run.exec_cons, Run.exec_nil, flipStep_mem_of_granted _ _ (by decide),
      usage_flipMemory] at cleared
    exact absurd cleared (by decide)

end

end FreeSpace
end Evfs
