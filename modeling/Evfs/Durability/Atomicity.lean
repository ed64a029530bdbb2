import Evfs.FreeSpace.AllocationMap

namespace Evfs
namespace Durability

open Foundation Ext4 FreeSpace

/-!
# Errors and effects of one call

Three operations can fail after the stores: the two calls that add the buffers
to the transaction, and the stop of the handle.  Each of them makes the ioctl
return an error, and no path undoes the stores.  An error therefore does not
tell the caller whether the bit was flipped.  Since the operation is a toggle,
a retry after such an error undoes the flip that it was meant to repeat.
-/

section

variable (code : Ext4Code) (geo : Geometry)

/-- An error leaves bitmaps, descriptors and the global counter as they were. -/
def ErrorHasNoEffect (call : FlipCall) (kernel : Kernel) : Prop :=
  (flipBlockBit code geo call kernel).2 ≠ 0 ->
    (flipBlockBit code geo call kernel).1.mem.bitmap = kernel.mem.bitmap ∧
      (flipBlockBit code geo call kernel).1.mem.desc = kernel.mem.desc ∧
      (flipBlockBit code geo call kernel).1.mem.freeclustersCounter =
        kernel.mem.freeclustersCounter

/-- No operation fails after the stores of a call that reaches them. -/
def NoLateError (call : FlipCall) : Prop :=
  call.refusal code geo ≠ none ∨ call.lateError = none

instance (call : FlipCall) : Decidable (NoLateError code geo call) :=
  inferInstanceAs (Decidable (_ ∨ _))

variable {code geo}

theorem ret_ne_zero_of_lateError {call : FlipCall} (late : call.lateError ≠ none)
    (kernel : Kernel) : (flipBlockBit code geo call kernel).2 ≠ 0 := by
  intro success
  exact late ((flipBlockBit_ret_eq_zero_iff code geo call kernel).mp success).2

/-- Without a late error, a call that fails has been refused. -/
theorem NoLateError.refused {call : FlipCall} (clean : NoLateError code geo call)
    {kernel : Kernel} (failed : (flipBlockBit code geo call kernel).2 ≠ 0) :
    ¬ call.Granted code geo := by
  intro granted
  have quiet := clean.resolve_left fun refused => refused granted
  exact failed ((flipBlockBit_ret_eq_zero_iff code geo call kernel).mpr ⟨granted, quiet⟩)

/-- One call: an error has no effect if and only if no operation fails late. -/
theorem errorHasNoEffect_iff (call : FlipCall) (kernel : Kernel) :
    ErrorHasNoEffect code geo call kernel ↔ NoLateError code geo call := by
  constructor
  · intro contract
    by_cases granted : call.Granted code geo
    · refine Or.inr (Decidable.byContradiction fun late => ?_)
      exact bitmap_ne_of_granted granted kernel
        (contract (ret_ne_zero_of_lateError late kernel)).1
    · exact Or.inl granted
  · intro condition failed
    have kept : (flipBlockBit code geo call kernel).1.mem = kernel.mem :=
      flipStep_mem_of_refused code geo (condition.refused failed) kernel
    rw [kept]
    exact ⟨rfl, rfl, rfl⟩

/-- Failed attempts that meet the condition leave the memory alone. -/
theorem exec_failed_mem (attempts : List FlipCall) (kernel : Kernel)
    (clean : forall call, call ∈ attempts -> NoLateError code geo call)
    (failed : Run.AtEachCall (flipStep code geo) kernel attempts
      fun state call => (flipBlockBit code geo call state).2 ≠ 0) :
    (Run.exec (flipStep code geo) kernel attempts).mem = kernel.mem := by
  induction attempts generalizing kernel with
  | nil => rfl
  | cons call rest inductionHypothesis =>
      rcases (Run.atEachCall_cons kernel call rest _).mp failed with ⟨firstFailed, othersFailed⟩
      rw [Run.exec_cons, inductionHypothesis (flipStep code geo kernel call)
        (fun later member => clean later (List.mem_cons_of_mem call member)) othersFailed]
      exact flipStep_mem_of_refused code geo
        ((clean call List.mem_cons_self).refused firstFailed) kernel

/-- Per call, and for a caller who retries the same block until success: where
no attempt has a late error, the block has been flipped exactly once. -/
theorem flip_atomic_iff (code : Ext4Code) (geo : Geometry) :
    (forall (call : FlipCall) (kernel : Kernel),
      ErrorHasNoEffect code geo call kernel ↔ NoLateError code geo call) ∧
    (forall (kernel : Kernel) (attempts : List FlipCall) (last : FlipCall),
      (forall call, call ∈ attempts ->
        call.blockNumber = last.blockNumber ∧ NoLateError code geo call) ->
      Run.AtEachCall (flipStep code geo) kernel attempts
        (fun state call => (flipBlockBit code geo call state).2 ≠ 0) ->
      (flipBlockBit code geo last (Run.exec (flipStep code geo) kernel attempts)).2 = 0 ->
      (Run.exec (flipStep code geo) kernel (attempts ++ [last])).mem =
        flipMemory code (last.group code) (last.offset code) kernel.mem) := by
  refine ⟨errorHasNoEffect_iff, ?_⟩
  intro kernel attempts last clean failed success
  have granted := ((flipBlockBit_ret_eq_zero_iff code geo last _).mp success).1
  rw [Run.exec_snoc, flipStep_mem_of_granted code geo granted,
    exec_failed_mem attempts kernel (fun call member => (clean call member).2) failed]

/-- Block 1000 is tried without a journal handle, then without write access to its
descriptor, and then with success. -/
theorem flip_atomic_iff_sample :
    (Run.exec (flipStep GdtCsum.volumeCode GdtCsum.volume) sampleKernel
      [{ blockNumber := 1000, faults := { journalStart := some .erofs } },
        { blockNumber := 1000, faults := { descWriteAccess := some .eio } },
        { blockNumber := 1000 }]).mem =
      flipMemory GdtCsum.volumeCode 0 1000 sampleKernel.mem := by
  refine (flip_atomic_iff GdtCsum.volumeCode GdtCsum.volume).2 sampleKernel
    [{ blockNumber := 1000, faults := { journalStart := some .erofs } },
      { blockNumber := 1000, faults := { descWriteAccess := some .eio } }]
    { blockNumber := 1000 } (by decide) ?_ ?_
  · refine (Run.atEachCall_cons _ _ _ _).mpr
      ⟨?_, (Run.atEachCall_cons _ _ _ _).mpr ⟨?_, Run.atEachCall_nil _ _⟩⟩
    · exact fun success =>
        absurd ((flipBlockBit_ret_eq_zero_iff _ _ _ _).mp success).1 (by decide)
    · exact fun success =>
        absurd ((flipBlockBit_ret_eq_zero_iff _ _ _ _).mp success).1 (by decide)
  · exact (flipBlockBit_ret_eq_zero_iff _ _ _ _).mpr ⟨by decide, by decide⟩

/-- The descriptor buffer cannot be added to the transaction: the call returns
`-EIO`, the bit is flipped, and the retry flips it back. -/
theorem flip_not_atomic :
    ¬ ErrorHasNoEffect GdtCsum.volumeCode GdtCsum.volume
        { blockNumber := 1000, faults := { dirtyDesc := some .eio } } sampleKernel ∧
      usage (Run.exec (flipStep GdtCsum.volumeCode GdtCsum.volume) sampleKernel
        [{ blockNumber := 1000, faults := { dirtyDesc := some .eio } },
          { blockNumber := 1000 }]).mem = usage sampleKernel.mem := by
  constructor
  · intro contract
    exact bitmap_ne_of_granted (by decide) sampleKernel
      (contract (ret_ne_zero_of_lateError (by decide) sampleKernel)).1
  · rw [Run.exec_cons, Run.exec_cons, Run.exec_nil,
      flipStep_mem_of_granted _ _ (by decide), usage_flipMemory,
      flipStep_mem_of_granted _ _ (by decide), usage_flipMemory]
    exact toggle_toggle _ _

end

end Durability
end Evfs
