import Evfs.Authority.WriteAccess
import Evfs.Metadata.SwapHistories

namespace Evfs
namespace EntryPoints

open Ext4 FreeSpace Metadata

/-!
# The dispatcher and the swap

The case `EXT4_IOC_SWAP_BOOT` of the dispatcher records that inodes change, and
`swapBootLoaderInode` changes them.  Where the environment of the dispatcher
answers as the two inodes and the environment of the swap do, both reply the same,
and no inode is changed without a record.
-/

/-- The environment of the dispatcher describes a swap of a file. -/
structure DescribesSwap (env : IoctlEnv) (swap : SwapEnv) (ino : Nat) (inodes : Inodes) :
    Prop where
  iget : env.err .iget = swap.err .iget
  unfit : env.test .swapUnfit = unfitForSwap swap (inodes.inode ino)
  rdonlyAppendImmutable : env.test .rdonlyAppendImmutable =
    (swap.test .isRdonly || (inodes.inode ino).vfsFlags.append ||
      (inodes.inode ino).vfsFlags.immutable)
  inodeOwnerOrCapable : env.test .inodeOwnerOrCapable = swap.test .inodeOwnerOrCapable
  capableSysAdmin : env.test .capableSysAdmin = swap.test .capableSysAdmin
  filemapWriteAndWait : forall bootLoader,
    env.err (.filemapWriteAndWait bootLoader) = swap.err (.filemapWriteAndWait bootLoader)
  journalStart : env.err .journalStart = swap.err .journalStart
  bootLoaderUnused : env.test .bootLoaderUnused = neverUsed swap (inodes.inode bootLoaderIno)
  dquotInitialize : env.err .dquotInitialize = swap.err .dquotInitialize
  markFile : env.err (.markInodeDirty false) = swap.err (.markInodeDirty ino)
  markBootLoader : env.err (.markInodeDirty true) = swap.err (.markInodeDirty bootLoaderIno)
  quotaShrinks : env.test .quotaShrinks =
    decide ((inodes.inode bootLoaderIno).space < (inodes.inode ino).space)
  dquotAllocSpace : env.err .dquotAllocSpace = swap.err .dquotAllocSpace

section

variable {code : InodeCode} {swap : SwapEnv} {ino : Nat}

/-- The first error after the exchange. -/
theorem settleSwap_reply (diff : Int) (inodes : Inodes) :
    (settleSwap code swap ino diff inodes).2 =
      (swap.err (.markInodeDirty ino)).or ((swap.err (.markInodeDirty bootLoaderIno)).or
        (if 0 < diff then none else swap.err .dquotAllocSpace)) := by
  unfold settleSwap
  cases swap.err (.markInodeDirty ino) with
  | some err => rfl
  | none =>
  cases swap.err (.markInodeDirty bootLoaderIno) with
  | some err => rfl
  | none =>
  unfold moveSpace
  by_cases shrinks : 0 < diff
  · simp only [if_pos shrinks]
    rfl
  · simp only [if_neg shrinks]
    cases swap.err .dquotAllocSpace with
    | some err => rfl
    | none => rfl

/-- The reply of a swap that has its handle. -/
theorem swapUnderHandle_reply (apart : ino ≠ bootLoaderIno) (inodes : Inodes) :
    (swapUnderHandle code swap ino inodes).2 =
      Errno.result ((swap.err .dquotInitialize).or
        ((swap.err (.markInodeDirty ino)).or ((swap.err (.markInodeDirty bootLoaderIno)).or
          (if (inodes.inode bootLoaderIno).space < (inodes.inode ino).space then none
            else swap.err .dquotAllocSpace)))) := by
  unfold swapUnderHandle
  cases swap.err .dquotInitialize with
  | some err => rfl
  | none =>
  have prepared := @prepareBootLoader_inode code swap inodes
  have file : (prepareBootLoader code swap inodes).inode ino = inodes.inode ino := by
    rw [prepared, Function.update_of_ne apart]
  have bootLoader : ((prepareBootLoader code swap inodes).inode bootLoaderIno).space =
      (inodes.inode bootLoaderIno).space := by
    rw [prepared, Function.update_self]
    unfold preparedBl
    split <;> rfl
  have shrinks : (0 : Int) < (inodes.inode ino).space - (inodes.inode bootLoaderIno).space ↔
      (inodes.inode bootLoaderIno).space < (inodes.inode ino).space := by
    omega
  simp only [file, bootLoader]
  show Errno.result (settleSwap _ _ _ _ _).2 = _
  rw [settleSwap_reply]
  simp only [shrinks]
  rfl

/-! ## Records of changes -/

def recorded (kernel : Kernel) : Nat := kernel.trace.count (.change .inode)

theorem recorded_log (op : Op) (kernel : Kernel) : recorded kernel ≤ recorded (kernel.log op) := by
  unfold recorded
  rw [Kernel.log_trace, List.count_append]
  exact Nat.le_add_right _ _

theorem recorded_change (kernel : Kernel) :
    recorded (kernel.log (.change .inode)) = recorded kernel + 1 := by
  unfold recorded
  rw [Kernel.log_trace, List.count_append]
  rfl

theorem recorded_changes (targets : List Target) (kernel : Kernel) :
    recorded kernel ≤ recorded (kernel.changes targets) := by
  unfold Kernel.changes
  induction targets generalizing kernel with
  | nil => exact Nat.le_refl _
  | cons target rest inductionHypothesis =>
      exact Nat.le_trans (recorded_log _ kernel) (inductionHypothesis _)

/-- The two levels reply the same, and the inodes in memory are what they were unless
a change was recorded. -/
def SwapRecorded (kernel : Kernel) (inodes : Inodes) (dispatched : Kernel × Int)
    (performed : Inodes × Int) : Prop :=
  dispatched.2 = performed.2 ∧
    (performed.1.inode = inodes.inode ∨ recorded kernel < recorded dispatched.1)

theorem finishSwap_reply {env : IoctlEnv} (kernel : Kernel) :
    (finishSwap env kernel).2 =
      Errno.result ((env.err (.markInodeDirty false)).or ((env.err (.markInodeDirty true)).or
        (if env.test .quotaShrinks then none else env.err .dquotAllocSpace))) ∧
      recorded kernel ≤ recorded (finishSwap env kernel).1 := by
  have reverted := recorded_log (.change .inode) kernel
  unfold finishSwap
  cases env.err (.markInodeDirty false) with
  | some err => exact ⟨rfl, reverted⟩
  | none =>
  cases env.err (.markInodeDirty true) with
  | some err => exact ⟨rfl, reverted⟩
  | none =>
  cases (if env.test .quotaShrinks then none else env.err .dquotAllocSpace) with
  | some err => exact ⟨rfl, reverted⟩
  | none => exact ⟨rfl, Nat.le_refl _⟩

/-- What follows the checks of the dispatcher, from the flush of the two files. -/
def swapChecked (env : IoctlEnv) (kernel : Kernel) : Kernel × Int :=
  let kernel := kernel.changes (env.targets (.filemapWriteAndWait false))
  match env.err (.filemapWriteAndWait false) with
  | some err => (kernel, err.code)
  | none =>
  let kernel := kernel.changes (env.targets (.filemapWriteAndWait true))
  match env.err (.filemapWriteAndWait true) with
  | some err => (kernel, err.code)
  | none =>
  if env.fails .journalStart then (kernel, Errno.einval.code) else
  let kernel := if env.test .bootLoaderUnused then kernel.log (.change .inode) else kernel
  match env.err .dquotInitialize with
  | some err => (kernel, err.code)
  | none => finishSwap env (kernel.log (.change .inode))

/-- The checks of the dispatcher are those of the swap. -/
theorem swapInodeBootLoader_checks {env : IoctlEnv} {inodes : Inodes}
    (describes : DescribesSwap env swap ino inodes) (kernel : Kernel) :
    exists checked, recorded kernel ≤ recorded checked ∧ swapInodeBootLoader env kernel =
      match swap.err .iget with
      | some err => (checked, err.code)
      | none =>
        if unfitForSwap swap (inodes.inode ino) then (checked, Errno.einval.code)
        else if forbiddenSwap swap (inodes.inode ino) then (checked, Errno.eperm.code)
        else swapChecked env checked := by
  unfold swapInodeBootLoader checkAuthority forbiddenSwap
  rw [describes.iget, describes.unfit, describes.rdonlyAppendImmutable,
    describes.inodeOwnerOrCapable, describes.capableSysAdmin]
  have owner := fun passed => recorded_log (.check .inodeOwnerOrCapable passed) kernel
  have capable := fun passed => Nat.le_trans (owner true) (recorded_log (.check .capable passed) _)
  cases swap.err .iget with
  | some err => exact ⟨kernel, Nat.le_refl _, rfl⟩
  | none =>
  cases unfitForSwap swap (inodes.inode ino) with
  | true => exact ⟨kernel, Nat.le_refl _, rfl⟩
  | false =>
  cases swap.test .isRdonly || (inodes.inode ino).vfsFlags.append ||
    (inodes.inode ino).vfsFlags.immutable with
  | true => exact ⟨kernel, Nat.le_refl _, rfl⟩
  | false =>
  cases swap.test .inodeOwnerOrCapable with
  | false => exact ⟨_, owner false, rfl⟩
  | true =>
  cases swap.test .capableSysAdmin with
  | false => exact ⟨_, capable false, rfl⟩
  | true => exact ⟨_, capable true, rfl⟩

/-- The two levels of a swap are one program, whatever the call meets. -/
theorem swap_levels_agree {env : IoctlEnv} (apart : ino ≠ bootLoaderIno) {inodes : Inodes}
    (describes : DescribesSwap env swap ino inodes) (kernel : Kernel) :
    SwapRecorded kernel inodes (swapInodeBootLoader env kernel)
      (swapBootLoaderInode code swap ino inodes) := by
  rcases swapInodeBootLoader_checks describes kernel with ⟨checked, before, same⟩
  rw [same]
  unfold swapBootLoaderInode journalErrOut errOut
  simp only [Inodes.log_inode]
  cases swap.err .iget with
  | some err => exact ⟨rfl, Or.inl rfl⟩
  | none =>
  by_cases unfit : unfitForSwap swap (inodes.inode ino) = true
  · simp only [unfit, if_true]
    exact ⟨rfl, Or.inl rfl⟩
  rw [Bool.not_eq_true] at unfit
  simp only [unfit, Bool.false_eq_true, if_false]
  by_cases forbidden : forbiddenSwap swap (inodes.inode ino) = true
  · simp only [forbidden, if_true]
    exact ⟨rfl, Or.inl rfl⟩
  rw [Bool.not_eq_true] at forbidden
  simp only [forbidden, Bool.false_eq_true, if_false]
  unfold swapChecked IoctlEnv.fails
  simp only [describes.filemapWriteAndWait, describes.journalStart]
  cases swap.err (.filemapWriteAndWait false) with
  | some err => exact ⟨rfl, Or.inl rfl⟩
  | none =>
  cases swap.err (.filemapWriteAndWait true) with
  | some err => exact ⟨rfl, Or.inl rfl⟩
  | none =>
  cases swap.err .journalStart with
  | some err => exact ⟨rfl, Or.inl rfl⟩
  | none =>
  have flushed := Nat.le_trans before (Nat.le_trans
    (recorded_changes (env.targets (.filemapWriteAndWait false)) checked)
    (recorded_changes (env.targets (.filemapWriteAndWait true)) _))
  dsimp only
  generalize (checked.changes (env.targets (.filemapWriteAndWait false))).changes
    (env.targets (.filemapWriteAndWait true)) = reached at flushed ⊢
  simp only [Option.isSome_none, Bool.false_eq_true, if_false]
  generalize opening : Inodes.log [.downWriteDataSem] (Inodes.log [.journalStart 2 none]
    (Inodes.log [.filemapInvalidateLock] (Inodes.log [.lockTwoNondirectories]
      (Inodes.log [.iget none] inodes)))) = opened
  have openedInode : opened.inode = inodes.inode := by
    rw [← opening]
    rfl
  have reply := @swapUnderHandle_reply code swap ino apart opened
  rw [openedInode] at reply
  have set : recorded reached ≤ recorded
      (if env.test .bootLoaderUnused then reached.log (.change .inode) else reached) := by
    split
    · exact recorded_log _ reached
    · exact Nat.le_refl _
  cases initialized : swap.err .dquotInitialize with
  | some err =>
      rw [describes.dquotInitialize, initialized]
      rw [initialized] at reply
      refine ⟨reply.symm, ?_⟩
      cases unused : neverUsed swap (inodes.inode bootLoaderIno) with
      | true =>
          refine Or.inr (Nat.lt_of_le_of_lt flushed ?_)
          simp only [describes.bootLoaderUnused, unused, if_true, recorded_change]
          exact Nat.lt_succ_self _
      | false =>
          have used : neverUsed swap (opened.inode bootLoaderIno) = false := by
            rw [openedInode, unused]
          refine Or.inl ?_
          unfold swapUnderHandle
          rw [prepareBootLoader_of_used used, initialized]
          exact openedInode
  | none =>
      rw [describes.dquotInitialize, initialized]
      have finished := @finishSwap_reply env ((if env.test .bootLoaderUnused then
        reached.log (.change .inode) else reached).log (.change .inode))
      refine ⟨?_, Or.inr ?_⟩
      · refine finished.1.trans (Eq.trans ?_ reply.symm)
        rw [describes.markFile, describes.markBootLoader, describes.quotaShrinks,
          describes.dquotAllocSpace, initialized]
        simp only [decide_eq_true_eq, Option.none_or]
      · refine Nat.lt_of_lt_of_le ?_ finished.2
        rw [recorded_change]
        exact Nat.lt_succ_of_le (Nat.le_trans flushed set)

/-- The sample volume, where the quota of file 3 is exceeded. -/
def exceededEnv : IoctlEnv :=
  { Authority.sampleEnv with
    err := fun operation =>
      match operation with
      | .dquotAllocSpace => (swapEnv true).err .dquotAllocSpace
      | _ => none
    test := fun test =>
      match test with
      | .inodeOwnerOrCapable | .capableSysAdmin => true
      | _ => false }

theorem exceededEnv_describes : DescribesSwap exceededEnv (swapEnv true) 3 sampleInodes where
  iget := rfl
  unfit := by decide
  rdonlyAppendImmutable := rfl
  inodeOwnerOrCapable := rfl
  capableSysAdmin := rfl
  filemapWriteAndWait := fun _ => rfl
  journalStart := rfl
  bootLoaderUnused := by decide
  dquotInitialize := rfl
  markFile := rfl
  markBootLoader := rfl
  quotaShrinks := by decide
  dquotAllocSpace := rfl

theorem swap_levels_agree_sample :
    SwapRecorded sampleKernel sampleInodes (swapInodeBootLoader exceededEnv sampleKernel)
        (swapBootLoaderInode inodeCode (swapEnv true) 3 sampleInodes) ∧
      (swapInodeBootLoader exceededEnv sampleKernel).2 = -122 :=
  ⟨swap_levels_agree (by decide) exceededEnv_describes sampleKernel, by decide⟩

end

end EntryPoints
end Evfs
