import Evfs.Ext4.Inode
import Evfs.Ext4.Mount

namespace Evfs
namespace Ext4

/-!
# Swapping a file with the boot loader inode

`swap_inode_boot_loader` exchanges the data of a file with that of inode 5.  It
works on inodes in memory, and passes them on with `ext4_mark_inode_dirty`, so
both levels are kept: `inode` is the memory and `marked` what was last passed on.
The trace has the locks, the handle and the changes in their order.

An inode here is as its writeback leaves it.  Failures, the clock and the random
generations come from a `SwapEnv`.
-/

/-- `EXT4_BOOT_LOADER_INO`. -/
def bootLoaderIno : Nat := 5

/-- Operations of the swap that can fail.  `again` is for the calls of
`ext4_mark_inode_dirty` whose result is not looked at. -/
inductive SwapExtern where
  | iget
  | filemapWriteAndWait (bootLoader : Bool)
  | journalStart
  | dquotInitialize
  | extTreeInit
  | markInodeDirty (ino : Nat)
  | markInodeDirtyAgain (ino : Nat)
  | dquotAllocSpace
  | dquotMark

/-- What the swap tests and no field of its inodes tells. -/
inductive SwapTest where
  | isRdonly
  | hasInlineData
  | inodeOwnerOrCapable
  | capableSysAdmin
  | isBadInode
  | featureExtents

structure SwapEnv where
  err : SwapExtern -> Option Errno
  test : SwapTest -> Bool
  features : Features
  now : Nat -> Timespec
  random : Nat -> UInt32

/-- One operation of the swap, with its result where it can fail. -/
inductive SwapOp where
  | iget (err : Option Errno)
  | lockTwoNondirectories
  | filemapInvalidateLock
  | journalStart (credits : Nat) (err : Option Errno)
  | downWriteDataSem
  | change (ino : Nat)
  | markInodeDirty (ino : Nat) (err : Option Errno)
  | journalStop
  | upWriteDataSem
  | filemapInvalidateUnlock
  | unlockTwoNondirectories
  | iput
deriving DecidableEq, Repr

/-- The inodes of a mounted volume by their numbers. -/
structure Inodes where
  inode : Nat -> Inode
  marked : Nat -> Inode
  trace : List SwapOp

namespace Inodes

def log (ops : List SwapOp) (inodes : Inodes) : Inodes :=
  { inodes with trace := inodes.trace ++ ops }

def change (ino : Nat) (update : Inode -> Inode) (inodes : Inodes) : Inodes :=
  { inodes with
    inode := Function.update inodes.inode ino (update (inodes.inode ino))
    trace := inodes.trace ++ [.change ino] }

/-- `ext4_mark_inode_dirty`: a failed call passes nothing on. -/
def mark (ino : Nat) (err : Option Errno) (inodes : Inodes) : Inodes :=
  { inodes with
    marked :=
      if err.isNone then Function.update inodes.marked ino (inodes.inode ino) else inodes.marked
    trace := inodes.trace ++ [.markInodeDirty ino err] }

section

variable (ino : Nat) (err : Option Errno) (update : Inode -> Inode) (ops : List SwapOp)
  (inodes : Inodes)

@[simp] theorem log_inode : (inodes.log ops).inode = inodes.inode := rfl

@[simp] theorem log_marked : (inodes.log ops).marked = inodes.marked := rfl

@[simp] theorem change_inode :
    (inodes.change ino update).inode =
      Function.update inodes.inode ino (update (inodes.inode ino)) := rfl

@[simp] theorem change_marked : (inodes.change ino update).marked = inodes.marked := rfl

@[simp] theorem mark_inode : (inodes.mark ino err).inode = inodes.inode := rfl

@[simp] theorem mark_marked_none :
    (inodes.mark ino none).marked = Function.update inodes.marked ino (inodes.inode ino) := rfl

theorem mark_marked_of_ne {number : Nat} (other : number ≠ ino) :
    (inodes.mark ino err).marked number = inodes.marked number := by
  unfold mark
  cases err with
  | none => exact Function.update_of_ne other _ _
  | some err => rfl

end

end Inodes

variable (code : InodeCode) (env : SwapEnv)

/-- `memswap` on the block maps of two inodes. -/
def IData.memswap (data1 data2 : IData) : IData × IData :=
  (⟨(Ext4.memswap data1.bytes data2.bytes 60).1, by
      rw [memswap_eq data1.length_bytes data2.length_bytes]
      exact data2.length_bytes⟩,
    ⟨(Ext4.memswap data1.bytes data2.bytes 60).2, by
      rw [memswap_eq data1.length_bytes data2.length_bytes]
      exact data1.length_bytes⟩)

theorem IData.memswap_eq (data1 data2 : IData) : data1.memswap data2 = (data2, data1) := by
  unfold IData.memswap
  simp only [Ext4.memswap_eq data1.length_bytes data2.length_bytes]

/-- `swap_inode_data`. -/
def swapInodeData (inode1 inode2 : Inode) : Inode × Inode :=
  let (data1, data2) := inode1.data.memswap inode2.data
  let tmp := inode1.flags &&& FlagWord.shouldSwap
  ({ inode1 with
      version := inode2.version
      atime := inode2.atime
      mtime := inode2.mtime
      data := data1
      flags := inode2.flags &&& FlagWord.shouldSwap ||| inode1.flags &&& ~~~FlagWord.shouldSwap
      disksize := inode2.disksize
      size := inode2.size },
    { inode2 with
      version := inode1.version
      atime := inode1.atime
      mtime := inode1.mtime
      data := data2
      flags := tmp ||| inode2.flags &&& ~~~FlagWord.shouldSwap
      disksize := inode1.disksize
      size := inode1.size })

/-- `ext4_reset_inode_seed`. -/
def ext4ResetInodeSeed (ino : Nat) (inode : Inode) : Inode :=
  if !ext4HasMetadataCsum env.features then inode else
  let csum := code.ext4Chksum code.sCsumSeed (UInt32.ofNat ino)
  { inode with csumSeed := code.ext4Chksum csum inode.generation }

/-- The boot loader inode has never been used as one. -/
def neverUsed (inodeBl : Inode) : Bool :=
  env.test .isBadInode || inodeBl.fileType != .regular

/-- The fields that a boot loader inode gets on its first use. -/
def firstUse (inodeBl : Inode) : Inode :=
  { inodeBl with
    nlink := 1
    uid := 0
    gid := 0
    vfsFlags := VfsFlags.none
    flags := if env.test .featureExtents then FlagWord.extents else 0
    version := 1
    size := 0
    disksize := 0
    fileType := .regular
    perm := 0
    data := if env.test .featureExtents then code.ext4ExtTreeInit inodeBl.data else IData.zero }

/-- The set-up on first use.  `ext4_ext_tree_init` marks the inode dirty itself. -/
def prepareBootLoader (inodes : Inodes) : Inodes :=
  if neverUsed env (inodes.inode bootLoaderIno) then
    let inodes := inodes.change bootLoaderIno (firstUse code env)
    if env.test .featureExtents then inodes.mark bootLoaderIno (env.err .extTreeInit) else inodes
  else inodes

/-- `swap_inode_data` on the file and the boot loader inode. -/
def swapStored (ino : Nat) (inodes : Inodes) : Inodes :=
  let (inode, inodeBl) := swapInodeData (inodes.inode ino) (inodes.inode bootLoaderIno)
  (inodes.change ino fun _ => inode).change bootLoaderIno fun _ => inodeBl

/-- The times, generations and seeds that the two inodes get once swapped. -/
def stampSwapped (ino : Nat) (inodes : Inodes) : Inodes :=
  let inodes := inodes.change ino fun inode => { inode with ctime := env.now ino }
  let inodes := inodes.change bootLoaderIno fun inode =>
    { inode with ctime := env.now bootLoaderIno }
  let inodes := inodes.change ino fun inode =>
    { inode with version := code.inodeIncIversion inode.version }
  let inodes := inodes.change ino fun inode => { inode with generation := env.random ino }
  let inodes := inodes.change bootLoaderIno fun inode =>
    { inode with generation := env.random bootLoaderIno }
  let inodes := inodes.change ino (ext4ResetInodeSeed code env ino)
  inodes.change bootLoaderIno (ext4ResetInodeSeed code env bootLoaderIno)

/-- The label `revert`, with the space of the boot loader inode from before. -/
def revertSwap (ino blocks bytes : Nat) (inodes : Inodes) : Inodes :=
  let inodes := inodes.change bootLoaderIno fun inode =>
    { inode with blocks := blocks, bytes := bytes }
  let inodes := swapStored ino inodes
  let inodes := inodes.mark ino (env.err (.markInodeDirtyAgain ino))
  inodes.mark bootLoaderIno (env.err (.markInodeDirtyAgain bootLoaderIno))

/-- `dquot_free_space` or `dquot_alloc_space` on the file, which marks it dirty. -/
def moveSpace (ino : Nat) (diff : Int) (inodes : Inodes) : Inodes × Option Errno :=
  if 0 < diff then
    let inodes := inodes.change ino (code.dquotFreeSpace diff.toNat)
    (inodes.mark ino (env.err .dquotMark), none)
  else
    match env.err .dquotAllocSpace with
    | some err => (inodes, some err)
    | none =>
        let inodes := inodes.change ino (code.dquotAllocSpace (-diff).toNat)
        (inodes.mark ino (env.err .dquotMark), none)

/-- The boot loader inode gets the space of the file. -/
def copySpace (ino : Nat) (inodes : Inodes) : Inodes :=
  let file := inodes.inode ino
  inodes.change bootLoaderIno fun inode => { inode with blocks := file.blocks, bytes := file.bytes }

/-- What follows the first swap, up to the label `err_out1`. -/
def settleSwap (ino : Nat) (diff : Int) (inodes : Inodes) : Inodes × Option Errno :=
  let inodes := stampSwapped code env ino inodes
  let inodes := inodes.mark ino (env.err (.markInodeDirty ino))
  match env.err (.markInodeDirty ino) with
  | some err =>
      let inodes := swapStored ino inodes
      (inodes.mark ino (env.err (.markInodeDirtyAgain ino)), some err)
  | none =>
  let blocks := (inodes.inode bootLoaderIno).blocks
  let bytes := (inodes.inode bootLoaderIno).bytes
  let inodes := copySpace ino inodes
  let inodes := inodes.mark bootLoaderIno (env.err (.markInodeDirty bootLoaderIno))
  match env.err (.markInodeDirty bootLoaderIno) with
  | some err => (revertSwap env ino blocks bytes inodes, some err)
  | none =>
  match moveSpace code env ino diff inodes with
  | (inodes, some err) => (revertSwap env ino blocks bytes inodes, some err)
  | (inodes, none) => (inodes, none)

/-- The file is not one that can be swapped. -/
def unfitForSwap (inode : Inode) : Bool :=
  inode.nlink != 1 || inode.fileType != .regular || inode.vfsFlags.swapfile ||
    inode.vfsFlags.encrypted || decide (inode.flags.Has FlagWord.journalData) ||
    env.test .hasInlineData

/-- The caller may not swap the file. -/
def forbiddenSwap (inode : Inode) : Bool :=
  env.test .isRdonly || inode.vfsFlags.append || inode.vfsFlags.immutable ||
    !env.test .inodeOwnerOrCapable || !env.test .capableSysAdmin

/-- The label `journal_err_out`. -/
def journalErrOut (ret : Int) (inodes : Inodes) : Inodes × Int :=
  (inodes.log [.unlockTwoNondirectories, .iput], ret)

/-- The label `err_out`. -/
def errOut (ret : Int) (inodes : Inodes) : Inodes × Int :=
  journalErrOut ret (inodes.log [.filemapInvalidateUnlock])

/-- The label `err_out1`. -/
def errOut1 (ret : Int) (inodes : Inodes) : Inodes × Int :=
  errOut ret (inodes.log [.journalStop, .upWriteDataSem])

/-- What is done under the journal handle. -/
def swapUnderHandle (ino : Nat) (inodes : Inodes) : Inodes × Int :=
  let inodes := prepareBootLoader code env inodes
  match env.err .dquotInitialize with
  | some err => errOut1 err.code inodes
  | none =>
  let diff : Int := (inodes.inode ino).space - (inodes.inode bootLoaderIno).space
  let (inodes, err) := settleSwap code env ino diff (swapStored ino inodes)
  errOut1 (Errno.result err) inodes

/-- `swap_inode_boot_loader`. -/
def swapBootLoaderInode (ino : Nat) (inodes : Inodes) : Inodes × Int :=
  let inodes := inodes.log [.iget (env.err .iget)]
  match env.err .iget with
  | some err => (inodes, err.code)
  | none =>
  let inodes := inodes.log [.lockTwoNondirectories]
  if unfitForSwap env (inodes.inode ino) then journalErrOut Errno.einval.code inodes
  else if forbiddenSwap env (inodes.inode ino) then journalErrOut Errno.eperm.code inodes
  else
  let inodes := inodes.log [.filemapInvalidateLock]
  match env.err (.filemapWriteAndWait false) with
  | some err => errOut err.code inodes
  | none =>
  match env.err (.filemapWriteAndWait true) with
  | some err => errOut err.code inodes
  | none =>
  let inodes := inodes.log [.journalStart 2 (env.err .journalStart)]
  if (env.err .journalStart).isSome then errOut Errno.einval.code inodes else
  swapUnderHandle code env ino (inodes.log [.downWriteDataSem])

/-! ## The ways through -/

/-- The call ends before it has its handle. -/
def SwapRefused (ino : Nat) (inodes : Inodes) : Prop :=
  env.err .iget ≠ none ∨ unfitForSwap env (inodes.inode ino) = true ∨
    forbiddenSwap env (inodes.inode ino) = true ∨ env.err (.filemapWriteAndWait false) ≠ none ∨
    env.err (.filemapWriteAndWait true) ≠ none ∨ env.err .journalStart ≠ none

/-- Everything that a refused call can do. -/
inductive RefusedSwap (ino : Nat) (inodes : Inodes) : Inodes × Int -> Prop where
  | ungotten (err : Errno) (failed : env.err .iget = some err) :
      RefusedSwap ino inodes (inodes.log [.iget (some err)], err.code)
  | checked (err : Errno)
      (failed : unfitForSwap env (inodes.inode ino) = true ∧ err = .einval ∨
        forbiddenSwap env (inodes.inode ino) = true ∧ err = .eperm) :
      RefusedSwap ino inodes
        (inodes.log [.iget none, .lockTwoNondirectories, .unlockTwoNondirectories, .iput],
          err.code)
  | unwritten (err : Errno) (bootLoader : Bool)
      (failed : env.err (.filemapWriteAndWait bootLoader) = some err) :
      RefusedSwap ino inodes
        (inodes.log [.iget none, .lockTwoNondirectories, .filemapInvalidateLock,
          .filemapInvalidateUnlock, .unlockTwoNondirectories, .iput], err.code)
  | unstarted (err : Errno) (failed : env.err .journalStart = some err) :
      RefusedSwap ino inodes
        (inodes.log [.iget none, .lockTwoNondirectories, .filemapInvalidateLock,
          .journalStart 2 (some err), .filemapInvalidateUnlock, .unlockTwoNondirectories, .iput],
          Errno.einval.code)

/-- What a call does on its way to its handle. -/
def openingOps : List SwapOp :=
  [.iget none, .lockTwoNondirectories, .filemapInvalidateLock, .journalStart 2 none,
    .downWriteDataSem]

theorem swapBootLoaderInode_cases (ino : Nat) (inodes : Inodes) :
    (SwapRefused env ino inodes ∧
        RefusedSwap env ino inodes (swapBootLoaderInode code env ino inodes)) ∨
      (¬ SwapRefused env ino inodes ∧ swapBootLoaderInode code env ino inodes =
        swapUnderHandle code env ino (inodes.log openingOps)) := by
  unfold swapBootLoaderInode SwapRefused journalErrOut errOut
  simp only [Inodes.log_inode]
  cases gotten : env.err .iget with
  | some err => exact Or.inl ⟨Or.inl (Option.some_ne_none err), .ungotten err gotten⟩
  | none =>
  by_cases unfit : unfitForSwap env (inodes.inode ino) = true
  · refine Or.inl ⟨Or.inr (Or.inl unfit), ?_⟩
    have checked := @RefusedSwap.checked env ino inodes .einval (Or.inl ⟨unfit, rfl⟩)
    simpa [unfit, Inodes.log, journalErrOut] using checked
  by_cases forbidden : forbiddenSwap env (inodes.inode ino) = true
  · refine Or.inl ⟨Or.inr (Or.inr (Or.inl forbidden)), ?_⟩
    have checked := @RefusedSwap.checked env ino inodes .eperm (Or.inr ⟨forbidden, rfl⟩)
    simpa [unfit, forbidden, Inodes.log, journalErrOut] using checked
  cases written : env.err (.filemapWriteAndWait false) with
  | some err =>
      have unwritten := @RefusedSwap.unwritten env ino inodes err false written
      refine Or.inl ⟨by simp, ?_⟩
      simpa [unfit, forbidden, Inodes.log, journalErrOut] using unwritten
  | none =>
  cases writtenBl : env.err (.filemapWriteAndWait true) with
  | some err =>
      have unwritten := @RefusedSwap.unwritten env ino inodes err true writtenBl
      refine Or.inl ⟨by simp, ?_⟩
      simpa [unfit, forbidden, Inodes.log, journalErrOut] using unwritten
  | none =>
  cases started : env.err .journalStart with
  | some err =>
      have unstarted := @RefusedSwap.unstarted env ino inodes err started
      refine Or.inl ⟨by simp, ?_⟩
      simpa [unfit, forbidden, Inodes.log, journalErrOut] using unstarted
  | none =>
      refine Or.inr ⟨by simp [unfit, forbidden], ?_⟩
      simp [unfit, forbidden, Inodes.log, openingOps]

end Ext4
end Evfs
