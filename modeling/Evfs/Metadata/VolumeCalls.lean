import Evfs.Metadata.AttributeHistories
import Evfs.Metadata.SwapHistories

namespace Evfs
namespace Metadata

open Foundation Ext4

/-!
# Calls on the inodes of a volume

Swaps, attribute requests and version requests, in any order and on any files.  A
request concerns the inode of its file.  A swap concerns its file and the boot
loader inode, and it is shown here that it leaves all others alone, whatever fails
in it and whatever the code outside does with the two.
-/

section

variable {code : InodeCode}

/-! ## What a swap leaves alone -/

section Frame

variable {ino number : Nat} {swap : SwapEnv}

theorem moveSpace_spares (notFile : number ≠ ino) (diff : Int) (inodes : Inodes) :
    (moveSpace code swap ino diff inodes).1.inode number = inodes.inode number := by
  unfold moveSpace
  split
  · simp [notFile]
  split <;> simp [notFile]

variable (notFile : number ≠ ino) (notBootLoader : number ≠ bootLoaderIno)
include notFile notBootLoader

theorem swapStored_spares (inodes : Inodes) :
    (swapStored ino inodes).inode number = inodes.inode number := by
  simp [swapStored, notFile, notBootLoader]

theorem stampSwapped_spares (inodes : Inodes) :
    (stampSwapped code swap ino inodes).inode number = inodes.inode number := by
  simp [stampSwapped, notFile, notBootLoader]

theorem revertSwap_spares (blocks bytes : Nat) (inodes : Inodes) :
    (revertSwap swap ino blocks bytes inodes).inode number = inodes.inode number := by
  simp [revertSwap, swapStored_spares notFile notBootLoader, notBootLoader]

theorem settleSwap_spares (diff : Int) (inodes : Inodes) :
    (settleSwap code swap ino diff inodes).1.inode number = inodes.inode number := by
  have stamped := @stampSwapped_spares code ino number swap notFile notBootLoader inodes
  have moved := @moveSpace_spares code ino number swap notFile diff
  unfold settleSwap
  generalize stampSwapped code swap ino inodes = first at stamped ⊢
  cases swap.err (.markInodeDirty ino) with
  | some err => exact (swapStored_spares notFile notBootLoader _).trans stamped
  | none =>
  have copied : forall err, ((copySpace ino (first.mark ino none)).mark bootLoaderIno err).inode
      number = inodes.inode number := by
    intro err
    simp [copySpace, notBootLoader, stamped]
  dsimp only
  cases swap.err (.markInodeDirty bootLoaderIno) with
  | some err => exact (revertSwap_spares notFile notBootLoader _ _ _).trans (copied _)
  | none =>
  have through := (moved _).trans (copied none)
  dsimp only
  rcases outcome : moveSpace code swap ino diff
    ((copySpace ino (first.mark ino none)).mark bootLoaderIno none) with ⟨after, err⟩
  rw [outcome] at through
  cases err with
  | some err => exact (revertSwap_spares notFile notBootLoader _ _ _).trans through
  | none => exact through

/-- A swap changes the file and the boot loader inode and no other. -/
theorem swap_spares (inodes : Inodes) :
    (swapBootLoaderInode code swap ino inodes).1.inode number = inodes.inode number := by
  rcases swapBootLoaderInode_cases code swap ino inodes with ⟨-, refused⟩ | ⟨-, body⟩
  · generalize swapBootLoaderInode code swap ino inodes = result at refused ⊢
    cases refused <;> rfl
  · have prepared : (prepareBootLoader code swap (inodes.log openingOps)).inode number =
        inodes.inode number := by
      rw [prepareBootLoader_inode, Function.update_of_ne notBootLoader]
      rfl
    rw [body]
    unfold swapUnderHandle
    cases swap.err .dquotInitialize with
    | some err => exact prepared
    | none =>
        exact (settleSwap_spares notFile notBootLoader _ _).trans
          ((swapStored_spares notFile notBootLoader _).trans prepared)

end Frame

/-- A refused swap changes no inode. -/
theorem swap_refused {ino : Nat} {swap : SwapEnv} {inodes : Inodes}
    (refused : SwapRefused swap ino inodes) :
    (swapBootLoaderInode code swap ino inodes).1.inode = inodes.inode := by
  rcases swapBootLoaderInode_cases code swap ino inodes with ⟨-, outcome⟩ | ⟨admitted, -⟩
  · generalize swapBootLoaderInode code swap ino inodes = result at outcome ⊢
    cases outcome <;> rfl
  · exact absurd refused admitted

end

/-! ## Calls -/

/-- A swap, or a request for one file.  `passedOn` is what the journal gets of the
file from the request. -/
inductive VolumeCall where
  | swap (call : SwapCall)
  | setAttributes (ino : Nat) (call : AttrCall) (passedOn : Inode)
  | setVersion (ino : Nat) (env : VersionEnv) (generation : UInt32) (passedOn : Inode)

/-- A request that changes the inode of one file. -/
def request (ino : Nat) (after passedOn : Inode) (inodes : Inodes) : Inodes :=
  { inodes with
    inode := Function.update inodes.inode ino after
    marked := Function.update inodes.marked ino passedOn }

def volumeStep (code : InodeCode) (inodes : Inodes) : VolumeCall -> Inodes
  | .swap call => swapStep code inodes call
  | .setAttributes ino call passedOn =>
      request ino (attrStep code (inodes.inode ino) call) passedOn inodes
  | .setVersion ino env generation passedOn =>
      request ino (setversion code env generation (inodes.inode ino)).1 passedOn inodes

end Metadata
end Evfs
