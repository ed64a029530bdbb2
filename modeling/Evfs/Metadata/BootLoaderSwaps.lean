import Evfs.Ext4.SwapBoot

namespace Evfs
namespace Metadata

open Foundation Ext4

/-!
# What a swap with the boot loader inode leaves

A swap that reports success has exchanged the contents of the two inodes, with
the space that they account for.  One that fails after its first exchange undoes
it, and what it leaves behind is exact: new times, generations and seeds on both
sides, and a version counter that has gone up on the boot loader inode only.

So a run of swaps permutes contents, whatever fails in it.  The inodes that were
passed on to the journal hold the same contents, as long as the calls whose result
the code ignores do not fail.
-/

section

variable {code : InodeCode} {env : SwapEnv} {ino : Nat}

/-! ## Two inodes of a volume -/

/-- The inodes with two of them replaced, the file and the boot loader inode. -/
def pair (inode : Nat -> Inode) (ino : Nat) (file inodeBl : Inode) : Nat -> Inode :=
  Function.update (Function.update inode ino file) bootLoaderIno inodeBl

section Pair

variable (inode : Nat -> Inode) (file inodeBl other : Inode)

@[simp] theorem pair_bootLoader : pair inode ino file inodeBl bootLoaderIno = inodeBl :=
  Function.update_self _ _ _

@[simp] theorem update_pair_bootLoader :
    Function.update (pair inode ino file inodeBl) bootLoaderIno other =
      pair inode ino file other :=
  Function.update_idem _ _ _

theorem pair_of_ne {number : Nat} (notFile : number ≠ ino)
    (notBootLoader : number ≠ bootLoaderIno) :
    pair inode ino file inodeBl number = inode number := by
  rw [pair, Function.update_of_ne notBootLoader, Function.update_of_ne notFile]

theorem pair_file (apart : ino ≠ bootLoaderIno) : pair inode ino file inodeBl ino = file := by
  rw [pair, Function.update_of_ne apart, Function.update_self]

theorem update_pair_file (apart : ino ≠ bootLoaderIno) :
    Function.update (pair inode ino file inodeBl) ino other = pair inode ino other inodeBl := by
  rw [pair, Function.update_comm apart.symm, Function.update_idem, ← pair]

theorem pair_self : pair inode ino (inode ino) (inode bootLoaderIno) = inode := by
  funext number
  by_cases atBootLoader : number = bootLoaderIno
  · rw [atBootLoader, pair_bootLoader]
  · by_cases atFile : number = ino
    · rw [atFile] at atBootLoader ⊢
      exact pair_file inode _ _ atBootLoader
    · exact pair_of_ne inode _ _ atFile atBootLoader

end Pair

/-! ## Exchanging twice -/

/-- New times, generation and seed. -/
def stampInode (code : InodeCode) (env : SwapEnv) (ino : Nat) (inode : Inode) : Inode :=
  ext4ResetInodeSeed code env ino
    { inode with ctime := env.now ino, generation := env.random ino }

/-- "Calling this method twice will revert all changes." -/
theorem swapInodeData_swapInodeData (inode1 inode2 : Inode) :
    swapInodeData (swapInodeData inode1 inode2).1 (swapInodeData inode1 inode2).2 =
      (inode1, inode2) := by
  have first := Masked.merge_merge FlagWord.shouldSwap inode2.flags inode1.flags
  have second := Masked.merge_merge FlagWord.shouldSwap inode1.flags inode2.flags
  have taken := Masked.merge_taken FlagWord.shouldSwap inode2.flags inode1.flags
  have takenToo := Masked.merge_taken FlagWord.shouldSwap inode1.flags inode2.flags
  unfold Masked.merge at first second taken takenToo
  simp only [swapInodeData, IData.memswap_eq, taken, takenToo, first, second]

/-- Stamping does not touch what is exchanged, nor the space. -/
theorem swapInodeData_stampInode (inode1 inode2 : Inode) (ino1 ino2 : Nat) :
    swapInodeData (stampInode code env ino1 inode1) (stampInode code env ino2 inode2) =
      (stampInode code env ino1 (swapInodeData inode1 inode2).1,
        stampInode code env ino2 (swapInodeData inode1 inode2).2) := by
  unfold stampInode ext4ResetInodeSeed
  cases ext4HasMetadataCsum env.features <;> rfl

/-- The version that the file gets before it is exchanged back goes to the other side. -/
theorem swapInodeData_version (inode1 inode2 : Inode) (version : UInt64) :
    swapInodeData { inode1 with version := version } inode2 =
      ((swapInodeData inode1 inode2).1,
        { (swapInodeData inode1 inode2).2 with version := version }) := rfl

/-- The file and the boot loader inode once they are exchanged and stamped. -/
def stampedPair (code : InodeCode) (env : SwapEnv) (ino : Nat) (file inodeBl : Inode) :
    Inode × Inode :=
  (stampInode code env ino
      { (swapInodeData file inodeBl).1 with version := code.inodeIncIversion inodeBl.version },
    stampInode code env bootLoaderIno (swapInodeData file inodeBl).2)

theorem stampInode_blocks (number : Nat) (inode : Inode) :
    (stampInode code env number inode).blocks = inode.blocks := by
  unfold stampInode ext4ResetInodeSeed
  cases ext4HasMetadataCsum env.features <;> rfl

theorem stampInode_bytes (number : Nat) (inode : Inode) :
    (stampInode code env number inode).bytes = inode.bytes := by
  unfold stampInode ext4ResetInodeSeed
  cases ext4HasMetadataCsum env.features <;> rfl

/-- No space has moved yet. -/
theorem stampedPair_space (file inodeBl : Inode) :
    (stampedPair code env ino file inodeBl).1.blocks = file.blocks ∧
      (stampedPair code env ino file inodeBl).1.bytes = file.bytes :=
  ⟨stampInode_blocks _ _, stampInode_bytes _ _⟩

/-- The file and the boot loader inode after a swap. -/
def swappedPair (code : InodeCode) (env : SwapEnv) (ino : Nat) (file inodeBl : Inode) :
    Inode × Inode :=
  ({ (stampedPair code env ino file inodeBl).1 with
      blocks := inodeBl.blocks
      bytes := inodeBl.bytes },
    { (stampedPair code env ino file inodeBl).2 with
      blocks := file.blocks
      bytes := file.bytes })

/-- The file and the boot loader inode after a swap that was undone. -/
def revertedPair (code : InodeCode) (env : SwapEnv) (ino : Nat) (file inodeBl : Inode) :
    Inode × Inode :=
  (stampInode code env ino file,
    stampInode code env bootLoaderIno
      { inodeBl with version := code.inodeIncIversion inodeBl.version })

/-- Exchanging back what has been exchanged and stamped. -/
theorem swapInodeData_stampedPair (file inodeBl : Inode) :
    swapInodeData (stampedPair code env ino file inodeBl).1
        (stampedPair code env ino file inodeBl).2 =
      revertedPair code env ino file inodeBl := by
  unfold stampedPair
  rw [swapInodeData_stampInode, swapInodeData_version, swapInodeData_swapInodeData, revertedPair]

section Settle

variable (apart : ino ≠ bootLoaderIno)
include apart

theorem swapStored_inode {inodes : Inodes} {inode : Nat -> Inode} {file inodeBl : Inode}
    (holds : inodes.inode = pair inode ino file inodeBl) :
    (swapStored ino inodes).inode =
      pair inode ino (swapInodeData file inodeBl).1 (swapInodeData file inodeBl).2 := by
  unfold swapStored Inodes.change
  simp only [holds, pair_bootLoader, pair_file _ _ _ apart, update_pair_file _ _ _ _ apart,
    update_pair_bootLoader]

theorem stampSwapped_inode {inodes : Inodes} {inode : Nat -> Inode} {file inodeBl : Inode}
    (holds : inodes.inode = pair inode ino (swapInodeData file inodeBl).1
      (swapInodeData file inodeBl).2) :
    (stampSwapped code env ino inodes).inode =
      pair inode ino (stampedPair code env ino file inodeBl).1
        (stampedPair code env ino file inodeBl).2 := by
  unfold stampSwapped Inodes.change stampedPair stampInode
  simp only [holds, pair_bootLoader, pair_file _ _ _ apart, update_pair_file _ _ _ _ apart,
    update_pair_bootLoader]
  rfl

/-- The quota moves from one space to the other, or nothing happens. -/
theorem moveSpace_outcome (lawful : code.Lawful) {inodes : Inodes} {inode : Nat -> Inode}
    {file inodeBl old : Inode} (holds : inodes.inode = pair inode ino file inodeBl)
    (normal : file.Normal) (oldNormal : old.Normal) :
    let result := moveSpace code env ino (file.space - old.space) inodes
    (result.2 = none -> result.1.inode =
        pair inode ino { file with blocks := old.blocks, bytes := old.bytes } inodeBl) ∧
      (result.2 ≠ none -> result.1.inode = inodes.inode) ∧
      (forall number, number ≠ ino -> result.1.marked number = inodes.marked number) ∧
      (result.2 = none -> env.err .dquotMark = none ->
        result.1.marked ino = result.1.inode ino) := by
  have settled : forall space : Inode -> Inode,
      space file = { file with blocks := old.blocks, bytes := old.bytes } ->
        let after := (inodes.change ino space).mark ino (env.err .dquotMark)
        after.inode =
            pair inode ino { file with blocks := old.blocks, bytes := old.bytes } inodeBl ∧
          (forall number, number ≠ ino -> after.marked number = inodes.marked number) ∧
          (env.err .dquotMark = none -> after.marked ino = after.inode ino) := by
    intro space moved
    refine ⟨?_, ?_, ?_⟩
    · rw [Inodes.mark_inode, Inodes.change_inode, holds, pair_file _ _ _ apart, moved,
        update_pair_file _ _ _ _ apart]
    · intro number notFile
      rw [Inodes.mark_marked_of_ne _ _ _ notFile, Inodes.change_marked]
    · intro passed
      rw [passed, Inodes.mark_marked_none, Function.update_self, Inodes.mark_inode]
  dsimp only
  unfold moveSpace
  by_cases shrinks : (0 : Int) < (file.space : Int) - old.space
  · rw [if_pos shrinks]
    have enough : ((file.space : Int) - old.space).toNat ≤ file.space := by omega
    have left : file.space - ((file.space : Int) - old.space).toNat = old.space := by omega
    have moved := settled (code.dquotFreeSpace ((file.space : Int) - old.space).toNat) (by
      rw [lawful.freeSpace_eq _ _ normal enough, left, oldNormal.space_div, oldNormal.space_mod])
    exact ⟨fun _ => moved.1, fun failed => absurd rfl failed, moved.2.1, fun _ => moved.2.2⟩
  · rw [if_neg shrinks]
    cases allocated : env.err .dquotAllocSpace with
    | some err =>
        exact ⟨fun success => absurd success (Option.some_ne_none err), fun _ => rfl,
          fun _ _ => rfl, fun success => absurd success (Option.some_ne_none err)⟩
    | none =>
        have grown : file.space + (-((file.space : Int) - old.space)).toNat = old.space := by omega
        have moved := settled (code.dquotAllocSpace (-((file.space : Int) - old.space)).toNat) (by
          rw [lawful.allocSpace_eq _ _ normal, grown, oldNormal.space_div, oldNormal.space_mod])
        exact ⟨fun _ => moved.1, fun failed => absurd rfl failed, moved.2.1, fun _ => moved.2.2⟩

/-! ## Settling or undoing -/

/-- Calls of `ext4_mark_inode_dirty` whose result the code ignores do not fail. -/
structure QuietMarks (env : SwapEnv) (ino : Nat) : Prop where
  file : env.err (.markInodeDirtyAgain ino) = none
  bootLoader : env.err (.markInodeDirtyAgain bootLoaderIno) = none
  quota : env.err .dquotMark = none

/-- Everything that `settleSwap` can do, from a file and a boot loader inode that
have been exchanged in memory. -/
structure Settled (code : InodeCode) (env : SwapEnv) (ino : Nat) (inode marked : Nat -> Inode)
    (file inodeBl : Inode) (result : Inodes × Option Errno) : Prop where
  settled : result.2 = none ->
    result.1.inode = pair inode ino (swappedPair code env ino file inodeBl).1
      (swappedPair code env ino file inodeBl).2
  undone : result.2 ≠ none ->
    result.1.inode = pair inode ino (revertedPair code env ino file inodeBl).1
      (revertedPair code env ino file inodeBl).2
  marked_of_ne : forall number, number ≠ ino -> number ≠ bootLoaderIno ->
    result.1.marked number = marked number
  marked_file : QuietMarks env ino -> result.1.marked ino = result.1.inode ino
  marked_bootLoader : QuietMarks env ino ->
    result.1.marked bootLoaderIno = result.1.inode bootLoaderIno ∨
      (result.2 ≠ none ∧ result.1.marked bootLoaderIno = marked bootLoaderIno)

/-- The label `revert` undoes the exchange on both levels. -/
theorem revertSwap_undoes {inodes : Inodes} {inode : Nat -> Inode} {file inodeBl : Inode}
    {blocks bytes : Nat}
    (holds : inodes.inode = pair inode ino (stampedPair code env ino file inodeBl).1
      { (stampedPair code env ino file inodeBl).2 with blocks := blocks, bytes := bytes }) :
    let space := (stampedPair code env ino file inodeBl).2
    let after := revertSwap env ino space.blocks space.bytes inodes
    after.inode = pair inode ino (revertedPair code env ino file inodeBl).1
        (revertedPair code env ino file inodeBl).2 ∧
      (forall number, number ≠ ino -> number ≠ bootLoaderIno ->
        after.marked number = inodes.marked number) ∧
      (QuietMarks env ino -> after.marked ino = after.inode ino ∧
        after.marked bootLoaderIno = after.inode bootLoaderIno) := by
  have restored : (inodes.change bootLoaderIno fun current =>
      { current with
        blocks := (stampedPair code env ino file inodeBl).2.blocks
        bytes := (stampedPair code env ino file inodeBl).2.bytes }).inode =
      pair inode ino (stampedPair code env ino file inodeBl).1
        (stampedPair code env ino file inodeBl).2 := by
    rw [Inodes.change_inode, holds, pair_bootLoader, update_pair_bootLoader]
  have undone := swapStored_inode apart restored
  rw [swapInodeData_stampedPair] at undone
  dsimp only
  unfold revertSwap
  refine ⟨undone, ?_, ?_⟩
  · intro number notFile notBootLoader
    rw [Inodes.mark_marked_of_ne _ _ _ notBootLoader, Inodes.mark_marked_of_ne _ _ _ notFile]
    rfl
  · intro quiet
    rw [quiet.file, quiet.bootLoader, Inodes.mark_marked_none, Function.update_self,
      Function.update_of_ne apart, Inodes.mark_marked_none, Function.update_self]
    exact ⟨rfl, rfl⟩

/-- The spec of `settleSwap`: it goes through, or it fails in one of three places. -/
theorem settleSwap_settled (lawful : code.Lawful) {inodes : Inodes} {inode : Nat -> Inode}
    {file inodeBl : Inode} (normal : file.Normal) (normalBl : inodeBl.Normal)
    (holds : inodes.inode = pair inode ino (swapInodeData file inodeBl).1
      (swapInodeData file inodeBl).2) :
    Settled code env ino inode inodes.marked file inodeBl
      (settleSwap code env ino (file.space - inodeBl.space) inodes) := by
  have stamped := @stampSwapped_inode code env ino apart inodes inode _ _ holds
  have kept : (stampSwapped code env ino inodes).marked = inodes.marked := rfl
  unfold settleSwap
  generalize stampSwapped code env ino inodes = first at stamped kept ⊢
  cases passed : env.err (.markInodeDirty ino) with
  | some err =>
      have undone := @swapStored_inode ino apart (first.mark ino (some err)) inode _ _ stamped
      rw [swapInodeData_stampedPair] at undone
      dsimp only
      refine ⟨fun success => absurd success (Option.some_ne_none err), fun _ => undone, ?_, ?_, ?_⟩
      · intro number notFile _
        rw [Inodes.mark_marked_of_ne _ _ _ notFile]
        exact congrFun kept number
      · intro quiet
        rw [quiet.file, Inodes.mark_marked_none, Function.update_self, Inodes.mark_inode]
      · intro _
        refine Or.inr ⟨Option.some_ne_none err, ?_⟩
        rw [Inodes.mark_marked_of_ne _ _ _ apart.symm]
        exact congrFun kept bootLoaderIno
  | none =>
      have copied : (copySpace ino (first.mark ino none)).inode =
          pair inode ino (stampedPair code env ino file inodeBl).1
            { (stampedPair code env ino file inodeBl).2 with
              blocks := file.blocks
              bytes := file.bytes } := by
        unfold copySpace
        rw [Inodes.change_inode, Inodes.mark_inode, stamped, pair_bootLoader,
          update_pair_bootLoader, pair_file _ _ _ apart, (stampedPair_space file inodeBl).1,
          (stampedPair_space file inodeBl).2]
      have copiedMarked : forall number, number ≠ ino -> number ≠ bootLoaderIno ->
          (copySpace ino (first.mark ino none)).marked number = inodes.marked number := by
        intro number notFile _
        rw [copySpace, Inodes.change_marked, Inodes.mark_marked_of_ne _ _ _ notFile, kept]
      simp only [Inodes.mark_inode, stamped, pair_bootLoader]
      generalize copySpace ino (first.mark ino none) = second at copied copiedMarked ⊢
      cases passedBl : env.err (.markInodeDirty bootLoaderIno) with
      | some err =>
          have undone := @revertSwap_undoes code env ino apart
            (second.mark bootLoaderIno (some err)) inode file inodeBl _ _ copied
          dsimp only
          refine ⟨fun success => absurd success (Option.some_ne_none err), fun _ => undone.1,
            ?_, fun quiet => (undone.2.2 quiet).1, fun quiet => Or.inl (undone.2.2 quiet).2⟩
          intro number notFile notBootLoader
          rw [undone.2.1 number notFile notBootLoader, Inodes.mark_marked_of_ne _ _ _ notBootLoader]
          exact copiedMarked number notFile notBootLoader
      | none =>
          have space : (stampedPair code env ino file inodeBl).1.space = file.space := by
            unfold Inode.space
            rw [(stampedPair_space file inodeBl).1, (stampedPair_space file inodeBl).2]
          have stampedNormal : (stampedPair code env ino file inodeBl).1.Normal := by
            unfold Inode.Normal
            rw [(stampedPair_space file inodeBl).2]
            exact normal
          have moved := @moveSpace_outcome code env ino apart lawful
            (second.mark bootLoaderIno none) inode _ _ inodeBl copied stampedNormal normalBl
          rw [space] at moved
          have passedOn : (second.mark bootLoaderIno none).marked bootLoaderIno =
              second.inode bootLoaderIno := by
            rw [Inodes.mark_marked_none, Function.update_self]
          have secondMarked : forall number, number ≠ ino -> number ≠ bootLoaderIno ->
              (second.mark bootLoaderIno none).marked number = inodes.marked number := by
            intro number notFile notBootLoader
            rw [Inodes.mark_marked_of_ne _ _ _ notBootLoader]
            exact copiedMarked number notFile notBootLoader
          have same : (second.mark bootLoaderIno none).inode = second.inode := rfl
          rw [copied, pair_bootLoader] at passedOn
          rcases outcome : moveSpace code env ino (file.space - inodeBl.space)
            (second.mark bootLoaderIno none) with ⟨third, err⟩
          rw [outcome] at moved
          rcases moved with ⟨through, failed, others, passedFile⟩
          cases err with
          | some err =>
              have unmoved := (failed (Option.some_ne_none err)).trans (same.trans copied)
              have undone := @revertSwap_undoes code env ino apart third inode file inodeBl _ _
                unmoved
              dsimp only
              refine ⟨fun success => absurd success (Option.some_ne_none err), fun _ => undone.1,
                ?_, fun quiet => (undone.2.2 quiet).1, fun quiet => Or.inl (undone.2.2 quiet).2⟩
              intro number notFile notBootLoader
              rw [undone.2.1 number notFile notBootLoader]
              exact (others number notFile).trans (secondMarked number notFile notBootLoader)
          | none =>
              have swapped := through rfl
              refine ⟨fun _ => swapped, fun failed => absurd rfl failed, ?_, ?_, ?_⟩
              · intro number notFile notBootLoader
                exact (others number notFile).trans (secondMarked number notFile notBootLoader)
              · exact fun quiet => passedFile rfl quiet.quota
              · intro _
                refine Or.inl ((others _ apart.symm).trans ?_)
                rw [passedOn, swapped, pair_bootLoader]

end Settle

/-! ## One call -/

/-- The boot loader inode as a call finds it or sets it up. -/
def preparedBl (code : InodeCode) (env : SwapEnv) (inodeBl : Inode) : Inode :=
  if neverUsed env inodeBl then firstUse code env inodeBl else inodeBl

theorem prepareBootLoader_inode (inodes : Inodes) :
    (prepareBootLoader code env inodes).inode =
      Function.update inodes.inode bootLoaderIno
        (preparedBl code env (inodes.inode bootLoaderIno)) := by
  unfold prepareBootLoader preparedBl
  by_cases fresh : neverUsed env (inodes.inode bootLoaderIno) = true
  · rw [if_pos fresh, if_pos fresh]
    by_cases extents : env.test .featureExtents = true
    · simp only [if_pos extents]
      rfl
    · simp only [if_neg extents]
      rfl
  · rw [if_neg fresh, if_neg fresh, Function.update_eq_self]

theorem prepareBootLoader_of_used {inodes : Inodes}
    (used : neverUsed env (inodes.inode bootLoaderIno) = false) :
    prepareBootLoader code env inodes = inodes := by
  unfold prepareBootLoader
  rw [used, if_neg Bool.false_ne_true]

/-- Everything that an admitted call leaves of the inodes in memory. -/
inductive SwapOutcome (code : InodeCode) (env : SwapEnv) (ino : Nat) (inodes : Inodes) :
    Inodes × Int -> Prop where
  | uncharged (after : Inodes) (err : Errno) (failed : env.err .dquotInitialize = some err)
      (inode : after.inode = Function.update inodes.inode bootLoaderIno
        (preparedBl code env (inodes.inode bootLoaderIno))) :
      SwapOutcome code env ino inodes (after, err.code)
  | undone (after : Inodes) (err : Errno)
      (inode : after.inode =
        pair inodes.inode ino
          (revertedPair code env ino (inodes.inode ino)
            (preparedBl code env (inodes.inode bootLoaderIno))).1
          (revertedPair code env ino (inodes.inode ino)
            (preparedBl code env (inodes.inode bootLoaderIno))).2) :
      SwapOutcome code env ino inodes (after, err.code)
  | swapped (after : Inodes)
      (inode : after.inode =
        pair inodes.inode ino
          (swappedPair code env ino (inodes.inode ino)
            (preparedBl code env (inodes.inode bootLoaderIno))).1
          (swappedPair code env ino (inodes.inode ino)
            (preparedBl code env (inodes.inode bootLoaderIno))).2) :
      SwapOutcome code env ino inodes (after, 0)

theorem firstUse_normal {inodeBl : Inode} (normal : inodeBl.Normal) :
    (preparedBl code env inodeBl).Normal := by
  unfold preparedBl
  by_cases fresh : neverUsed env inodeBl = true
  · rw [if_pos fresh]
    exact normal
  · rwa [if_neg fresh]

section Call

variable (lawful : code.Lawful) (apart : ino ≠ bootLoaderIno)
include lawful apart

/-- The work under the handle, from what the set-up leaves. -/
theorem swapUnderHandle_settled {inodes : Inodes} (normal : (inodes.inode ino).Normal)
    (normalBl : (inodes.inode bootLoaderIno).Normal) :
    let prepared := prepareBootLoader code env inodes
    (exists err, env.err .dquotInitialize = some err ∧
        swapUnderHandle code env ino inodes = errOut1 err.code prepared) ∨
      exists after err,
        Settled code env ino inodes.inode prepared.marked (inodes.inode ino)
            (preparedBl code env (inodes.inode bootLoaderIno)) (after, err) ∧
          swapUnderHandle code env ino inodes = errOut1 (Errno.result err) after := by
  have prepared := @prepareBootLoader_inode code env inodes
  dsimp only
  unfold swapUnderHandle
  generalize prepareBootLoader code env inodes = second at prepared ⊢
  cases initialized : env.err .dquotInitialize with
  | some err => exact Or.inl ⟨err, rfl, rfl⟩
  | none =>
      have exchanged := @swapStored_inode ino apart second inodes.inode (inodes.inode ino)
        (preparedBl code env (inodes.inode bootLoaderIno)) (by
          rw [prepared, ← update_pair_bootLoader _ _ (inodes.inode bootLoaderIno), pair_self])
      have settled := @settleSwap_settled code env ino apart lawful _ _ _ _ normal
        (firstUse_normal normalBl) exchanged
      have fileSame : second.inode ino = inodes.inode ino := by
        rw [prepared, Function.update_of_ne apart]
      have blSame : second.inode bootLoaderIno =
          preparedBl code env (inodes.inode bootLoaderIno) := by
        rw [prepared, Function.update_self]
      rw [← fileSame, ← blSame] at settled ⊢
      exact Or.inr ⟨_, _, settled, rfl⟩

omit lawful apart in
theorem swap_of_refused {inodes : Inodes} (refused : SwapRefused env ino inodes) :
    let result := swapBootLoaderInode code env ino inodes
    result.2 ≠ 0 ∧ result.1.inode = inodes.inode ∧ result.1.marked = inodes.marked := by
  dsimp only
  rcases swapBootLoaderInode_cases code env ino inodes with ⟨-, outcome⟩ | ⟨admitted, -⟩
  · generalize swapBootLoaderInode code env ino inodes = result at outcome ⊢
    cases outcome with
    | ungotten err => exact ⟨err.nonzero, rfl, rfl⟩
    | checked err => exact ⟨err.nonzero, rfl, rfl⟩
    | unwritten err => exact ⟨err.nonzero, rfl, rfl⟩
    | unstarted err => exact ⟨Errno.einval.nonzero, rfl, rfl⟩
  · exact absurd refused admitted

theorem swap_of_admitted {inodes : Inodes} (normal : (inodes.inode ino).Normal)
    (normalBl : (inodes.inode bootLoaderIno).Normal) (admitted : ¬ SwapRefused env ino inodes) :
    SwapOutcome code env ino inodes (swapBootLoaderInode code env ino inodes) := by
  rcases swapBootLoaderInode_cases code env ino inodes with ⟨refused, -⟩ | ⟨-, body⟩
  · exact absurd refused admitted
  rw [body]
  rcases @swapUnderHandle_settled code env ino lawful apart (inodes.log openingOps) normal
    normalBl with ⟨err, failed, ended⟩ | ⟨after, err, settled, ended⟩
  · rw [ended]
    exact .uncharged _ err failed (prepareBootLoader_inode (inodes.log openingOps))
  · rw [ended]
    cases err with
    | none => exact .swapped _ (settled.settled rfl)
    | some err => exact .undone _ err (settled.undone (Option.some_ne_none err))

/-- A call that is refused before its handle changes no inode.  Any other sets
the boot loader inode up if need be, and then exchanges the two inodes and
reports success, or reports an error and leaves them exchanged back. -/
theorem swap_outcome {inodes : Inodes} (normal : (inodes.inode ino).Normal)
    (normalBl : (inodes.inode bootLoaderIno).Normal) :
    let result := swapBootLoaderInode code env ino inodes
    (SwapRefused env ino inodes -> result.2 ≠ 0 ∧ result.1.inode = inodes.inode ∧
        result.1.marked = inodes.marked) ∧
      (¬ SwapRefused env ino inodes -> SwapOutcome code env ino inodes result) :=
  ⟨swap_of_refused, swap_of_admitted lawful apart normal normalBl⟩

end Call

end

end Metadata
end Evfs
