import Evfs.Metadata.BootLoaderSwaps

namespace Evfs
namespace Metadata

open Foundation Ext4

/-!
# Runs of swaps

Contents are what a swap exchanges: the block map with its format flags, the
sizes, the times of access and of modification, and the accounted space.  The
identity stays with the number of an inode: its type, permissions, links, owner,
group and project, and its other flags.  The time of change, the generation, the
seed and the version belong to neither, since calls renew them.

A run of swaps on a volume whose boot loader inode is in use moves contents by a
product of transpositions, one for each call that reports success.  The same holds
of the inodes that were passed on to the journal, as long as no call fails whose
result is not looked at.
-/

/-- What a swap exchanges. -/
structure Contents where
  data : IData
  formatFlags : FlagWord
  size : Int
  disksize : Int
  atime : Timespec
  mtime : Timespec
  blocks : Nat
  bytes : Nat
deriving DecidableEq

/-- What stays with the number of an inode. -/
structure Identity where
  fileType : FileType
  perm : Nat
  nlink : Nat
  uid : Nat
  gid : Nat
  projid : Nat
  flags : FlagWord
  vfsFlags : VfsFlags
deriving DecidableEq

def contentsOf (inode : Inode) : Contents where
  data := inode.data
  formatFlags := inode.flags &&& FlagWord.shouldSwap
  size := inode.size
  disksize := inode.disksize
  atime := inode.atime
  mtime := inode.mtime
  blocks := inode.blocks
  bytes := inode.bytes

def identityOf (inode : Inode) : Identity where
  fileType := inode.fileType
  perm := inode.perm
  nlink := inode.nlink
  uid := inode.uid
  gid := inode.gid
  projid := inode.projid
  flags := inode.flags &&& ~~~FlagWord.shouldSwap
  vfsFlags := inode.vfsFlags

/-- The accounted bytes of some contents. -/
def Contents.space (contents : Contents) : Nat := contents.blocks * 512 + contents.bytes

theorem space_contentsOf (inode : Inode) : (contentsOf inode).space = inode.space := rfl

section

variable {code : InodeCode} {env : SwapEnv} {ino : Nat}

/-! ## The two sides of a swap -/

/-- Stamping changes neither contents nor identity. -/
theorem contentsOf_stampInode (number : Nat) (inode : Inode) :
    contentsOf (stampInode code env number inode) = contentsOf inode := by
  unfold stampInode ext4ResetInodeSeed
  cases ext4HasMetadataCsum env.features <;> rfl

theorem identityOf_stampInode (number : Nat) (inode : Inode) :
    identityOf (stampInode code env number inode) = identityOf inode := by
  unfold stampInode ext4ResetInodeSeed
  cases ext4HasMetadataCsum env.features <;> rfl

theorem contentsOf_revertedPair (file inodeBl : Inode) :
    contentsOf (revertedPair code env ino file inodeBl).1 = contentsOf file ∧
      contentsOf (revertedPair code env ino file inodeBl).2 = contentsOf inodeBl :=
  ⟨contentsOf_stampInode ino file, contentsOf_stampInode bootLoaderIno _⟩

theorem identityOf_revertedPair (file inodeBl : Inode) :
    identityOf (revertedPair code env ino file inodeBl).1 = identityOf file ∧
      identityOf (revertedPair code env ino file inodeBl).2 = identityOf inodeBl :=
  ⟨identityOf_stampInode ino file, identityOf_stampInode bootLoaderIno _⟩

/-- The contents are exchanged as a whole. -/
theorem contentsOf_swappedPair (file inodeBl : Inode) :
    contentsOf (swappedPair code env ino file inodeBl).1 = contentsOf inodeBl ∧
      contentsOf (swappedPair code env ino file inodeBl).2 = contentsOf file := by
  have taken := Masked.merge_taken FlagWord.shouldSwap inodeBl.flags file.flags
  have takenToo := Masked.merge_taken FlagWord.shouldSwap file.flags inodeBl.flags
  unfold Masked.merge at taken takenToo
  unfold swappedPair stampedPair stampInode ext4ResetInodeSeed
  cases ext4HasMetadataCsum env.features <;>
    simp only [contentsOf, swapInodeData, IData.memswap_eq, taken, takenToo, Bool.not_true,
      Bool.not_false, if_true, Bool.false_eq_true, if_false, and_self]

theorem identityOf_swappedPair (file inodeBl : Inode) :
    identityOf (swappedPair code env ino file inodeBl).1 = identityOf file ∧
      identityOf (swappedPair code env ino file inodeBl).2 = identityOf inodeBl := by
  have kept := Masked.merge_kept FlagWord.shouldSwap inodeBl.flags file.flags
  have keptToo := Masked.merge_kept FlagWord.shouldSwap file.flags inodeBl.flags
  unfold Masked.merge at kept keptToo
  unfold swappedPair stampedPair stampInode ext4ResetInodeSeed
  cases ext4HasMetadataCsum env.features <;>
    simp only [identityOf, swapInodeData, kept, keptToo, Bool.not_true,
      Bool.not_false, if_true, Bool.false_eq_true, if_false, and_self]

/-! ## Calls as transitions -/

/-- One call of `swap_inode_boot_loader` on a file. -/
structure SwapCall where
  env : SwapEnv
  ino : Nat
  isFile : ino ≠ bootLoaderIno

def swapStep (code : InodeCode) (inodes : Inodes) (call : SwapCall) : Inodes :=
  (swapBootLoaderInode code call.env call.ino inodes).1

def swapReply (code : InodeCode) (inodes : Inodes) (call : SwapCall) : Int :=
  (swapBootLoaderInode code call.env call.ino inodes).2

/-- A call that reports success exchanges the file and the boot loader inode. -/
def swapMove (code : InodeCode) (inodes : Inodes) (call : SwapCall) : Equiv.Perm Nat :=
  if swapReply code inodes call = 0 then Equiv.swap call.ino bootLoaderIno else 1

/-- The boot loader inode has been set up, and the accounts of space are normal. -/
structure InUse (inodes : Inodes) : Prop where
  normal : forall number, (inodes.inode number).Normal
  regular : (inodes.inode bootLoaderIno).fileType = .regular

/-- The inodes that were passed on have the contents of those in memory. -/
def PassedOn (inodes : Inodes) : Prop :=
  forall number, contentsOf (inodes.marked number) = contentsOf (inodes.inode number)

theorem InUse.used {inodes : Inodes} (inUse : InUse inodes)
    (good : env.test .isBadInode = false) :
    neverUsed env (inodes.inode bootLoaderIno) = false := by
  rw [neverUsed, good, inUse.regular]
  rfl

theorem InUse.prepared {inodes : Inodes} (inUse : InUse inodes)
    (good : env.test .isBadInode = false) :
    preparedBl code env (inodes.inode bootLoaderIno) = inodes.inode bootLoaderIno := by
  rw [preparedBl, inUse.used good, if_neg Bool.false_ne_true]

/-- A field of two inodes that were written and of all others. -/
theorem field_pair {Field : Type*} (field : Inode -> Field) {inode : Nat -> Inode}
    {file inodeBl : Inode} (apart : ino ≠ bootLoaderIno)
    (atFile : field file = field (inode ino))
    (atBootLoader : field inodeBl = field (inode bootLoaderIno)) (number : Nat) :
    field (pair inode ino file inodeBl number) = field (inode number) := by
  by_cases isBootLoader : number = bootLoaderIno
  · rw [isBootLoader, pair_bootLoader, atBootLoader]
  by_cases isFile : number = ino
  · rw [isFile, pair_file _ _ _ apart, atFile]
  · rw [pair_of_ne _ _ _ isFile isBootLoader]

/-- A field that two inodes have exchanged. -/
theorem field_pair_swap {Field : Type*} (field : Inode -> Field) {inode : Nat -> Inode}
    {file inodeBl : Inode} (apart : ino ≠ bootLoaderIno)
    (atFile : field file = field (inode bootLoaderIno))
    (atBootLoader : field inodeBl = field (inode ino)) (number : Nat) :
    field (pair inode ino file inodeBl number) =
      field (inode (Equiv.swap ino bootLoaderIno number)) := by
  by_cases isBootLoader : number = bootLoaderIno
  · rw [isBootLoader, pair_bootLoader, atBootLoader, Equiv.swap_apply_right]
  by_cases isFile : number = ino
  · rw [isFile, pair_file _ _ _ apart, atFile, Equiv.swap_apply_left]
  · rw [pair_of_ne _ _ _ isFile isBootLoader, Equiv.swap_apply_of_ne_of_ne isFile isBootLoader]

section Steps

variable (lawful : code.Lawful)
include lawful

/-- The step lemma: contents move, identities stay. -/
theorem swapStep_moves {inodes : Inodes} (inUse : InUse inodes) (call : SwapCall)
    (good : call.env.test .isBadInode = false) :
    (forall number, contentsOf ((swapStep code inodes call).inode number) =
        contentsOf (inodes.inode (swapMove code inodes call number))) ∧
      forall number, identityOf ((swapStep code inodes call).inode number) =
        identityOf (inodes.inode number) := by
  have prepared := @InUse.prepared code call.env inodes inUse good
  unfold swapMove swapReply swapStep
  by_cases refused : SwapRefused call.env call.ino inodes
  · rcases @swap_of_refused code call.env call.ino inodes refused with ⟨failed, inode, -⟩
    rw [if_neg failed, inode]
    exact ⟨fun _ => rfl, fun _ => rfl⟩
  have admitted := @swap_of_admitted code call.env call.ino lawful call.isFile inodes
    (inUse.normal call.ino) (inUse.normal bootLoaderIno) refused
  generalize swapBootLoaderInode code call.env call.ino inodes = result at admitted ⊢
  cases admitted with
  | uncharged after err failed inode =>
      rw [prepared, Function.update_eq_self] at inode
      dsimp only
      rw [if_neg err.nonzero, inode]
      exact ⟨fun _ => rfl, fun _ => rfl⟩
  | undone after err inode =>
      rw [prepared] at inode
      have contents := @contentsOf_revertedPair code call.env call.ino (inodes.inode call.ino)
        (inodes.inode bootLoaderIno)
      have identity := @identityOf_revertedPair code call.env call.ino (inodes.inode call.ino)
        (inodes.inode bootLoaderIno)
      dsimp only
      rw [if_neg err.nonzero, inode]
      exact ⟨field_pair contentsOf call.isFile contents.1 contents.2,
        field_pair identityOf call.isFile identity.1 identity.2⟩
  | swapped after inode =>
      rw [prepared] at inode
      have contents := @contentsOf_swappedPair code call.env call.ino (inodes.inode call.ino)
        (inodes.inode bootLoaderIno)
      have identity := @identityOf_swappedPair code call.env call.ino (inodes.inode call.ino)
        (inodes.inode bootLoaderIno)
      dsimp only
      rw [if_pos rfl, inode]
      exact ⟨field_pair_swap contentsOf call.isFile contents.1 contents.2,
        field_pair identityOf call.isFile identity.1 identity.2⟩

theorem InUse.step {inodes : Inodes} (inUse : InUse inodes) {call : SwapCall}
    (good : call.env.test .isBadInode = false) : InUse (swapStep code inodes call) := by
  rcases swapStep_moves lawful inUse call good with ⟨contents, identity⟩
  constructor
  · intro number
    have bytes := congrArg Contents.bytes (contents number)
    exact Nat.lt_of_le_of_lt (Nat.le_of_eq bytes) (inUse.normal _)
  · exact (congrArg Identity.fileType (identity bootLoaderIno)).trans inUse.regular

/-- The step lemma for the inodes that are passed on. -/
theorem PassedOn.step {inodes : Inodes} (inUse : InUse inodes) (passedOn : PassedOn inodes)
    {call : SwapCall} (good : call.env.test .isBadInode = false)
    (quiet : QuietMarks call.env call.ino) : PassedOn (swapStep code inodes call) := by
  have prepared := @InUse.prepared code call.env inodes inUse good
  unfold swapStep
  rcases swapBootLoaderInode_cases code call.env call.ino inodes with
    ⟨refused, -⟩ | ⟨admitted, body⟩
  · rcases @swap_of_refused code call.env call.ino inodes refused with ⟨-, inode, marked⟩
    unfold PassedOn
    rw [inode, marked]
    exact passedOn
  have setUp := @prepareBootLoader_of_used code call.env (inodes.log openingOps)
    (inUse.used good)
  have settled := @swapUnderHandle_settled code call.env call.ino lawful call.isFile
    (inodes.log openingOps) (inUse.normal call.ino) (inUse.normal bootLoaderIno)
  dsimp only at settled
  rw [setUp, Inodes.log_inode, Inodes.log_marked, prepared] at settled
  rw [body]
  rcases settled with ⟨err, -, ended⟩ | ⟨after, err, settled, ended⟩
  · rw [ended]
    exact passedOn
  rw [ended]
  intro number
  show contentsOf (after.marked number) = contentsOf (after.inode number)
  have undone := settled.undone
  have through := settled.settled
  by_cases isFile : number = call.ino
  · rw [isFile, settled.marked_file quiet]
  by_cases isBootLoader : number = bootLoaderIno
  · rw [isBootLoader]
    rcases settled.marked_bootLoader quiet with passed | ⟨failed, kept⟩
    · rw [passed]
    · rw [undone failed, pair_bootLoader, (contentsOf_revertedPair _ _).2]
      exact (congrArg contentsOf kept).trans (passedOn bootLoaderIno)
  · rw [settled.marked_of_ne number isFile isBootLoader]
    refine (passedOn number).trans ?_
    by_cases success : err = none
    · rw [through success, pair_of_ne _ _ _ isFile isBootLoader]
    · rw [undone success, pair_of_ne _ _ _ isFile isBootLoader]

end Steps

/-! ## Runs -/

/-- A run in which no call finds a bad boot loader inode stays in use. -/
theorem inUse_always (lawful : code.Lawful) {inodes : Inodes} (inUse : InUse inodes)
    {calls : List SwapCall}
    (good : forall call, call ∈ calls -> call.env.test .isBadInode = false) :
    Run.Always (swapStep code) inodes calls InUse :=
  Run.always_of_step InUse
    (fun _ call admitted before => @InUse.step code lawful _ before call admitted) inUse calls good

/-- The permutation of a run: the product of its transpositions. -/
def swapProduct (code : InodeCode) (inodes : Inodes) (calls : List SwapCall) : Equiv.Perm Nat :=
  Exchange.product (swapStep code) (swapMove code) inodes calls

theorem permutes_each (lawful : code.Lawful) {inodes : Inodes} (inUse : InUse inodes)
    {calls : List SwapCall}
    (good : forall call, call ∈ calls -> call.env.test .isBadInode = false) :
    Run.AtEachCall (swapStep code) inodes calls
      (Exchange.Permutes (swapStep code) (swapMove code)
        fun inodes number => contentsOf (inodes.inode number)) := by
  intro visited call short
  have member : call ∈ calls := short.subset (List.mem_append_right _ List.mem_cons_self)
  have before := inUse_always lawful inUse good visited
    ((List.prefix_append visited [call]).trans short)
  exact (swapStep_moves lawful before call (good call member)).1

/-- After any run, whatever fails in it, contents have moved by the product of the
successful calls' transpositions, and the identities have stayed.  So the space
of any set of inodes that has the boot loader and the files of the run is what it
was, and what was passed on keeps up with memory. -/
theorem swaps_permute (lawful : code.Lawful) {inodes : Inodes} (inUse : InUse inodes)
    {calls : List SwapCall}
    (good : forall call, call ∈ calls -> call.env.test .isBadInode = false) :
    (forall number, contentsOf ((Run.exec (swapStep code) inodes calls).inode number) =
        contentsOf (inodes.inode (swapProduct code inodes calls number))) ∧
      (forall number, identityOf ((Run.exec (swapStep code) inodes calls).inode number) =
        identityOf (inodes.inode number)) ∧
      forall files : Finset Nat, bootLoaderIno ∈ files ->
        (forall call, call ∈ calls -> call.ino ∈ files) ->
          (files.sum fun number =>
              ((Run.exec (swapStep code) inodes calls).inode number).space) =
            files.sum fun number => (inodes.inode number).space := by
  have permutes := permutes_each lawful inUse good
  refine ⟨Exchange.contents_exec permutes, ?_, ?_⟩
  · have identities : Run.Always (swapStep code) inodes calls fun reached => InUse reached ∧
        forall number, identityOf (reached.inode number) = identityOf (inodes.inode number) := by
      refine Run.always_of_step _ ?_ ⟨inUse, fun _ => rfl⟩ calls good
      rintro reached call admitted ⟨before, same⟩
      refine ⟨@InUse.step code lawful _ before call admitted, fun number => ?_⟩
      exact ((swapStep_moves lawful before call admitted).2 number).trans (same number)
    exact (Run.always_exec identities).2
  · intro files bootLoader inside
    have fixed : forall number, number ∉ files -> Run.AtEachCall (swapStep code) inodes calls
        fun reached call => swapMove code reached call number = number := by
      intro number outside visited call short
      have member : call ∈ calls := short.subset (List.mem_append_right _ List.mem_cons_self)
      unfold swapMove
      split
      · apply Equiv.swap_apply_of_ne_of_ne
        · intro same
          exact outside (same ▸ inside call member)
        · intro same
          exact outside (same ▸ bootLoader)
      · rfl
    have spaces := Exchange.sum_exec Contents.space permutes fixed
    simp only [space_contentsOf] at spaces
    exact spaces

/-- In a run in which no call fails whose result is not looked at, the inodes
passed on to the journal have the contents of those in memory throughout. -/
theorem swaps_passed_on_always (lawful : code.Lawful) {inodes : Inodes} (inUse : InUse inodes)
    (passedOn : PassedOn inodes) {calls : List SwapCall}
    (admitted : forall call, call ∈ calls ->
      call.env.test .isBadInode = false ∧ QuietMarks call.env call.ino) :
    Run.Always (swapStep code) inodes calls PassedOn := by
  have both : Run.Always (swapStep code) inodes calls fun reached =>
      InUse reached ∧ PassedOn reached := by
    refine Run.always_of_step _ ?_ ⟨inUse, passedOn⟩ calls admitted
    rintro reached call ⟨good, quiet⟩ ⟨before, passed⟩
    exact ⟨@InUse.step code lawful _ before call good, passed.step lawful before good quiet⟩
  exact fun visited short => (both visited short).2

/-! ## A sample volume -/

/-- Each inode accounts for eight units more than the one before. -/
def sampleInodes : Inodes where
  inode := fun number => sampleFile (8 * number)
  marked := fun number => sampleFile (8 * number)
  trace := []

/-- An environment in which the quota of the file is exceeded, or nothing fails. -/
def swapEnv (exceeded : Bool) : SwapEnv where
  err := fun operation =>
    match operation with
    | .dquotAllocSpace => if exceeded then some ⟨-122, by decide⟩ else none
    | _ => none
  test := fun test =>
    match test with
    | .inodeOwnerOrCapable | .capableSysAdmin | .featureExtents => true
    | _ => false
  features := { gdtCsum := false, metadataCsum := true, chksumDriver := true }
  now := fun _ => ⟨1700000000, 0⟩
  random := fun number => UInt32.ofNat number

theorem sampleInodes_inUse : InUse sampleInodes where
  normal := fun _ => Nat.zero_lt_succ 511
  regular := rfl

theorem swap_outcome_sample :
    SwapOutcome inodeCode (swapEnv false) 12 sampleInodes
      (swapBootLoaderInode inodeCode (swapEnv false) 12 sampleInodes) :=
  (swap_outcome inodeCode_lawful (by decide) (sampleInodes_inUse.normal 12)
    (sampleInodes_inUse.normal bootLoaderIno)).2 (by
      rintro (iget | unfit | forbidden | file | bootLoader | start)
      · exact iget rfl
      · exact absurd unfit (by decide)
      · exact absurd forbidden (by decide)
      · exact file rfl
      · exact bootLoader rfl
      · exact start rfl)

/-- One swap that goes through and one that the quota stops. -/
def sampleSwaps : List SwapCall :=
  [⟨swapEnv false, 12, by decide⟩, ⟨swapEnv true, 13, by decide⟩]

theorem swaps_permute_sample :
    contentsOf ((Run.exec (swapStep inodeCode) sampleInodes sampleSwaps).inode 12) =
      contentsOf (sampleInodes.inode (swapProduct inodeCode sampleInodes sampleSwaps 12)) :=
  (swaps_permute inodeCode_lawful sampleInodes_inUse (by
    simp only [sampleSwaps, List.mem_cons, List.not_mem_nil, or_false, forall_eq_or_imp,
      forall_eq]
    exact ⟨rfl, rfl⟩)).1 12

theorem swaps_passed_on_always_sample :
    Run.Always (swapStep inodeCode) sampleInodes sampleSwaps PassedOn :=
  swaps_passed_on_always inodeCode_lawful sampleInodes_inUse (fun _ => rfl) (by
    simp only [sampleSwaps, List.mem_cons, List.not_mem_nil, or_false, forall_eq_or_imp,
      forall_eq]
    exact ⟨⟨rfl, rfl, rfl, rfl⟩, ⟨rfl, rfl, rfl, rfl⟩⟩)

end

end Metadata
end Evfs
