import Evfs.Metadata.VolumeCalls

namespace Evfs
namespace Metadata

open Foundation Ext4

/-!
# The seeds of inode checksums

Where metadata have checksums, each inode carries a seed that is computed of its
number and its generation.  A swap gives both of its inodes new generations and new
seeds, on all of its ways out.  A version request would set a generation and leave
the seed, and it is refused on such volumes.  So no run of calls leaves an inode
with a seed that is not its own.
-/

/-- The seed of a number and a generation. -/
def inodeSeed (code : InodeCode) (ino : Nat) (generation : UInt32) : UInt32 :=
  code.ext4Chksum (code.ext4Chksum code.sCsumSeed (UInt32.ofNat ino)) generation

/-- An inode with its own seed, and a normal account of its space. -/
structure Own (code : InodeCode) (ino : Nat) (inode : Inode) : Prop where
  seed : inode.csumSeed = inodeSeed code ino inode.generation
  normal : inode.Normal

section

variable {code : InodeCode}

/-! ## Requests -/

/-- What every step of an attribute request keeps, the request keeps. -/
theorem fileattr_keeps {env : AttrEnv} {keeps : Inode -> Prop}
    (stored : forall flags inode, keeps inode -> keeps (storeFlags code env flags inode))
    (given : forall projid inode, keeps inode -> keeps (projected code env projid inode))
    (journal : forall wanted inode, keeps inode -> keeps (env.changeJournalFlag wanted inode).1)
    (migrated : forall wanted inode, keeps inode -> keeps (env.migrate wanted inode).1)
    (fa : Fileattr) {inode : Inode} (before : keeps inode) :
    keeps (ext4FileattrSet code env fa inode).1 := by
  have followed : forall flags oldflags between, keeps between ->
      keeps (followJournalData env flags oldflags between).1 := by
    intro flags oldflags between kept
    unfold followJournalData
    split
    · split
      · exact kept
      · exact journal _ _ kept
    · exact kept
  have setflags : keeps (ext4IoctlSetflags code env (requested fa) inode).1 := by
    have outcome := @setflags_outcome code env (requested fa) inode
    have after := followed (requested fa) inode.flags _ (stored (requested fa) inode before)
    generalize ext4IoctlSetflags code env (requested fa) inode = result at outcome ⊢
    cases outcome with
    | refused err => exact before
    | unmarked err admitted => exact stored _ _ before
    | unfollowed between err admitted outcome =>
        rw [outcome] at after
        exact after
    | followed between admitted outcome =>
        rw [outcome] at after
        unfold followExtents
        split
        · exact migrated _ _ after
        · exact after
  have way := @fileattrSet_way code env fa inode
  generalize ext4FileattrSet code env fa inode = result at way ⊢
  cases way with
  | refused err => exact before
  | unset between err checked outcome =>
      rw [outcome] at setflags
      exact setflags
  | set between checked outcome =>
      rw [outcome] at setflags
      have project := @setproject_outcome code env fa.fsxProjid between
      generalize ext4IoctlSetproject code env fa.fsxProjid between = result at project ⊢
      cases project with
      | refused err => exact setflags
      | idle set unset => exact setflags
      | given err supported => exact given _ _ setflags

theorem Own.attrStep {ino : Nat} {inode : Inode} (own : Own code ino inode) (call : AttrCall) :
    Own code ino (attrStep code inode call) := by
  have follows : forall {mask operation}, Follows mask operation -> forall wanted inode,
      Own code ino inode -> Own code ino (operation wanted inode).1 := by
    intro mask operation law wanted inode before
    refine ⟨?_, law.normal wanted inode before.normal⟩
    rw [law.csumSeed, law.generation]
    exact before.seed
  exact fileattr_keeps (fun _ _ before => ⟨before.seed, before.normal⟩)
    (fun _ _ before => ⟨before.seed, before.normal⟩) (follows call.lawful.journal)
    (follows call.lawful.migrate) call.fa own

/-! ## Swaps -/

/-- All inodes of a volume have their own seeds. -/
def Owned (code : InodeCode) (inodes : Inodes) : Prop :=
  forall number, Own code number (inodes.inode number)

theorem own_stampInode {swap : SwapEnv} (summed : ext4HasMetadataCsum swap.features = true)
    (number : Nat) {inode : Inode} (normal : inode.Normal) :
    Own code number (stampInode code swap number inode) where
  seed := by
    unfold stampInode ext4ResetInodeSeed
    rw [summed, Bool.not_true, if_neg Bool.false_ne_true]
    rfl
  normal := by
    unfold Inode.Normal
    rw [stampInode_bytes]
    exact normal

theorem own_revertedPair {swap : SwapEnv} (summed : ext4HasMetadataCsum swap.features = true)
    (ino : Nat) {file inodeBl : Inode} (normal : file.Normal) (normalBl : inodeBl.Normal) :
    Own code ino (revertedPair code swap ino file inodeBl).1 ∧
      Own code bootLoaderIno (revertedPair code swap ino file inodeBl).2 := by
  constructor
  · exact own_stampInode summed ino normal
  · apply own_stampInode summed bootLoaderIno
    exact normalBl

theorem own_swappedPair {swap : SwapEnv} (summed : ext4HasMetadataCsum swap.features = true)
    (ino : Nat) {file inodeBl : Inode} (normal : file.Normal) (normalBl : inodeBl.Normal) :
    Own code ino (swappedPair code swap ino file inodeBl).1 ∧
      Own code bootLoaderIno (swappedPair code swap ino file inodeBl).2 := by
  have stampedFile : Own code ino (stampedPair code swap ino file inodeBl).1 := by
    apply own_stampInode summed ino
    exact normal
  have stampedBl : Own code bootLoaderIno (stampedPair code swap ino file inodeBl).2 := by
    apply own_stampInode summed bootLoaderIno
    exact normalBl
  exact ⟨⟨stampedFile.seed, normalBl⟩, ⟨stampedBl.seed, normal⟩⟩

theorem own_pair {ino : Nat} {inode : Nat -> Inode} {file inodeBl : Inode}
    (apart : ino ≠ bootLoaderIno) (others : forall number, Own code number (inode number))
    (ownFile : Own code ino file) (ownBl : Own code bootLoaderIno inodeBl) (number : Nat) :
    Own code number (pair inode ino file inodeBl number) := by
  by_cases isBootLoader : number = bootLoaderIno
  · rw [isBootLoader, pair_bootLoader]
    exact ownBl
  by_cases isFile : number = ino
  · rw [isFile, pair_file _ _ _ apart]
    exact ownFile
  · rw [pair_of_ne _ _ _ isFile isBootLoader]
    exact others number

/-- A swap stamps both inodes on every way out that has exchanged them. -/
theorem Owned.swap (lawful : code.Lawful) {inodes : Inodes} (owned : Owned code inodes)
    (call : SwapCall) (summed : ext4HasMetadataCsum call.env.features = true) :
    Owned code (swapStep code inodes call) := by
  have prepared : Own code bootLoaderIno
      (preparedBl code call.env (inodes.inode bootLoaderIno)) := by
    unfold preparedBl
    split
    · exact ⟨(owned bootLoaderIno).seed, (owned bootLoaderIno).normal⟩
    · exact owned bootLoaderIno
  unfold swapStep
  by_cases refused : SwapRefused call.env call.ino inodes
  · unfold Owned
    rw [(@swap_of_refused code call.env call.ino inodes refused).2.1]
    exact owned
  have admitted := @swap_of_admitted code call.env call.ino lawful call.isFile inodes
    (owned call.ino).normal (owned bootLoaderIno).normal refused
  generalize swapBootLoaderInode code call.env call.ino inodes = result at admitted ⊢
  intro number
  cases admitted with
  | uncharged after err failed inode =>
      dsimp only
      rw [inode]
      by_cases isBootLoader : number = bootLoaderIno
      · subst isBootLoader
        rwa [Function.update_self]
      · rw [Function.update_of_ne isBootLoader]
        exact owned number
  | undone after err inode =>
      have own := @own_revertedPair code call.env summed call.ino _ _ (owned call.ino).normal
        prepared.normal
      dsimp only
      rw [inode]
      exact own_pair call.isFile owned own.1 own.2 number
  | swapped after inode =>
      have own := @own_swappedPair code call.env summed call.ino _ _ (owned call.ino).normal
        prepared.normal
      dsimp only
      rw [inode]
      exact own_pair call.isFile owned own.1 own.2 number

/-! ## Runs -/

/-- The features that a call finds are those of the volume. -/
def FindsFeatures (features : Features) : VolumeCall -> Prop
  | .swap call => call.env.features = features
  | .setAttributes _ _ _ => True
  | .setVersion _ env _ _ => env.features = features

/-- The step lemma. -/
theorem Owned.step (lawful : code.Lawful) {features : Features}
    (summed : ext4HasMetadataCsum features = true) {inodes : Inodes} (owned : Owned code inodes)
    {call : VolumeCall} (finds : FindsFeatures features call) :
    Owned code (volumeStep code inodes call) := by
  have requested : forall ino after passedOn, Own code ino after ->
      Owned code (request ino after passedOn inodes) := by
    intro ino after passedOn own number
    show Own code number (Function.update inodes.inode ino after number)
    by_cases same : number = ino
    · subst same
      rwa [Function.update_self]
    · rw [Function.update_of_ne same]
      exact owned number
  cases call with
  | swap call =>
      refine owned.swap lawful call ?_
      rw [show call.env.features = features from finds]
      exact summed
  | setAttributes ino call passedOn => exact requested _ _ _ ((owned ino).attrStep call)
  | setVersion ino env generation passedOn =>
      refine requested _ _ _ ?_
      rcases setversion_cases code env generation (inodes.inode ino) with kept | ⟨unsummed, -⟩
      · rw [kept]
        exact owned ino
      · rw [show env.features = features from finds, summed] at unsummed
        cases unsummed

/-- On a volume whose metadata have checksums, each inode has the seed of its number
and its generation in every state of every run of calls, whatever fails in it. -/
theorem seeds_always (lawful : code.Lawful) {features : Features}
    (summed : ext4HasMetadataCsum features = true) {inodes : Inodes} (owned : Owned code inodes)
    {calls : List VolumeCall} (finds : forall call, call ∈ calls -> FindsFeatures features call) :
    Run.Always (volumeStep code) inodes calls (Owned code) := by
  refine Run.always_of_step (Owned code) ?_ owned calls finds
  intro reached call admitted before
  exact before.step lawful summed admitted

/-- The sample volume with seeds. -/
def seededInodes : Inodes :=
  { sampleInodes with
    inode := fun number =>
      { sampleFile (8 * number) with csumSeed := inodeSeed inodeCode number 0 } }

/-- An owner on the sample volume. -/
def versionEnv : VersionEnv where
  err := fun _ => none
  inodeOwnerOrCapable := true
  getUserFails := false
  features := (swapEnv false).features
  now := ⟨7, 0⟩

/-- File 12 is swapped, and keeps the generation that it gets in spite of a request. -/
theorem seeds_always_sample :
    let calls : List VolumeCall :=
      [.swap ⟨swapEnv false, 12, by decide⟩, .setVersion 12 versionEnv 99 (sampleFile 0)]
    Run.Always (volumeStep inodeCode) seededInodes calls (Owned inodeCode) ∧
      ((Run.exec (volumeStep inodeCode) seededInodes calls).inode 12).generation = 12 := by
  have summed : ext4HasMetadataCsum (swapEnv false).features = true := rfl
  have owned : Owned inodeCode seededInodes := fun _ => ⟨rfl, Nat.zero_lt_succ 511⟩
  refine ⟨seeds_always inodeCode_lawful summed owned ?_, by decide⟩
  simp only [List.forall_mem_cons, List.not_mem_nil, false_imp_iff, implies_true, and_true]
  exact ⟨rfl, rfl⟩

end

end Metadata
end Evfs
