import Evfs.Metadata.SuperblockIoctls

namespace Evfs
namespace EntryPoints

open Ext4 FreeSpace Metadata

/-!
# The dispatcher and the superblocks

The label and uuid cases of the dispatcher record that a superblock has changed
and leave out its contents.  The same handlers on the contents store copies.  Here
the two are one program: on volumes that the environment of the dispatcher
describes they reply the same, and the dispatcher records one change for each copy
that is stored.

The environment says for each group whether its backup has a bad checksum, as the
call finds it.  An update stores to no backup before it has turned to its group,
since no group is listed twice, so what the environment says is still right then.
-/

/-- The stores among the operations of an update. -/
def SbOp.isStore : SbOp -> Bool
  | .store _ => true
  | _ => false

def storeCount (sbs : Superblocks) : Nat := sbs.trace.countP SbOp.isStore

/-- The environment knows whether the backup of a group has a bad checksum. -/
def Seen (code : SuperblockCode) (env : IoctlEnv) (sbs : Superblocks) (group : Nat) : Prop :=
  (ext4HasMetadataCsum env.features && env.test (.backupChecksumBad group)) =
    !intact code env (sbs.backup group)

/-- The environment describes the superblocks. -/
structure Describes (code : SuperblockCode) (env : IoctlEnv) (sbs : Superblocks) : Prop where
  resizing : env.test .resizing = sbs.resizing
  seen : forall group, group ∈ env.backupGroups -> Seen code env sbs group
  nodup : env.backupGroups.Nodup

/-- The dispatcher has recorded as many changes as there were stores, and has done
nothing else. -/
def Mirrors (target : Target) (kernel after : Kernel) (sbs afterSbs : Superblocks) : Prop :=
  exists count, after =
      { kernel with trace := kernel.trace ++ List.replicate count (.change target) } ∧
    storeCount afterSbs = storeCount sbs + count

section

variable {code : SuperblockCode} {env : IoctlEnv} {func : SuperBlock -> SuperBlock}
  {target : Target}

theorem mirrors_refl (kernel : Kernel) {sbs after : Superblocks}
    (same : storeCount after = storeCount sbs) : Mirrors target kernel kernel sbs after :=
  ⟨0, by rw [List.replicate_zero, List.append_nil], same⟩

theorem Mirrors.trans {first second third : Kernel} {before between after : Superblocks}
    (earlier : Mirrors target first second before between)
    (later : Mirrors target second third between after) :
    Mirrors target first third before after := by
  rcases earlier with ⟨early, rfl, earlyStores⟩
  rcases later with ⟨late, rfl, lateStores⟩
  refine ⟨early + late, ?_, ?_⟩
  · rw [List.replicate_add, List.append_assoc]
  · rw [lateStores, earlyStores, Nat.add_assoc]

theorem storeCount_log (ops : List SbOp) (sbs : Superblocks) :
    storeCount (sbs.log ops) = storeCount sbs + ops.countP SbOp.isStore :=
  List.countP_append

/-- Operations that are not stores do not count. -/
theorem storeCount_log_of_none {ops : List SbOp} (none : ops.countP SbOp.isStore = 0)
    (sbs : Superblocks) : storeCount (sbs.log ops) = storeCount sbs := by
  rw [storeCount_log, none, Nat.add_zero]

theorem storeCount_store (copy : SbCopy) (es : SuperBlock) (sbs : Superblocks) :
    storeCount (sbs.store copy es) = storeCount sbs + 1 := by
  cases copy <;> exact List.countP_append

/-! ## The copies -/

theorem updatePrimarySb_levels (kernel : Kernel) (sbs : Superblocks) :
    (ext4UpdatePrimarySb env target kernel).2 = (updatePrimarySb code env func sbs).2 ∧
      Mirrors target kernel (ext4UpdatePrimarySb env target kernel).1 sbs
        (updatePrimarySb code env func sbs).1 := by
  unfold ext4UpdatePrimarySb updatePrimarySb
  cases env.err .primaryWriteAccess with
  | some err => exact ⟨rfl, mirrors_refl kernel (storeCount_log_of_none rfl sbs)⟩
  | none =>
  cases env.err .primaryDirty with
  | some err =>
      refine ⟨rfl, 1, rfl, ?_⟩
      rw [storeCount_log_of_none rfl, storeCount_store, storeCount_log_of_none rfl]
  | none =>
      refine ⟨rfl, 1, rfl, ?_⟩
      rw [storeCount_log_of_none rfl, storeCount_log_of_none rfl, storeCount_store,
        storeCount_log_of_none rfl]

theorem updateBackupSb_levels {group : Nat} {sbs : Superblocks} (seen : Seen code env sbs group)
    (handle : Bool) (kernel : Kernel) :
    (ext4UpdateBackupSb env target handle group kernel).2 =
        (updateBackupSb code env func handle group sbs).2 ∧
      Mirrors target kernel (ext4UpdateBackupSb env target handle group kernel).1 sbs
        (updateBackupSb code env func handle group sbs).1 := by
  unfold Seen at seen
  unfold ext4UpdateBackupSb updateBackupSb
  cases env.test (.hasSuper group) with
  | false => exact ⟨rfl, mirrors_refl kernel rfl⟩
  | true =>
  cases env.err (.backupRead group) with
  | some err => exact ⟨rfl, mirrors_refl kernel (storeCount_log_of_none rfl sbs)⟩
  | none =>
  have opened : storeCount (sbs.log [.sbBread group none]) = storeCount sbs :=
    storeCount_log_of_none rfl sbs
  have asked : forall err, storeCount ((sbs.log [.sbBread group none]).log
      (if handle then [.getWriteAccess (.backup group) err] else [])) = storeCount sbs := by
    intro err
    cases handle <;> exact (storeCount_log_of_none rfl _).trans opened
  simp only [Bool.not_true, Bool.false_eq_true, if_false]
  cases access : (if handle then env.err (.backupWriteAccess group) else none) with
  | some err =>
      exact ⟨rfl, mirrors_refl kernel ((storeCount_log_of_none rfl _).trans (asked _))⟩
  | none =>
  have middleStores := asked none
  generalize opening : (sbs.log [.sbBread group none]).log
    (if handle then [.getWriteAccess (.backup group) none] else []) = middle at middleStores ⊢
  have backups : middle.backup = sbs.backup := by
    rw [← opening]
    rfl
  rw [backups]
  simp only [seen]
  cases good : intact code env (sbs.backup group) with
  | false => exact ⟨rfl, mirrors_refl kernel ((storeCount_log_of_none rfl _).trans middleStores)⟩
  | true =>
  have stored : forall dirty, storeCount
      ((middle.store (.backup group) (stamped code env func (sbs.backup group))).log
        [if handle then .handleDirtyMetadata (.backup group) dirty
          else .markBufferDirty group]) = storeCount sbs + 1 := by
    intro dirty
    rw [← middleStores, ← storeCount_store (.backup group)
      (stamped code env func (sbs.backup group)) middle]
    cases handle <;> exact storeCount_log_of_none rfl _
  simp only [Bool.not_true, Bool.false_eq_true, if_false]
  cases dirty : (if handle then env.err (.backupDirty group) else none) with
  | some err => exact ⟨rfl, 1, rfl, (storeCount_log_of_none rfl _).trans (stored _)⟩
  | none =>
  cases env.err (.backupSync group) with
  | some err => exact ⟨rfl, 1, rfl, (storeCount_log_of_none rfl _).trans (stored _)⟩
  | none => exact ⟨rfl, 1, rfl, (storeCount_log_of_none rfl _).trans (stored _)⟩

/-- A turn stores to no backup but that of its group. -/
theorem updateBackupSb_backup_of_ne {group other : Nat} (apart : other ≠ group) (handle : Bool)
    (sbs : Superblocks) :
    (updateBackupSb code env func handle group sbs).1.backup other = sbs.backup other := by
  have outcome := updateBackupSb_outcome code env func handle group sbs
  generalize updateBackupSb code env func handle group sbs = result at outcome ⊢
  cases outcome with
  | undirtied err journalled good failed => exact Function.update_of_ne apart _ _
  | written good => exact Function.update_of_ne apart _ _
  | _ => rfl

theorem updateBackupSbs_levels {groups : List Nat} {sbs : Superblocks}
    (seen : forall group, group ∈ groups -> Seen code env sbs group) (nodup : groups.Nodup)
    (handle : Bool) (written : Nat) (kernel : Kernel) :
    (updateBackups env target groups handle written kernel).2 =
        (updateBackupSbs code env func groups handle written sbs).2 ∧
      Mirrors target kernel (updateBackups env target groups handle written kernel).1 sbs
        (updateBackupSbs code env func groups handle written sbs).1 := by
  induction groups generalizing handle written kernel sbs with
  | nil => exact ⟨rfl, mirrors_refl kernel rfl⟩
  | cons group rest inductionHypothesis =>
      have restNodup := nodup.of_cons
      unfold updateBackups updateBackupSbs
      by_cases own : group = env.primaryGroup
      · rw [if_pos own, if_pos own]
        exact inductionHypothesis (fun later member => seen later (List.mem_cons_of_mem _ member))
          restNodup handle written kernel
      rw [if_neg own, if_neg own]
      have turn := @updateBackupSb_levels code env func target group sbs
        (seen group List.mem_cons_self) handle kernel
      have spared := fun other apart =>
        @updateBackupSb_backup_of_ne code env func group other apart handle sbs
      generalize updateBackupSb code env func handle group sbs = outcomeSb at turn spared ⊢
      generalize ext4UpdateBackupSb env target handle group kernel = outcome at turn ⊢
      rcases outcomeSb with ⟨between, replySb⟩
      rcases outcome with ⟨second, reply⟩
      rcases turn with ⟨same, mirrored⟩
      obtain rfl : reply = replySb := same
      have seenLater : forall later, later ∈ rest -> Seen code env between later := by
        intro later member
        have apart : later ≠ group := fun same =>
          (List.nodup_cons.mp nodup).1 (same ▸ member)
        unfold Seen
        rw [spared later apart]
        exact seen later (List.mem_cons_of_mem _ member)
      cases reply with
      | error err =>
          by_cases passed : err = .efsbadcrc
          · simp only [if_pos passed]
            have rest := inductionHypothesis seenLater restNodup handle written second
            exact ⟨rest.1, mirrored.trans rest.2⟩
          · simp only [if_neg passed]
            exact ⟨trivial, mirrored⟩
      | ok count =>
          by_cases full : (handle && decide (1 < written + count)) = true
          · simp only [if_pos full]
            have stopped : forall err, Mirrors target kernel second sbs
                (between.log [.journalStop err]) := fun err =>
              mirrored.trans (mirrors_refl second (storeCount_log_of_none rfl between))
            cases env.err (.journalStop true) with
            | some err => exact ⟨rfl, stopped _⟩
            | none =>
                have rest := @inductionHypothesis (between.log [.journalStop none]) seenLater
                  restNodup false (written + count) second
                exact ⟨rest.1, (stopped none).trans rest.2⟩
          · simp only [if_neg full]
            have rest := inductionHypothesis seenLater restNodup handle (written + count) second
            exact ⟨rest.1, mirrored.trans rest.2⟩

theorem updatePrimarySb_backup (sbs : Superblocks) :
    (updatePrimarySb code env func sbs).1.backup = sbs.backup := by
  have outcome := updatePrimarySb_outcome code env func sbs
  generalize updatePrimarySb code env func sbs = result at outcome ⊢
  cases outcome <;> rfl

/-- The label `out` stores nothing. -/
theorem storeCount_superblocksOut (err : Option Errno) (handle : Bool) (sbs : Superblocks) :
    storeCount (superblocksOut env err handle sbs).1 = storeCount sbs := by
  unfold superblocksOut
  cases handle with
  | false => exact (storeCount_log_of_none rfl _).trans (storeCount_log_of_none rfl _)
  | true => exact (storeCount_log_of_none rfl _).trans (storeCount_log_of_none rfl _)

theorem updateSuperblocksFn_levels {sbs : Superblocks} (describes : Describes code env sbs)
    (kernel : Kernel) :
    (ext4UpdateSuperblocksFn env target kernel).2 = (updateSuperblocksFn code env func sbs).2 ∧
      Mirrors target kernel (ext4UpdateSuperblocksFn env target kernel).1 sbs
        (updateSuperblocksFn code env func sbs).1 := by
  unfold ext4UpdateSuperblocksFn updateSuperblocksFn
  rw [describes.resizing]
  cases sbs.resizing with
  | true => exact ⟨rfl, mirrors_refl kernel (storeCount_log_of_none rfl sbs)⟩
  | false =>
  have locked : storeCount { sbs.log [.testAndSetResizing false] with resizing := true } =
      storeCount sbs := storeCount_log_of_none rfl sbs
  simp only [Bool.false_eq_true, if_false]
  have started : forall err, storeCount (Superblocks.log [.journalStart 3 err]
      { sbs.log [.testAndSetResizing false] with resizing := true }) = storeCount sbs :=
    fun err => (storeCount_log_of_none rfl _).trans locked
  cases env.err .journalStart with
  | some err =>
      exact ⟨rfl, mirrors_refl kernel ((storeCount_superblocksOut _ _ _).trans (started _))⟩
  | none =>
  have backups : (Superblocks.log [.journalStart 3 none]
      { sbs.log [.testAndSetResizing false] with resizing := true }).backup = sbs.backup := rfl
  have openedStores := started none
  generalize Superblocks.log [.journalStart 3 none]
    { sbs.log [.testAndSetResizing false] with resizing := true } = opened at openedStores backups ⊢
  have reached : Mirrors target kernel kernel sbs opened := mirrors_refl kernel openedStores
  have primary := @updatePrimarySb_levels code env func target kernel opened
  have kept := @updatePrimarySb_backup code env func opened
  generalize updatePrimarySb code env func opened = outcomeSb at primary kept ⊢
  generalize ext4UpdatePrimarySb env target kernel = outcome at primary ⊢
  rcases outcomeSb with ⟨between, replySb⟩
  rcases outcome with ⟨second, reply⟩
  rcases primary with ⟨same, mirrored⟩
  obtain rfl : reply = replySb := same
  cases reply with
  | some err =>
      have closed : Mirrors target second second between
          (superblocksOut env (some err) true between).1 :=
        mirrors_refl second (storeCount_superblocksOut _ _ _)
      exact ⟨rfl, (reached.trans mirrored).trans closed⟩
  | none =>
      have seen : forall group, group ∈ env.backupGroups -> Seen code env between group := by
        intro group member
        unfold Seen
        rw [show between.backup = sbs.backup from kept.trans backups]
        exact describes.seen group member
      have loop := @updateBackupSbs_levels code env func target env.backupGroups between seen
        describes.nodup true 0 second
      dsimp only
      generalize updateBackupSbs code env func env.backupGroups true 0 between = outcomeSb at loop ⊢
      generalize updateBackups env target env.backupGroups true 0 second = outcome at loop ⊢
      rcases outcomeSb with ⟨last, resultSb⟩
      rcases outcome with ⟨third, result⟩
      rcases loop with ⟨same, looped⟩
      obtain rfl : result = resultSb := same
      have closed : Mirrors target third third last
          (superblocksOut env result.1 result.2 last).1 :=
        mirrors_refl third (storeCount_superblocksOut _ _ _)
      exact ⟨rfl, ((reached.trans mirrored).trans looped).trans closed⟩

/-! ## The ioctls -/

/-- The two levels of a call reply the same, with one recorded change for each store. -/
def OneProgram (target : Target) (kernel : Kernel) (sbs : Superblocks)
    (dispatched : Kernel × Int) (performed : Superblocks × Int) : Prop :=
  dispatched.2 = performed.2 ∧
    dispatched.1.trace.count (.change target) + storeCount sbs =
      kernel.trace.count (.change target) + storeCount performed.1

theorem count_log_of_ne {op : Op} (other : op ≠ .change target) (kernel : Kernel) :
    (kernel.log op).trace.count (.change target) = kernel.trace.count (.change target) := by
  rw [Kernel.log_trace, List.count_append, List.count_singleton, beq_eq_false_iff_ne.mpr other,
    if_neg Bool.false_ne_true, Nat.add_zero]

theorem oneProgram_refused (kernel : Kernel) (sbs : Superblocks) (ret : Int) :
    OneProgram target kernel sbs (kernel, ret) (sbs, ret) := ⟨rfl, rfl⟩

/-- What is logged before, if it is no change, does not matter. -/
theorem OneProgram.of_log (op : Op) (other : op ≠ .change target) {kernel : Kernel}
    {sbs : Superblocks} {dispatched : Kernel × Int} {performed : Superblocks × Int}
    (later : OneProgram target (kernel.log op) sbs dispatched performed) :
    OneProgram target kernel sbs dispatched performed := by
  refine ⟨later.1, ?_⟩
  rw [← count_log_of_ne other kernel]
  exact later.2

/-- An update between `mnt_want_write_file` and `mnt_drop_write_file`. -/
theorem underWriteAccess_levels {sbs : Superblocks} (describes : Describes code env sbs)
    (kernel : Kernel) :
    OneProgram target kernel sbs
      (underWriteAccess env (ext4UpdateSuperblocksFn env target) kernel)
      (match env.err .mntWantWriteFile with
        | some err => (sbs, err.code)
        | none => updateSuperblocksFn code env func sbs) := by
  unfold underWriteAccess
  refine OneProgram.of_log (.mntWantWriteFile (env.err .mntWantWriteFile)) Op.noConfusion ?_
  cases env.err .mntWantWriteFile with
  | some err => exact oneProgram_refused _ sbs err.code
  | none =>
  have update := @updateSuperblocksFn_levels code env func target sbs describes
    (kernel.log (.mntWantWriteFile none))
  dsimp only
  generalize updateSuperblocksFn code env func sbs = performed at update ⊢
  generalize ext4UpdateSuperblocksFn env target (kernel.log (.mntWantWriteFile none)) =
    dispatched at update ⊢
  rcases dispatched with ⟨after, ret⟩
  rcases update with ⟨same, count, rfl, stores⟩
  refine ⟨same, ?_⟩
  rw [count_log_of_ne Op.noConfusion, stores, List.count_append, List.count_replicate_self]
  omega

end

variable {code : SuperblockCode} {env : IoctlEnv} {sbs : Superblocks}

/-- The label and uuid cases of the dispatcher and the handlers on the contents are
one program, for every caller and whatever fails. -/
theorem superblock_levels_agree (describes : Describes code env sbs) (ext4Code : Ext4Code)
    (geo : Geometry) (kernel : Kernel) :
    (forall userLabel, env.labelLength = strnlen userLabel ->
        OneProgram .label kernel sbs (dispatchIoctl env ext4Code geo .setfslabel kernel)
          (ioctlSetlabel code env userLabel sbs)) ∧
      forall uuid, OneProgram .uuid kernel sbs (dispatchIoctl env ext4Code geo .setfsuuid kernel)
        (ioctlSetuuid code env uuid sbs) := by
  have updates := fun target func => @underWriteAccess_levels code env func target sbs describes
  constructor
  · intro userLabel given
    show OneProgram .label kernel sbs (ext4IoctlSetlabel env kernel) _
    unfold ext4IoctlSetlabel ioctlSetlabel checkAuthority
    refine OneProgram.of_log (.check .capable (env.test .capableSysAdmin)) Op.noConfusion ?_
    generalize kernel.log (.check .capable (env.test .capableSysAdmin)) = checked
    cases env.test .capableSysAdmin with
    | false => exact oneProgram_refused checked sbs _
    | true =>
    simp only [Bool.not_true, Bool.false_eq_true, if_false, if_true, given]
    split
    · exact oneProgram_refused checked sbs _
    by_cases long : labelMax < strnlen userLabel
    · have tooLong : 16 < strnlen userLabel := long
      rw [if_pos tooLong, if_pos long]
      exact oneProgram_refused checked sbs _
    have short : ¬ 16 < strnlen userLabel := long
    rw [if_neg short, if_neg long]
    exact updates .label _ checked
  · intro uuid
    show OneProgram .uuid kernel sbs (ext4IoctlSetuuid env kernel) _
    unfold ext4IoctlSetuuid ioctlSetuuid checkAuthority
    refine OneProgram.of_log (.check .capable (env.test .capableSysAdmin)) Op.noConfusion ?_
    generalize kernel.log (.check .capable (env.test .capableSysAdmin)) = checked
    cases env.test .capableSysAdmin with
    | false => exact oneProgram_refused checked sbs _
    | true =>
    simp only [Bool.not_true, Bool.false_eq_true, if_false, if_true]
    split
    · exact oneProgram_refused checked sbs _
    split
    · exact oneProgram_refused checked sbs _
    split
    · exact oneProgram_refused checked sbs _
    split
    · exact oneProgram_refused checked sbs _
    exact updates .uuid _ checked

/-- The sample volume, whose environment says that no backup has a bad checksum. -/
def labelEnv : IoctlEnv := { volumeEnv with labelLength := 4 }

theorem labelEnv_describes :
    Describes (Crc32c.volumeCode volumeEnv.features) labelEnv freshSuperblocks where
  resizing := rfl
  seen := by
    intro group _
    have lawful := Crc32c.volumeCode_lawful volumeEnv.features
    have summed : ext4HasMetadataCsum volumeEnv.features = true := rfl
    have right : intact (Crc32c.volumeCode volumeEnv.features) labelEnv freshSuperblock = true := by
      unfold intact freshSuperblock
      rw [lawful.csumSet_eq, if_pos summed, lawful.csum_checksum]
      simp
    exact (congrArg (!·) right).symm
  nodup := by decide

/-- The label "evfs" goes to the primary and to three backups. -/
theorem superblock_levels_agree_sample :
    OneProgram .label sampleKernel freshSuperblocks
        (dispatchIoctl labelEnv GdtCsum.volumeCode GdtCsum.volume .setfslabel sampleKernel)
        (ioctlSetlabel (Crc32c.volumeCode volumeEnv.features) labelEnv evfsLabel
          freshSuperblocks) ∧
      (dispatchIoctl labelEnv GdtCsum.volumeCode GdtCsum.volume .setfslabel
        sampleKernel).1.trace.count (.change .label) = 4 :=
  ⟨(superblock_levels_agree labelEnv_describes GdtCsum.volumeCode GdtCsum.volume sampleKernel).1
    evfsLabel (by decide), by decide⟩

end EntryPoints
end Evfs
