import Evfs.Authority.Discipline
import Evfs.FreeSpace.AllocationMap

namespace Evfs
namespace Authority

open Ext4 Foundation FreeSpace

/-!
# Which ioctls keep the discipline

Most cases of the dispatcher change persistent state only under write access.
They keep the discipline from the initial level, and are shown with the rules
of `Keeps`, each helper once.

Some cases call code outside the repository without write access: they read, trim,
flush or freeze, or end a resize.  Such a case keeps the discipline exactly when that
code changes nothing, which is not so of a listing of extents that first writes
delayed blocks back.

The handler of the flip asks for no write access and checks no authority.  A
call that reaches the stores breaks the rule at its first store, and a call
that is refused before them changes nothing.
-/

variable (env : IoctlEnv)

/-- `fscrypt_*` and `fsverity_*` take write access and check authority themselves. -/
structure OutsideCode : Prop where
  delegates : forall handler, discipline.Accepts (env.delegate handler).1

/-! ## Operations that are reached without write access -/

/-- The operation and the journal flush after it succeed under write access. -/
def resized (operation : Extern) : Bool :=
  !env.fails .mntWantWriteFile && !env.fails operation &&
    !(env.test .journal && env.fails .journalFlush)

/-- A resize that has succeeded asks for lazy initialisation. -/
def registersLi (grown : Bool) (operation : Extern) : List Extern :=
  if resized env operation && grown && ext4HasGroupDescCsum env.features &&
      env.test .initInodeTable then [.registerLiRequest] else []

/-- What stands between `ext4_resize_begin` and `ext4_resize_end`, and the latter. -/
def resizing (operations : List Extern) : List Extern :=
  if env.test .capableSysResource then
    if env.fails .resizeBegin then [] else operations ++ [.resizeEnd]
  else []

def shutdownOperations : List Extern :=
  if 2 < env.shutdownFlags then []
  else if env.test .forcedShutdown then []
  else if env.shutdownFlags = 0 then [.bdevFreeze]
  else if env.shutdownFlags = 1 ∧ env.test .journal = true ∧ env.test .journalAborted = false then
    [.forceCommit]
  else []

def checkpointOperations : List Extern :=
  if 7 < env.checkpointFlags ∨ env.checkpointFlags &&& 3 = 3 then []
  else if !env.test .journal then []
  else if env.checkpointFlags &&& 1 = 1 ∧ env.test .journalMaxDiscardSectors = false then []
  else if env.checkpointFlags &&& 4 = 4 then []
  else [.journalFlush]

/-- The operations outside the repository that a command reaches while it holds
no write access. -/
def unguarded : Command -> List Extern
  | .getfsmap =>
      if env.fails (.copyFromUser 0) then []
      else if env.test .fsmapReserved then []
      else if env.test .fsmapOffsets then []
      else [.getfsmap]
  | .groupExtend => resizing env []
  | .groupAdd =>
      if env.fails (.copyFromUser 0) then []
      else resizing env (if env.test .bigalloc then [] else registersLi env true .groupAdd)
  | .resizeFs =>
      if env.fails (.copyFromUser 0) then []
      else resizing env
        (registersLi env (decide (env.groupsBefore < env.groupsAfter)) .resizeFs)
  | .fitrim =>
      if env.test .capableSysAdmin then
        if !env.test .maxDiscardSectors then []
        else if env.test .noload && env.test .featureJournal then []
        else if env.fails (.copyFromUser 0) then []
        else [.trimFs]
      else []
  | .precacheExtents => [.extPrecache]
  | .getEncryptionPwsalt => [.getEncryptionPwsalt]
  | .getEsCache =>
      if env.fails (.copyFromUser 0) then []
      else if env.test .tooManyExtents then []
      else [.getEsCache]
  | .shutdown =>
      if env.test .capableSysAdmin then
        if env.fails .getUser then [] else shutdownOperations env
      else []
  | .checkpoint =>
      if env.fails (.copyFromUser 0) then []
      else if env.test .capableSysAdmin then checkpointOperations env
      else []
  | _ => []

/-! ## The superblocks -/

theorem ext4UpdatePrimarySb_keeps (target : Target) :
    Keeps Guard.full (ext4UpdatePrimarySb env target) := by
  intro kernel within
  have changed := within.change target
  unfold ext4UpdatePrimarySb
  cases env.err .primaryWriteAccess with
  | some err => exact within
  | none =>
  cases env.err .primaryDirty with
  | some err => exact changed
  | none => exact changed

theorem ext4UpdateBackupSb_keeps (target : Target) (handle : Bool) (group : Nat) :
    Keeps Guard.full (ext4UpdateBackupSb env target handle group) := by
  intro kernel within
  have changed := within.change target
  unfold ext4UpdateBackupSb
  split
  · exact within
  cases env.err (.backupRead group) with
  | some err => exact within
  | none =>
  cases (if handle then env.err (.backupWriteAccess group) else none) with
  | some err => exact within
  | none =>
  dsimp only
  split
  · exact within
  cases (if handle then env.err (.backupDirty group) else none) with
  | some err => exact changed
  | none =>
  cases env.err (.backupSync group) with
  | some err => exact changed
  | none => exact changed

/-- The loop over the backups, by induction on the groups that are left. -/
theorem updateBackups_keeps (target : Target) (groups : List Nat) (handle : Bool)
    (written : Nat) : Keeps Guard.full (updateBackups env target groups handle written) := by
  induction groups generalizing handle written with
  | nil => exact keeps_return _
  | cons group rest inductionHypothesis =>
      intro kernel within
      have updated := ext4UpdateBackupSb_keeps env target handle group kernel within
      rw [updateBackups]
      split
      · exact inductionHypothesis handle written kernel within
      rcases result : ext4UpdateBackupSb env target handle group kernel with ⟨later, err | count⟩
      · rw [result] at updated
        dsimp only
        split
        · exact inductionHypothesis handle written later updated
        · exact updated
      · rw [result] at updated
        dsimp only
        split
        · cases env.err (.journalStop true) with
          | some err => exact updated
          | none => exact inductionHypothesis false (written + count) later updated
        · exact inductionHypothesis handle (written + count) later updated

theorem ext4UpdateSuperblocksFn_keeps (target : Target) :
    Keeps Guard.full (ext4UpdateSuperblocksFn env target) := by
  intro kernel within
  have primary := ext4UpdatePrimarySb_keeps env target kernel within
  unfold ext4UpdateSuperblocksFn
  split
  · exact within
  cases env.err .journalStart with
  | some err => exact within
  | none =>
  rcases result : ext4UpdatePrimarySb env target kernel with ⟨later, none | err⟩
  · rw [result] at primary
    exact updateBackups_keeps env target env.backupGroups true 0 later primary
  · rw [result] at primary
    exact primary

theorem ext4IoctlSetlabel_keeps : Keeps Guard.initial (ext4IoctlSetlabel env) := by
  refine keeps_checkAuthority env (keeps_early (keeps_early ?_))
  exact keeps_underWriteAccess env (ext4UpdateSuperblocksFn_keeps env .label)

theorem ext4IoctlSetuuid_keeps : Keeps Guard.initial (ext4IoctlSetuuid env) := by
  refine keeps_checkAuthority env (keeps_early (keeps_early (keeps_early (keeps_early ?_))))
  exact keeps_underWriteAccess env (ext4UpdateSuperblocksFn_keeps env .uuid)

/-! ## Changing an inode -/

theorem iocSetversion_keeps : Keeps Guard.initial (iocSetversion env) := by
  refine keeps_checkAuthority env (keeps_early (keeps_underWriteAccess env (keeps_early ?_)))
  intro kernel within
  have changed := within.change .inode
  cases env.err .journalStart with
  | some err => exact within
  | none =>
  cases env.err .reserveInodeWrite with
  | some err => exact within
  | none => exact changed

theorem ownerOperation_keeps (operation : Extern) :
    Keeps Guard.initial (ownerOperation env operation) :=
  keeps_checkAuthority env (keeps_underWriteAccess env (keeps_callExtern env operation))

theorem iocMoveExt_keeps : Keeps Guard.initial (iocMoveExt env) := by
  refine keeps_early (keeps_checkAuthority env
    (keeps_early (keeps_early (keeps_early (keeps_early ?_)))))
  have moved : Keeps ⟨false, true⟩ (underWriteAccess env (callExtern env .moveExtents)) :=
    keeps_underWriteAccess env (keeps_callExtern env .moveExtents)
  exact keeps_bind moved fun _ => keeps_return _

theorem finishSwap_keeps : Keeps Guard.full (finishSwap env) := by
  intro kernel within
  have reverted := within.change .inode
  unfold finishSwap
  cases env.err (.markInodeDirty false) with
  | some err => exact reverted
  | none =>
  cases env.err (.markInodeDirty true) with
  | some err => exact reverted
  | none =>
  cases (if env.test .quotaShrinks then none else env.err .dquotAllocSpace) with
  | some err => exact reverted
  | none => exact within

/-- The two checks inside come on top of the one in the case itself. -/
theorem swapInodeBootLoader_keeps : Keeps Guard.full (swapInodeBootLoader env) := by
  unfold swapInodeBootLoader
  cases env.err .iget with
  | some err => exact keeps_return _
  | none =>
  refine keeps_early (keeps_early (keeps_checkAuthority env
    (keeps_checkAuthority env ?_)))
  intro kernel within
  have first := within.changes (env.targets (.filemapWriteAndWait false))
  have second := first.changes (env.targets (.filemapWriteAndWait true))
  cases env.err (.filemapWriteAndWait false) with
  | some err => exact first
  | none =>
  cases env.err (.filemapWriteAndWait true) with
  | some err => exact second
  | none =>
  dsimp only
  split
  · exact second
  have prepared : Within Guard.full
      (if env.test .bootLoaderUnused then ((kernel.changes
          (env.targets (.filemapWriteAndWait false))).changes
            (env.targets (.filemapWriteAndWait true))).log (.change .inode)
        else (kernel.changes (env.targets (.filemapWriteAndWait false))).changes
          (env.targets (.filemapWriteAndWait true))) := by
    split
    · exact second.change .inode
    · exact second
  cases env.err .dquotInitialize with
  | some err => exact prepared
  | none => exact finishSwap_keeps env _ (prepared.change .inode)

theorem iocSwapBoot_keeps : Keeps Guard.initial (iocSwapBoot env) :=
  keeps_checkAuthority env (keeps_underWriteAccess env (swapInodeBootLoader_keeps env))

/-! ## Resizing -/

theorem resizeAndFlush_keeps (operation : Extern) :
    Keeps Guard.full (resizeAndFlush env operation) := by
  intro kernel within
  have operated := keeps_callExtern env operation kernel within
  unfold resizeAndFlush
  dsimp only
  split
  · exact keeps_callExtern env .journalFlush _ operated
  · exact operated

theorem callExtern_eq_zero_iff (operation : Extern) (kernel : Kernel) :
    (callExtern env operation kernel).2 = 0 ↔ env.fails operation = false := by
  unfold callExtern IoctlEnv.result IoctlEnv.fails
  rw [Errno.result_eq_zero_iff, Option.isSome_eq_false_iff, Option.isNone_iff_eq_none]

theorem resizeAndFlush_eq_zero_iff (operation : Extern) (kernel : Kernel) :
    (resizeAndFlush env operation kernel).2 = 0 ↔
      env.fails operation = false ∧ (env.test .journal && env.fails .journalFlush) = false := by
  unfold resizeAndFlush
  dsimp only
  by_cases operated : (callExtern env operation kernel).2 = 0
  · rw [if_pos operated]
    have passed := (callExtern_eq_zero_iff env operation kernel).mp operated
    cases env.test .journal with
    | false => simp only [passed, Bool.false_eq_true, if_false, Bool.false_and, and_self]
    | true =>
        simp only [if_true, callExtern_eq_zero_iff, passed, Bool.true_and, true_and]
  · rw [if_neg operated]
    exact iff_of_false operated
      (fun both => operated ((callExtern_eq_zero_iff env operation kernel).mpr both.1))

theorem resized_iff (operation : Extern) (kernel : Kernel) :
    (underWriteAccess env (resizeAndFlush env operation) kernel).2 = 0 ↔
      resized env operation = true := by
  unfold underWriteAccess resized IoctlEnv.fails
  cases env.err .mntWantWriteFile with
  | some err => exact iff_of_false err.nonzero Bool.false_ne_true
  | none =>
      refine (resizeAndFlush_eq_zero_iff env operation _).trans ?_
      simp only [IoctlEnv.fails, Option.isSome_none, Bool.not_false, Bool.true_and,
        Bool.and_eq_true, Bool.not_eq_true']

theorem thenRegisterLiRequest_exposes (grown : Bool) (operation : Extern) :
    Exposes env true (registersLi env grown operation)
      (thenRegisterLiRequest env grown (underWriteAccess env (resizeAndFlush env operation))) := by
  have guarded : Exposes env true []
      (underWriteAccess env (resizeAndFlush env operation)) :=
    exposes_underWriteAccess (resizeAndFlush_keeps env operation)
  intro kernel bare
  unfold thenRegisterLiRequest registersLi
  dsimp only
  by_cases registers : (resized env operation && grown && ext4HasGroupDescCsum env.features &&
      env.test .initInodeTable) = true
  · rw [if_pos registers]
    simp only [Bool.and_eq_true] at registers
    rw [if_pos ⟨(resized_iff env operation kernel).mpr registers.1.1.1, registers.1.1.2,
      registers.1.2, registers.2⟩]
    exact exposes_then .registerLiRequest guarded kernel bare
  · rw [if_neg registers]
    simp only [Bool.and_eq_true, and_assoc, ← resized_iff env operation kernel] at registers
    rw [if_neg registers]
    exact guarded kernel bare

/-- A resize has passed `ext4_resize_begin`, so the caller has shown authority. -/
theorem ext4ResizeBegin_exposes {operations : List Extern} {body : Kernel -> Kernel × Int}
    (exposed : Exposes env true operations body) :
    Exposes env false (resizing env operations) (ext4ResizeBegin env (resizeOut env body)) := by
  have ended : Exposes env true (operations ++ [.resizeEnd]) (resizeOut env body) :=
    exposes_then .resizeEnd exposed
  refine exposes_checkAuthority ?_
  unfold IoctlEnv.fails
  cases env.err .resizeBegin with
  | some err => exact exposes_return env err.code
  | none => exact ended

theorem ext4IoctlGroupAdd_exposes :
    Exposes env false
      (resizing env (if env.test .bigalloc then [] else registersLi env true .groupAdd))
      (ext4IoctlGroupAdd env) :=
  ext4ResizeBegin_exposes env (exposes_early (thenRegisterLiRequest_exposes env true .groupAdd))

theorem iocGroupExtend_exposes :
    Exposes env false (resizing env []) (iocGroupExtend env) := by
  have extended : Exposes env true [] (underWriteAccess env (resizeAndFlush env .groupExtend)) :=
    exposes_underWriteAccess (resizeAndFlush_keeps env .groupExtend)
  refine ext4ResizeBegin_exposes env ?_
  simpa only [ite_self] using exposes_early (exposes_early extended)

theorem iocResizeFs_exposes :
    Exposes env false (unguarded env .resizeFs) (iocResizeFs env) :=
  exposes_early (ext4ResizeBegin_exposes env (thenRegisterLiRequest_exposes env _ .resizeFs))

/-! ## The other cases -/

theorem ext4IocGetfsmap_exposes :
    Exposes env false (unguarded env .getfsmap) (ext4IocGetfsmap env) :=
  exposes_early (exposes_early (exposes_early
    (fun kernel bare => exposes_callExtern .getfsmap kernel bare)))

theorem iocFitrim_exposes : Exposes env false (unguarded env .fitrim) (iocFitrim env) :=
  exposes_checkAuthority (exposes_early (exposes_early (exposes_early
    (fun kernel bare => exposes_callExtern .trimFs kernel bare))))

theorem ext4IoctlGetEsCache_exposes :
    Exposes env false (unguarded env .getEsCache) (ext4IoctlGetEsCache env) :=
  exposes_early (exposes_early (fun kernel bare => exposes_callExtern .getEsCache kernel bare))

theorem ext4IoctlShutdown_exposes :
    Exposes env false (unguarded env .shutdown) (ext4IoctlShutdown env) := by
  refine exposes_checkAuthority (exposes_early (exposes_early (exposes_early
    (exposes_ite _ ?_ (exposes_ite _ ?_ (exposes_return env _))))))
  · exact exposes_callExtern .bdevFreeze
  · exact fun kernel bare => exposes_callExtern .forceCommit kernel bare

theorem ext4IoctlCheckpoint_exposes :
    Exposes env false (unguarded env .checkpoint) (ext4IoctlCheckpoint env) :=
  exposes_early (exposes_checkAuthority
    (exposes_early (exposes_early (exposes_early (exposes_early
      (exposes_callExtern .journalFlush))))))

theorem ext4IoctlGetuuid_keeps : Keeps Guard.initial (ext4IoctlGetuuid env) :=
  keeps_early (keeps_early (keeps_early (keeps_return _)))

/-! ## The flip -/

section Flip

variable (code : Ext4Code) (geo : Geometry)

theorem changes_beforeStores (call : FlipCall) :
    forall op, op ∈ call.beforeStores code geo -> changes op = false := by
  unfold FlipCall.beforeStores
  rw [List.forall_mem_cons]
  refine ⟨rfl, ?_⟩
  split
  · exact List.forall_mem_nil _
  rw [List.forall_mem_cons]
  refine ⟨rfl, ?_⟩
  cases ext4ReadBlockBitmap geo call.faults (call.group code) with
  | some err => exact List.forall_mem_nil _
  | none =>
  dsimp only
  rw [List.forall_mem_cons]
  refine ⟨rfl, ?_⟩
  split
  · simp [changes]
  rw [List.forall_mem_cons]
  refine ⟨rfl, ?_⟩
  cases call.faults.journalStart with
  | some err => simp [changes]
  | none =>
  cases call.faults.bitmapWriteAccess with
  | some err => simp [changes]
  | none =>
  cases call.faults.descWriteAccess with
  | some err => simp [changes]
  | none => simp [changes]

/-- A call that is refused before the stores changes nothing. -/
theorem accepts_of_refused {call : FlipCall} (refused : ¬ call.Granted code geo)
    {kernel : Kernel} (fresh : kernel.trace = []) :
    discipline.Accepts (flipBlockBit code geo call kernel).1.trace := by
  rw [flipBlockBit_of_refused code geo refused]
  unfold opened
  rw [fresh]
  exact discipline.accepts_append_of_harmless discipline.accepts_nil
    fun op member => harmless_of_changes (changes_beforeStores code geo call op member)

/-- A granted call inverts the bit right after its operations that can be refused. -/
theorem flipBlockBit_trace_of_granted {call : FlipCall} (granted : call.Granted code geo)
    (kernel : Kernel) :
    ((opened code geo call kernel).trace ++
        [.testBit (call.group code) (call.offset code)]) ++
          [.writeBit (call.group code) (call.offset code)
            (!kernel.mem.bitmap (call.group code) (call.offset code))] <+:
      (flipBlockBit code geo call kernel).1.trace := by
  rw [flipBlockBit_trace, FlipCall.operations, if_pos granted]
  simp only [opened, storeOps, List.append_assoc, List.cons_append, List.nil_append]
  -- two lists with the same start: the rest of the stores and the closing follow
  refine (List.prefix_append_right_inj _).mpr ((List.prefix_append_right_inj _).mpr ?_)
  exact List.prefix_append [_, _] _

/-- At the first store of a granted call neither condition has been established. -/
theorem flipBlockBit_undisciplined {call : FlipCall} (granted : call.Granted code geo)
    {kernel : Kernel} (fresh : kernel.trace = []) :
    ¬ discipline.Accepts (flipBlockBit code geo call kernel).1.trace := by
  intro accepted
  have permitted := accepted _ _ (flipBlockBit_trace_of_granted code geo granted kernel)
  have level : discipline.level ((opened code geo call kernel).trace ++
      [.testBit (call.group code) (call.offset code)]) = Guard.initial := by
    unfold opened
    rw [fresh, FlipCall.beforeStores_of_granted granted]
    rfl
  have both := permitted rfl
  unfold Monitor.level at level
  rw [level] at both
  exact absurd both.1 Bool.false_ne_true

end Flip

/-! ## The whole command set -/

section Dispatch

variable (code : Ext4Code) (geo : Geometry)

/-- The record of one call. -/
def callTrace (cmd : Command) (kernel : Kernel) : List Op :=
  (dispatchIoctl env code geo cmd { kernel with trace := [] }).1.trace

theorem within_fresh (kernel : Kernel) : Within Guard.initial { kernel with trace := [] } :=
  ⟨discipline.accepts_nil, fun impossible => impossible, fun impossible => impossible⟩

theorem accepts_delegated (outside : OutsideCode env) (feature : Bool) (handler : Delegate)
    (kernel : Kernel) :
    discipline.Accepts
      (delegated env feature handler { kernel with trace := [] }).1.trace := by
  unfold delegated
  split
  · exact outside.delegates handler
  · exact discipline.accepts_nil

/-- A case without exposed operations. -/
theorem accepts_iff_of_guarded {cmd : Command} {kernel : Kernel}
    (accepted : discipline.Accepts (callTrace env code geo cmd kernel))
    (guarded : unguarded env cmd = []) :
    discipline.Accepts (callTrace env code geo cmd kernel) ↔ Quiet env (unguarded env cmd) := by
  rw [guarded]
  exact iff_of_true accepted (quiet_nil env)

/-- A case other than the flip keeps the discipline exactly when the operations
it exposes change nothing. -/
theorem accepts_iff_of_ne_flip (outside : OutsideCode env) {cmd : Command}
    (other : cmd ≠ .flipBlockBit) (kernel : Kernel) :
    discipline.Accepts (callTrace env code geo cmd kernel) ↔ Quiet env (unguarded env cmd) := by
  have fresh := within_fresh kernel
  have bare : discipline.Reaches (Guard.Bare false) ({ kernel with trace := [] } : Kernel).trace :=
    ⟨discipline.accepts_nil, rfl, fun impossible => absurd impossible Bool.false_ne_true⟩
  have guarded : forall {cmd : Command}, unguarded env cmd = [] ->
      discipline.Accepts (callTrace env code geo cmd kernel) ->
        (discipline.Accepts (callTrace env code geo cmd kernel) ↔
          Quiet env (unguarded env cmd)) :=
    fun none accepted => accepts_iff_of_guarded env code geo accepted none
  have handedOn : forall feature handler, discipline.Accepts
      (delegated env feature handler { kernel with trace := [] }).1.trace :=
    fun feature handler => accepts_delegated env outside feature handler kernel
  cases cmd with
  | getfsmap => exact (ext4IocGetfsmap_exposes env _ bare).1
  | getversion => exact guarded rfl fresh.1
  | getversionOld => exact guarded rfl fresh.1
  | setversion => exact guarded rfl (iocSetversion_keeps env _ fresh).1
  | setversionOld => exact guarded rfl (iocSetversion_keeps env _ fresh).1
  | groupExtend => exact (iocGroupExtend_exposes env _ bare).1
  | moveExt => exact guarded rfl (iocMoveExt_keeps env _ fresh).1
  | groupAdd => exact (exposes_early (ext4IoctlGroupAdd_exposes env) _ bare).1
  | migrate => exact guarded rfl (ownerOperation_keeps env .extMigrate _ fresh).1
  | allocDaBlks => exact guarded rfl (ownerOperation_keeps env .allocDaBlocks _ fresh).1
  | swapBoot => exact guarded rfl (iocSwapBoot_keeps env _ fresh).1
  | resizeFs => exact (iocResizeFs_exposes env _ bare).1
  | fitrim => exact (iocFitrim_exposes env _ bare).1
  | precacheExtents => exact (exposes_callExtern .extPrecache _ bare).1
  | setEncryptionPolicy => exact guarded rfl (handedOn _ _)
  | getEncryptionPwsalt => exact (exposes_callExtern .getEncryptionPwsalt _ bare).1
  | getEncryptionPolicy => exact guarded rfl (handedOn _ _)
  | getEncryptionPolicyEx => exact guarded rfl (handedOn _ _)
  | addEncryptionKey => exact guarded rfl (handedOn _ _)
  | removeEncryptionKey => exact guarded rfl (handedOn _ _)
  | removeEncryptionKeyAllUsers => exact guarded rfl (handedOn _ _)
  | getEncryptionKeyStatus => exact guarded rfl (handedOn _ _)
  | getEncryptionNonce => exact guarded rfl (handedOn _ _)
  | clearEsCache => exact guarded rfl (keeps_checkAuthority env (keeps_return _) _ fresh).1
  | getstate => exact guarded rfl fresh.1
  | getEsCache => exact (ext4IoctlGetEsCache_exposes env _ bare).1
  | shutdown => exact (ext4IoctlShutdown_exposes env _ bare).1
  | enableVerity => exact guarded rfl (handedOn _ _)
  | measureVerity => exact guarded rfl (handedOn _ _)
  | readVerityMetadata => exact guarded rfl (handedOn _ _)
  | checkpoint => exact (ext4IoctlCheckpoint_exposes env _ bare).1
  | getfslabel => exact guarded rfl fresh.1
  | setfslabel => exact guarded rfl (ext4IoctlSetlabel_keeps env _ fresh).1
  | getfsuuid => exact guarded rfl (ext4IoctlGetuuid_keeps _ _ fresh).1
  | setfsuuid => exact guarded rfl (ext4IoctlSetuuid_keeps env _ fresh).1
  | printhello => exact guarded rfl fresh.1
  | flipBlockBit => exact absurd rfl other
  | other word unlisted => exact guarded rfl fresh.1

/-- A call keeps the discipline if and only if it is not a flip that reaches
its stores and no operation it reaches without write access changes anything. -/
theorem ioctl_disciplined_iff (outside : OutsideCode env) (cmd : Command) (kernel : Kernel) :
    discipline.Accepts (callTrace env code geo cmd kernel) ↔
      ¬ (cmd = .flipBlockBit ∧ env.flip.Granted code geo) ∧
        forall operation, operation ∈ unguarded env cmd -> env.targets operation = [] := by
  by_cases flips : cmd = .flipBlockBit
  · subst flips
    simp only [true_and]
    constructor
    · intro accepted
      exact ⟨fun granted => flipBlockBit_undisciplined code geo granted rfl accepted,
        quiet_nil env⟩
    · rintro ⟨refused, -⟩
      exact accepts_of_refused code geo refused rfl
  · simp only [flips, false_and, not_false_eq_true, true_and]
    exact accepts_iff_of_ne_flip env code geo outside flips kernel

end Dispatch

/-! ## Instances -/

/-- The traces of the handlers outside the repository, for a caller who owns the inode. -/
def sampleDelegate : Delegate -> List Op × Int
  | .fscryptSetPolicy =>
      ([.check .inodeOwnerOrCapable true, .mntWantWriteFile none, .change .inode,
        .mntDropWriteFile], 0)
  | _ => ([], 0)

/-- A privileged caller on a writable mount, and nothing fails. -/
def sampleEnv : IoctlEnv where
  err := fun _ => none
  test := fun test =>
    match test with
    | .resizing => false
    | .verity => false
    | .backupChecksumBad _ => false
    | _ => true
  targets := fun operation =>
    match operation with
    | .groupExtend => [.allocation]
    | .groupAdd => [.allocation]
    | .resizeFs => [.allocation]
    | .moveExtents => [.inode]
    | .extMigrate => [.allocation, .inode]
    | .allocDaBlocks => [.allocation, .inode]
    | _ => []
  delegate := sampleDelegate
  features := { gdtCsum := true, metadataCsum := false, chksumDriver := false }
  primaryGroup := 0
  backupGroups := [0, 1]
  groupsBefore := 2
  groupsAfter := 3
  labelLength := 5
  fsuLen := 16
  fsuFlags := 0
  checkpointFlags := 0
  shutdownFlags := 0
  flip := { blockNumber := 1000 }

/-- The same calls on a read-only mount, by a caller without any privilege. -/
def unprivilegedEnv : IoctlEnv :=
  { sampleEnv with
    err := fun operation =>
      match operation with
      | .mntWantWriteFile => some .erofs
      | _ => none
    test := fun _ => false }

theorem accepts_sampleDelegate (handler : Delegate) :
    discipline.Accepts (sampleDelegate handler).1 := by
  cases handler with
  | fscryptSetPolicy =>
      unfold Monitor.Accepts sampleDelegate
      simp only [Run.atEachCall_cons]
      exact ⟨harmless_of_changes rfl _, harmless_of_changes rfl _, fun _ => ⟨rfl, rfl⟩,
        harmless_of_changes rfl _, Run.atEachCall_nil _ _⟩
  | _ => exact discipline.accepts_nil

theorem sampleEnv_outsideCode : OutsideCode sampleEnv := ⟨accepts_sampleDelegate⟩

/-- The privileged caller resizes the volume, which adds a group.  The request for lazy
initialisation and `ext4_resize_end` come after write access is dropped. -/
theorem ioctl_disciplined_iff_sample :
    (callTrace sampleEnv GdtCsum.volumeCode GdtCsum.volume .resizeFs sampleKernel).count
        (.change .allocation) = 1 ∧
      unguarded sampleEnv .resizeFs = [.registerLiRequest, .resizeEnd] ∧
      discipline.Accepts
        (callTrace sampleEnv GdtCsum.volumeCode GdtCsum.volume .resizeFs sampleKernel) := by
  refine ⟨by decide, rfl, (ioctl_disciplined_iff sampleEnv GdtCsum.volumeCode GdtCsum.volume
    sampleEnv_outsideCode .resizeFs sampleKernel).mpr
      ⟨fun flips => Command.noConfusion flips.1, ?_⟩⟩
  intro operation reached
  rcases List.mem_pair.mp reached with rfl | rfl
  · rfl
  · rfl

/-- The other caller flips block 1000 and gets 0, though neither write access
nor any authority was shown. -/
theorem flip_without_authority :
    OutsideCode unprivilegedEnv ∧
      (dispatchIoctl unprivilegedEnv GdtCsum.volumeCode GdtCsum.volume .flipBlockBit
        sampleKernel).2 = 0 ∧
      ¬ discipline.Accepts
        (callTrace unprivilegedEnv GdtCsum.volumeCode GdtCsum.volume .flipBlockBit sampleKernel) :=
  ⟨⟨accepts_sampleDelegate⟩,
    (flipBlockBit_ret_eq_zero_iff _ _ _ _).mpr ⟨by decide, rfl⟩,
    flipBlockBit_undisciplined _ _ (by decide) rfl⟩

end Authority
end Evfs
