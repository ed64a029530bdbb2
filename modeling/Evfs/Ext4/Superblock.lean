import Evfs.Ext4.Ioctl

namespace Evfs
namespace Ext4

/-!
# Superblocks and the ioctls that write them

The dispatcher records that a label or a uuid has changed.  Here are the
contents: the primary superblock, which the mounted volume reads from, and the
backup in each group that has one.  An update applies one callback to all of
them under a journal handle, and the callback writes one field.

`ext4_superblock_csum` and `ext4_superblock_csum_set` are in a file that the
repository does not carry, so they are supplied as a `SuperblockCode`.  Failures
come from the environment of the dispatcher.
-/

/-- `EXT4_LABEL_MAX`, the length of `s_volume_name`. -/
def labelMax : Nat := 16

/-- `UUID_SIZE`. -/
def uuidSize : Nat := 16

abbrev Bytes (length : Nat) := Fin length -> UInt8

/-- `struct ext4_super_block`, without the `s_` prefix.  Of the fields that no
ioctl here writes, `others` has the bytes by their offsets. -/
structure SuperBlock where
  volumeName : Bytes labelMax
  uuid : Bytes uuidSize
  overheadClusters : UInt32
  checksum : UInt32
  others : Nat -> UInt8

/-- The checksum functions of a mounted volume. -/
structure SuperblockCode where
  ext4SuperblockCsum : SuperBlock -> UInt32
  ext4SuperblockCsumSet : SuperBlock -> SuperBlock

/-- What the two functions are documented to do. -/
structure SuperblockCode.Lawful (code : SuperblockCode) (features : Features) : Prop where
  /-- The checksum skips its own field. -/
  csum_checksum : forall es value,
    code.ext4SuperblockCsum { es with checksum := value } = code.ext4SuperblockCsum es
  csumSet_eq : forall es, code.ext4SuperblockCsumSet es =
    if ext4HasMetadataCsum features then
      { es with checksum := code.ext4SuperblockCsum es } else es

/-! ## The callbacks -/

/-- `ext4_sb_setlabel`. -/
def ext4SbSetlabel (label : Bytes labelMax) (es : SuperBlock) : SuperBlock :=
  { es with volumeName := label }

/-- `ext4_sb_setuuid`. -/
def ext4SbSetuuid (uuid : Bytes uuidSize) (es : SuperBlock) : SuperBlock :=
  { es with uuid := uuid }

/-- `set_overhead`, which keeps the low 32 bits of an `unsigned long`. -/
def setOverhead (overhead : UInt64) (es : SuperBlock) : SuperBlock :=
  { es with overheadClusters := overhead.toUInt32 }

/-- A value of `ext4_update_sb_callback` with its argument. -/
inductive SbCallback where
  | setlabel (label : Bytes labelMax)
  | setuuid (uuid : Bytes uuidSize)
  | overhead (clusters : UInt64)

def SbCallback.apply : SbCallback -> SuperBlock -> SuperBlock
  | .setlabel label => ext4SbSetlabel label
  | .setuuid uuid => ext4SbSetuuid uuid
  | .overhead clusters => setOverhead clusters

/-! ## The copies and the operations on them -/

inductive SbCopy where
  | primary
  | backup (group : Nat)
deriving DecidableEq, Repr

/-- One operation of an update, with its result where it can fail. -/
inductive SbOp where
  | testAndSetResizing (wasSet : Bool)
  | clearResizing
  | journalStart (credits : Nat) (err : Option Errno)
  | sbBread (group : Nat) (err : Option Errno)
  | getWriteAccess (copy : SbCopy) (err : Option Errno)
  | store (copy : SbCopy)
  | handleDirtyMetadata (copy : SbCopy) (err : Option Errno)
  | markBufferDirty (group : Nat)
  | syncDirtyBuffer (copy : SbCopy) (err : Option Errno)
  | brelse (group : Nat)
  | journalStop (err : Option Errno)
deriving DecidableEq, Repr

/-- The superblocks of a mounted volume.  `resizing` is the `EXT4_FLAGS_RESIZING` bit. -/
structure Superblocks where
  primary : SuperBlock
  backup : Nat -> SuperBlock
  resizing : Bool
  trace : List SbOp

namespace Superblocks

def log (ops : List SbOp) (sbs : Superblocks) : Superblocks :=
  { sbs with trace := sbs.trace ++ ops }

def copy (sbs : Superblocks) : SbCopy -> SuperBlock
  | .primary => sbs.primary
  | .backup group => sbs.backup group

def store (target : SbCopy) (es : SuperBlock) (sbs : Superblocks) : Superblocks :=
  match target with
  | .primary => { sbs with primary := es, trace := sbs.trace ++ [.store .primary] }
  | .backup group =>
      { sbs with
        backup := Function.update sbs.backup group es
        trace := sbs.trace ++ [.store (.backup group)] }

end Superblocks

variable (code : SuperblockCode) (env : IoctlEnv) (func : SuperBlock -> SuperBlock)

/-! ## The updates -/

/-- `ext4_update_primary_sb`. -/
def updatePrimarySb (sbs : Superblocks) : Superblocks × Option Errno :=
  let sbs := sbs.log [.getWriteAccess .primary (env.err .primaryWriteAccess)]
  match env.err .primaryWriteAccess with
  | some err => (sbs, some err)
  | none =>
  let sbs := sbs.store .primary (code.ext4SuperblockCsumSet (func sbs.primary))
  let sbs := sbs.log [.handleDirtyMetadata .primary (env.err .primaryDirty)]
  match env.err .primaryDirty with
  | some err => (sbs, some err)
  | none =>
  (sbs.log [.syncDirtyBuffer .primary (env.err .primarySync)], env.err .primarySync)

/-- Everything that `ext4_update_primary_sb` can do. -/
inductive PrimaryOutcome (sbs : Superblocks) : Superblocks × Option Errno -> Prop where
  | denied (err : Errno) (failed : env.err .primaryWriteAccess = some err) :
      PrimaryOutcome sbs (sbs.log [.getWriteAccess .primary (some err)], some err)
  | undirtied (err : Errno) (granted : env.err .primaryWriteAccess = none)
      (failed : env.err .primaryDirty = some err) :
      PrimaryOutcome sbs
        ({ sbs with
            primary := code.ext4SuperblockCsumSet (func sbs.primary)
            trace := sbs.trace ++ [.getWriteAccess .primary none, .store .primary,
              .handleDirtyMetadata .primary (some err)] }, some err)
  | synced (granted : env.err .primaryWriteAccess = none) :
      PrimaryOutcome sbs
        ({ sbs with
            primary := code.ext4SuperblockCsumSet (func sbs.primary)
            trace := sbs.trace ++ [.getWriteAccess .primary none, .store .primary,
              .handleDirtyMetadata .primary none,
              .syncDirtyBuffer .primary (env.err .primarySync)] }, env.err .primarySync)

theorem updatePrimarySb_outcome (sbs : Superblocks) :
    PrimaryOutcome code env func sbs (updatePrimarySb code env func sbs) := by
  unfold updatePrimarySb
  cases access : env.err .primaryWriteAccess with
  | some err => exact .denied err access
  | none =>
  cases dirty : env.err .primaryDirty with
  | some err =>
      have undirtied := @PrimaryOutcome.undirtied code env func sbs err access dirty
      simpa [Superblocks.log, Superblocks.store, dirty] using undirtied
  | none =>
      have synced := @PrimaryOutcome.synced code env func sbs access
      simpa [Superblocks.log, Superblocks.store, dirty] using synced

/-- The copy passes the check of its checksum, if there is one. -/
def intact (es : SuperBlock) : Bool :=
  !(ext4HasMetadataCsum env.features && decide (es.checksum ≠ code.ext4SuperblockCsum es))

/-- The callback and the new checksum, as `ext4_update_backup_sb` stores them. -/
def stamped (es : SuperBlock) : SuperBlock :=
  if ext4HasMetadataCsum env.features then
    { func es with checksum := code.ext4SuperblockCsum (func es) } else func es

/-- `ext4_update_backup_sb`.  A copy with a bad checksum is left alone, and the
result is the same as for a copy that was written. -/
def updateBackupSb (handle : Bool) (group : Nat) (sbs : Superblocks) :
    Superblocks × Except Errno Nat :=
  if !env.test (.hasSuper group) then (sbs, .ok 0) else
  let sbs := sbs.log [.sbBread group (env.err (.backupRead group))]
  match env.err (.backupRead group) with
  | some err => (sbs, .error err)
  | none =>
  let access := if handle then env.err (.backupWriteAccess group) else none
  let sbs := sbs.log (if handle then [.getWriteAccess (.backup group) access] else [])
  match access with
  | some err => (sbs.log [.brelse group], .error err)
  | none =>
  if !intact code env (sbs.backup group) then (sbs.log [.brelse group], .ok 1) else
  let sbs := sbs.store (.backup group) (stamped code env func (sbs.backup group))
  let dirty := if handle then env.err (.backupDirty group) else none
  let sbs := sbs.log
    [if handle then .handleDirtyMetadata (.backup group) dirty else .markBufferDirty group]
  match dirty with
  | some err => (sbs.log [.brelse group], .error err)
  | none =>
  let sync := env.err (.backupSync group)
  let sbs := sbs.log [.syncDirtyBuffer (.backup group) sync, .brelse group]
  match sync with
  | some err => (sbs, .error err)
  | none => (sbs, .ok 1)

/-- The request for write access to a backup, if there is a handle, with its result. -/
def accessOps (handle : Bool) (group : Nat) : List SbOp :=
  if handle then [.getWriteAccess (.backup group) none] else []

/-- What passes a written backup on. -/
def dirtyOp (handle : Bool) (group : Nat) : SbOp :=
  if handle then .handleDirtyMetadata (.backup group) none else .markBufferDirty group

/-- Everything that `ext4_update_backup_sb` can do with one group. -/
inductive BackupOutcome (handle : Bool) (group : Nat) (sbs : Superblocks) :
    Superblocks × Except Errno Nat -> Prop where
  | absent (missing : env.test (.hasSuper group) = false) :
      BackupOutcome handle group sbs (sbs, .ok 0)
  | unread (err : Errno) (failed : env.err (.backupRead group) = some err) :
      BackupOutcome handle group sbs (sbs.log [.sbBread group (some err)], .error err)
  | denied (err : Errno) (journalled : handle = true)
      (failed : env.err (.backupWriteAccess group) = some err) :
      BackupOutcome handle group sbs
        (sbs.log [.sbBread group none, .getWriteAccess (.backup group) (some err), .brelse group],
          .error err)
  | skipped (bad : intact code env (sbs.backup group) = false) :
      BackupOutcome handle group sbs
        (sbs.log (.sbBread group none :: (accessOps handle group ++ [.brelse group])), .ok 1)
  | undirtied (err : Errno) (journalled : handle = true)
      (good : intact code env (sbs.backup group) = true)
      (failed : env.err (.backupDirty group) = some err)
      (present : env.test (.hasSuper group) = true) (read : env.err (.backupRead group) = none) :
      BackupOutcome handle group sbs
        ({ sbs with
            backup := Function.update sbs.backup group (stamped code env func (sbs.backup group))
            trace := sbs.trace ++ [.sbBread group none, .getWriteAccess (.backup group) none,
              .store (.backup group), .handleDirtyMetadata (.backup group) (some err),
              .brelse group] }, .error err)
  | written (good : intact code env (sbs.backup group) = true)
      (present : env.test (.hasSuper group) = true) (read : env.err (.backupRead group) = none) :
      BackupOutcome handle group sbs
        ({ sbs with
            backup := Function.update sbs.backup group (stamped code env func (sbs.backup group))
            trace := sbs.trace ++ .sbBread group none :: (accessOps handle group ++
              [.store (.backup group), dirtyOp handle group,
                .syncDirtyBuffer (.backup group) (env.err (.backupSync group)),
                .brelse group]) },
          match env.err (.backupSync group) with
          | some err => .error err
          | none => .ok 1)

theorem updateBackupSb_outcome (handle : Bool) (group : Nat) (sbs : Superblocks) :
    BackupOutcome code env func handle group sbs
      (updateBackupSb code env func handle group sbs) := by
  unfold updateBackupSb
  cases present : env.test (.hasSuper group) with
  | false => exact .absent present
  | true =>
  cases read : env.err (.backupRead group) with
  | some err => exact .unread err read
  | none =>
  cases good : intact code env (sbs.backup group) with
  | false =>
      have skipped := @BackupOutcome.skipped code env func handle group sbs good
      cases handle with
      | false => simpa [Superblocks.log, good, accessOps] using skipped
      | true =>
          cases access : env.err (.backupWriteAccess group) with
          | some err =>
              have denied := @BackupOutcome.denied code env func true group sbs err rfl access
              simpa [Superblocks.log, access] using denied
          | none => simpa [Superblocks.log, good, access, accessOps] using skipped
  | true =>
      have written := @BackupOutcome.written code env func handle group sbs good present read
      cases handle with
      | false =>
          cases sync : env.err (.backupSync group) <;>
            simpa [Superblocks.log, Superblocks.store, good, accessOps, dirtyOp, sync] using written
      | true =>
          cases access : env.err (.backupWriteAccess group) with
          | some err =>
              have denied := @BackupOutcome.denied code env func true group sbs err rfl access
              simpa [Superblocks.log, access] using denied
          | none =>
              cases dirty : env.err (.backupDirty group) with
              | some err =>
                  have undirtied :=
                    @BackupOutcome.undirtied code env func true group sbs err rfl good dirty
                      present read
                  simpa [Superblocks.log, Superblocks.store, good, access, dirty] using undirtied
              | none =>
                  cases sync : env.err (.backupSync group) <;>
                    simpa [Superblocks.log, Superblocks.store, good, access, dirty, accessOps,
                      dirtyOp, sync] using written

/-- The loop of `ext4_update_superblocks_fn`, with `i`, the number of backups
that count as written.  Returns the error and whether the handle is still open. -/
def updateBackupSbs : List Nat -> Bool -> Nat -> Superblocks -> Superblocks × Option Errno × Bool
  | [], handle, _, sbs => (sbs, none, handle)
  | group :: rest, handle, written, sbs =>
      if group = env.primaryGroup then updateBackupSbs rest handle written sbs else
      match updateBackupSb code env func handle group sbs with
      | (sbs, .error err) =>
          if err = .efsbadcrc then updateBackupSbs rest handle written sbs
          else (sbs, some err, handle)
      | (sbs, .ok count) =>
          if handle && decide (1 < written + count) then
            let sbs := sbs.log [.journalStop (env.err (.journalStop true))]
            match env.err (.journalStop true) with
            | some err => (sbs, some err, false)
            | none => updateBackupSbs rest false (written + count) sbs
          else updateBackupSbs rest handle (written + count) sbs

/-- Everything that the loop can do with the first group of its list: skip it,
pass over or report its error, or count it and perhaps stop the handle. -/
inductive LoopOutcome (group : Nat) (rest : List Nat) (handle : Bool) (written : Nat)
    (sbs : Superblocks) : Superblocks × Option Errno × Bool -> Prop where
  | primary (own : group = env.primaryGroup) :
      LoopOutcome group rest handle written sbs
        (updateBackupSbs code env func rest handle written sbs)
  | passed (other : group ≠ env.primaryGroup) (middle : Superblocks)
      (turn : updateBackupSb code env func handle group sbs = (middle, .error .efsbadcrc)) :
      LoopOutcome group rest handle written sbs
        (updateBackupSbs code env func rest handle written middle)
  | failed (other : group ≠ env.primaryGroup) (middle : Superblocks) (err : Errno)
      (turn : updateBackupSb code env func handle group sbs = (middle, .error err))
      (reported : err ≠ .efsbadcrc) :
      LoopOutcome group rest handle written sbs (middle, some err, handle)
  | counted (other : group ≠ env.primaryGroup) (middle : Superblocks) (count : Nat)
      (turn : updateBackupSb code env func handle group sbs = (middle, .ok count))
      (room : handle = true -> written + count ≤ 1) :
      LoopOutcome group rest handle written sbs
        (updateBackupSbs code env func rest handle (written + count) middle)
  | stopped (other : group ≠ env.primaryGroup) (middle : Superblocks) (count : Nat)
      (turn : updateBackupSb code env func handle group sbs = (middle, .ok count))
      (journalled : handle = true) (stop : env.err (.journalStop true) = none) :
      LoopOutcome group rest handle written sbs
        (updateBackupSbs code env func rest false (written + count)
          (middle.log [.journalStop none]))
  | unstopped (other : group ≠ env.primaryGroup) (middle : Superblocks) (count : Nat) (err : Errno)
      (turn : updateBackupSb code env func handle group sbs = (middle, .ok count))
      (journalled : handle = true) (stop : env.err (.journalStop true) = some err) :
      LoopOutcome group rest handle written sbs
        (middle.log [.journalStop (some err)], some err, false)

theorem updateBackupSbs_cons (group : Nat) (rest : List Nat) (handle : Bool) (written : Nat)
    (sbs : Superblocks) :
    LoopOutcome code env func group rest handle written sbs
      (updateBackupSbs code env func (group :: rest) handle written sbs) := by
  rw [updateBackupSbs]
  by_cases own : group = env.primaryGroup
  · rw [if_pos own]
    exact .primary own
  rw [if_neg own]
  rcases turn : updateBackupSb code env func handle group sbs with ⟨middle, outcome⟩
  cases outcome with
  | error err =>
      by_cases passed : err = .efsbadcrc
      · subst passed
        simp only [if_true]
        exact .passed own middle turn
      · simp only [if_neg passed]
        exact .failed own middle err turn passed
  | ok count =>
      by_cases full : (handle && decide (1 < written + count)) = true
      · have journalled : handle = true := (Bool.and_eq_true_iff.mp full).1
        simp only [if_pos full]
        cases stop : env.err (.journalStop true) with
        | some err => exact .unstopped own middle count err turn journalled stop
        | none => exact .stopped own middle count turn journalled stop
      · simp only [if_neg full]
        refine .counted own middle count turn ?_
        intro journalled
        rw [journalled, Bool.true_and, decide_eq_true_iff] at full
        exact Nat.not_lt.mp full

/-- The labels `out_journal` and `out`. -/
def superblocksOut (err : Option Errno) (handle : Bool) (sbs : Superblocks) : Superblocks × Int :=
  let stopped := if handle then env.err (.journalStop false) else none
  let sbs := sbs.log (if handle then [.journalStop stopped] else [])
  let sbs := sbs.log [.clearResizing]
  ({ sbs with resizing := false }, Errno.result (err.or stopped))

/-- `ext4_update_superblocks_fn`. -/
def updateSuperblocksFn (sbs : Superblocks) : Superblocks × Int :=
  if sbs.resizing then (sbs.log [.testAndSetResizing true], Errno.ebusy.code) else
  let sbs := { sbs.log [.testAndSetResizing false] with resizing := true }
  let sbs := sbs.log [.journalStart 3 (env.err .journalStart)]
  match env.err .journalStart with
  | some err => superblocksOut env (some err) false sbs
  | none =>
  match updatePrimarySb code env func sbs with
  | (sbs, some err) => superblocksOut env (some err) true sbs
  | (sbs, none) =>
  let (sbs, err, handle) := updateBackupSbs code env func env.backupGroups true 0 sbs
  superblocksOut env err handle sbs

/-- The update ends before it changes a copy. -/
def UpdateRefused (sbs : Superblocks) : Prop :=
  sbs.resizing = true ∨ env.err .journalStart ≠ none ∨ env.err .primaryWriteAccess ≠ none

/-- The state in which an update that has its handle turns to the primary. -/
def openedUpdate (sbs : Superblocks) : Superblocks :=
  { sbs with
    resizing := true
    trace := sbs.trace ++ [.testAndSetResizing false, .journalStart 3 none] }

/-- Everything that a refused update can do. -/
inductive RefusedOutcome (sbs : Superblocks) : Superblocks × Int -> Prop where
  | busy (resizing : sbs.resizing = true) :
      RefusedOutcome sbs (sbs.log [.testAndSetResizing true], Errno.ebusy.code)
  | unstarted (free : sbs.resizing = false) (err : Errno)
      (failed : env.err .journalStart = some err) :
      RefusedOutcome sbs
        (sbs.log [.testAndSetResizing false, .journalStart 3 (some err), .clearResizing], err.code)
  | denied (free : sbs.resizing = false) (err : Errno) (started : env.err .journalStart = none)
      (failed : env.err .primaryWriteAccess = some err) :
      RefusedOutcome sbs
        (sbs.log [.testAndSetResizing false, .journalStart 3 none,
          .getWriteAccess .primary (some err), .journalStop (env.err (.journalStop false)),
          .clearResizing], err.code)

theorem updateSuperblocksFn_of_refused {sbs : Superblocks} (refused : UpdateRefused env sbs) :
    RefusedOutcome env sbs (updateSuperblocksFn code env func sbs) := by
  unfold updateSuperblocksFn superblocksOut
  cases busy : sbs.resizing with
  | true => exact .busy busy
  | false =>
  cases start : env.err .journalStart with
  | some err => simpa [Superblocks.log, busy] using RefusedOutcome.unstarted busy err start
  | none =>
  rcases refused with resizing | unstarted | ungranted
  · rw [busy] at resizing
    cases resizing
  · exact absurd start unstarted
  · rcases Option.ne_none_iff_exists'.mp ungranted with ⟨err, access⟩
    have denied := RefusedOutcome.denied busy err start access
    simpa [updatePrimarySb, access, Superblocks.log, busy] using denied

/-- The handler of an update that is not refused: the primary, then the loop
unless the primary reports an error, then the label `out_journal`. -/
theorem updateSuperblocksFn_of_admitted {sbs : Superblocks} (admitted : ¬ UpdateRefused env sbs) :
    updateSuperblocksFn code env func sbs =
      match updatePrimarySb code env func (openedUpdate sbs) with
      | (sbs, some err) => superblocksOut env (some err) true sbs
      | (sbs, none) =>
          let (sbs, err, handle) := updateBackupSbs code env func env.backupGroups true 0 sbs
          superblocksOut env err handle sbs := by
  have free : sbs.resizing = false := by
    cases busy : sbs.resizing with
    | true => exact absurd (Or.inl busy) admitted
    | false => rfl
  have started : env.err .journalStart = none := by
    refine Decidable.byContradiction fun unstarted => ?_
    exact admitted (Or.inr (Or.inl unstarted))
  unfold updateSuperblocksFn openedUpdate
  simp [free, started, Superblocks.log]

/-! ## The ioctls -/

/-- `strnlen`: the bytes before the first zero. -/
def strnlen {length : Nat} (bytes : Bytes length) : Nat :=
  (List.ofFn bytes).findIdx fun byte => byte == 0

/-- The label that `memset` and `memcpy` make of the user's bytes. -/
def clearedLabel (userLabel : Bytes (labelMax + 1)) : Bytes labelMax :=
  fun index => if index.val < strnlen userLabel then userLabel index.castSucc else 0

/-- `ext4_ioctl_setlabel`. -/
def ioctlSetlabel (userLabel : Bytes (labelMax + 1)) (sbs : Superblocks) : Superblocks × Int :=
  if !env.test .capableSysAdmin then (sbs, Errno.eperm.code)
  else if env.fails (.copyFromUser 0) then (sbs, Errno.efault.code)
  else if labelMax < strnlen userLabel then (sbs, Errno.einval.code)
  else
    match env.err .mntWantWriteFile with
    | some err => (sbs, err.code)
    | none => updateSuperblocksFn code env (ext4SbSetlabel (clearedLabel userLabel)) sbs

/-- What `ext4_ioctl_getlabel` copies to the user: `strncpy` into zeroed bytes. -/
def ioctlGetlabel (sbs : Superblocks) : Bytes (labelMax + 1) :=
  fun index =>
    if inside : index.val < labelMax then
      if index.val < strnlen sbs.primary.volumeName then
        sbs.primary.volumeName ⟨index.val, inside⟩ else 0
    else 0

/-- `ext4_ioctl_setuuid`. -/
def ioctlSetuuid (uuid : Bytes uuidSize) (sbs : Superblocks) : Superblocks × Int :=
  if !env.test .capableSysAdmin then (sbs, Errno.eperm.code)
  else if ext4HasGroupDescCsum env.features && !env.test .csumSeed || env.test .stableInodes then
    (sbs, Errno.eopnotsupp.code)
  else if env.fails (.copyFromUser 0) then (sbs, Errno.efault.code)
  else if env.fsuLen ≠ 16 ∨ env.fsuFlags ≠ 0 then (sbs, Errno.einval.code)
  else if env.fails (.copyFromUser 1) then (sbs, Errno.efault.code)
  else
    match env.err .mntWantWriteFile with
    | some err => (sbs, err.code)
    | none => updateSuperblocksFn code env (ext4SbSetuuid uuid) sbs

/-- The uuid that `ext4_ioctl_getuuid` copies to a caller with enough room. -/
def ioctlGetuuid (sbs : Superblocks) : Bytes uuidSize := sbs.primary.uuid

/-- `ext4_update_overhead`, on a volume whose `s_overhead` is `overhead`. -/
def updateOverhead (readOnly force : Bool) (overhead : UInt64) (sbs : Superblocks) :
    Superblocks × Int :=
  if readOnly then (sbs, 0)
  else if !force && (overhead == 0 ||
      overhead == sbs.primary.overheadClusters.toUInt64) then (sbs, 0)
  else updateSuperblocksFn code env (setOverhead overhead) sbs

/-! ## A volume with superblock checksums -/

namespace Crc32c

/-- One byte of the reflected CRC-32C. -/
def crc32cByte (crc : UInt32) (byte : UInt8) : UInt32 :=
  (List.range 8).foldl
    (fun value _ => if value &&& 1 = 1 then (value >>> 1) ^^^ 0x82F63B78 else value >>> 1)
    (crc ^^^ byte.toUInt32)

/-- The byte of a superblock at an offset before `s_checksum`. -/
def byteAt (es : SuperBlock) (offset : Nat) : UInt8 :=
  if uuid : 0x68 ≤ offset ∧ offset < 0x78 then
    es.uuid ⟨offset - 0x68, by rw [uuidSize]; omega⟩
  else if label : 0x78 ≤ offset ∧ offset < 0x88 then
    es.volumeName ⟨offset - 0x78, by rw [labelMax]; omega⟩
  else if 0x248 ≤ offset ∧ offset < 0x24C then
    (es.overheadClusters >>> UInt32.ofNat (8 * (offset - 0x248))).toUInt8
  else es.others offset

def superblockCsum (es : SuperBlock) : UInt32 :=
  ((List.range 0x3FC).map (byteAt es)).foldl crc32cByte 0xFFFFFFFF

/-- The checksum functions of a volume with the given features. -/
def volumeCode (features : Features) : SuperblockCode where
  ext4SuperblockCsum := superblockCsum
  ext4SuperblockCsumSet := fun es =>
    if ext4HasMetadataCsum features then { es with checksum := superblockCsum es } else es

/-- The checksum field is not among the bytes that are summed. -/
theorem byteAt_checksum (es : SuperBlock) (value : UInt32) :
    byteAt { es with checksum := value } = byteAt es := by
  funext offset
  simp only [byteAt]

theorem volumeCode_lawful (features : Features) : (volumeCode features).Lawful features where
  csum_checksum := by
    intro es value
    simp only [volumeCode, superblockCsum, byteAt_checksum]
  csumSet_eq := by
    intro es
    simp only [volumeCode]

end Crc32c

end Ext4
end Evfs
