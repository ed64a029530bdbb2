import Evfs.Ext4.Mount

namespace Evfs
namespace Ext4

/-!
# The ioctl dispatcher

`dispatchIoctl` is the switch of `__ext4_ioctl`, whose default case passes
the command on to `__ext4_evfs_ioctl`.  Every case is here, with its checks,
its calls of `mnt_want_write_file` and `mnt_drop_write_file`, and the places at
which it changes persistent state.  Results of code outside the repository come from
an `IoctlEnv`, which also says what such code changed.

Changes are recorded in the trace, and so are the changes that the environment
attributes to an operation outside the repository.  Apart from the evfs commands
no case has its effect on `Memory` modelled, since the code that allocates,
resizes and migrates is not in the repository.
-/

/-! ## Command words -/

/-- `_IOC`: direction, size, type and number in one word. -/
def ioc (dir type nr size : UInt32) : UInt32 :=
  dir <<< 30 ||| size <<< 16 ||| type <<< 8 ||| nr

/-- `_IO`. -/
def ioN (type nr : UInt32) : UInt32 := ioc 0 type nr 0

/-- `_IOW`. -/
def ioW (type nr size : UInt32) : UInt32 := ioc 1 type nr size

/-- `_IOR`. -/
def ioR (type nr size : UInt32) : UInt32 := ioc 2 type nr size

/-- `_IOWR`. -/
def ioWR (type nr size : UInt32) : UInt32 := ioc 3 type nr size

/-- The words of the case labels, in the order of the constructors of `Command`.
Those of the first switch come from the interface headers of the kernel. -/
def listedWords : List UInt32 :=
  -- the type letters are 'f' = 0x66, 'v' = 0x76 and 'X' = 0x58; a `long` has 8 bytes
  [ioWR 0x58 59 192, ioR 0x66 3 8, ioR 0x76 1 8, ioW 0x66 4 8, ioW 0x76 2 8, ioW 0x66 7 8,
    ioWR 0x66 15 40, ioW 0x66 8 40, ioN 0x66 9, ioN 0x66 12, ioN 0x66 17, ioW 0x66 16 8,
    ioWR 0x58 121 24, ioN 0x66 18,
    -- `fscrypt`
    ioR 0x66 19 12, ioW 0x66 20 16, ioW 0x66 21 12, ioWR 0x66 22 9, ioWR 0x66 23 80,
    ioWR 0x66 24 64, ioWR 0x66 25 64, ioWR 0x66 26 128, ioR 0x66 27 16,
    ioN 0x66 40, ioW 0x66 41 4, ioWR 0x66 42 32, ioR 0x58 125 4,
    -- `fsverity`
    ioW 0x66 133 128, ioWR 0x66 134 4, ioWR 0x66 135 40,
    ioW 0x66 43 4, ioR 0x94 49 256, ioW 0x94 50 256, ioR 0x66 44 8, ioW 0x66 44 8,
    -- the second switch
    ioN 0x66 99, ioW 0x66 100 8]

/-- The command words by the names of their case labels.  A word that neither
`__ext4_ioctl` nor `__ext4_evfs_ioctl` lists is `other`. -/
inductive Command where
  | getfsmap
  | getversion
  | getversionOld
  | setversion
  | setversionOld
  | groupExtend
  | moveExt
  | groupAdd
  | migrate
  | allocDaBlks
  | swapBoot
  | resizeFs
  | fitrim
  | precacheExtents
  | setEncryptionPolicy
  | getEncryptionPwsalt
  | getEncryptionPolicy
  | getEncryptionPolicyEx
  | addEncryptionKey
  | removeEncryptionKey
  | removeEncryptionKeyAllUsers
  | getEncryptionKeyStatus
  | getEncryptionNonce
  | clearEsCache
  | getstate
  | getEsCache
  | shutdown
  | enableVerity
  | measureVerity
  | readVerityMetadata
  | checkpoint
  | getfslabel
  | setfslabel
  | getfsuuid
  | setfsuuid
  | printhello
  | flipBlockBit
  | other (word : UInt32) (unlisted : word ∉ listedWords)

/-- Operations outside the repository that can fail.  An index tells the
uses of one operation in a handler apart, or names the group or inode. -/
inductive Extern where
  | copyFromUser (index : Nat)
  | copyToUser (index : Nat)
  | getUser
  | putUser
  | mntWantWriteFile
  | resizeBegin
  | resizeEnd
  | groupExtend
  | groupAdd
  | resizeFs
  | moveExtents
  | extMigrate
  | allocDaBlocks
  | journalFlush
  | registerLiRequest
  | journalStart
  | journalStop (inLoop : Bool)
  | reserveInodeWrite
  | markIlocDirty
  | iget
  | filemapWriteAndWait (bootLoader : Bool)
  | dquotInitialize
  | markInodeDirty (bootLoader : Bool)
  | dquotAllocSpace
  | primaryWriteAccess
  | primaryDirty
  | primarySync
  | backupRead (group : Nat)
  | backupWriteAccess (group : Nat)
  | backupDirty (group : Nat)
  | backupSync (group : Nat)
  | getfsmap
  | trimFs
  | extPrecache
  | getEncryptionPwsalt
  | getEsCache
  | bdevFreeze
  | forceCommit

/-- What a handler tests without changing it: the caller, the file, the
inode and the volume. -/
inductive Test where
  | capableSysAdmin
  | capableSysResource
  | inodeOwnerOrCapable
  | fmodeRead
  | fmodeWrite
  | donorFile
  | donorFmodeWrite
  | bigalloc
  | isDax
  | journal
  | journalAborted
  | initInodeTable
  | csumSeed
  | stableInodes
  | encrypt
  | verity
  | noload
  | featureJournal
  | maxDiscardSectors
  | journalMaxDiscardSectors
  | resizing
  | forcedShutdown
  | swapUnfit
  | rdonlyAppendImmutable
  | bootLoaderUnused
  | quotaShrinks
  | hasSuper (group : Nat)
  | backupChecksumBad (group : Nat)
  | fsmapReserved
  | fsmapOffsets
  | fsmapAborted
  | fsmapEntries
  | tooManyExtents

/-- Handlers that `__ext4_ioctl` calls in `fs/crypto` and `fs/verity`. -/
inductive Delegate where
  | fscryptSetPolicy
  | fscryptGetPolicy
  | fscryptGetPolicyEx
  | fscryptAddKey
  | fscryptRemoveKey
  | fscryptRemoveKeyAllUsers
  | fscryptGetKeyStatus
  | fscryptGetNonce
  | fsverityEnable
  | fsverityMeasure
  | fsverityReadMetadata

/-- Everything that one ioctl call meets, its argument included. -/
structure IoctlEnv where
  err : Extern -> Option Errno
  test : Test -> Bool
  /-- The persistent state that an operation has changed. -/
  targets : Extern -> List Target
  delegate : Delegate -> List Op × Int
  features : Features
  primaryGroup : Nat
  /-- Group 0, then the groups that `ext4_list_backups` yields below the group count. -/
  backupGroups : List Nat
  groupsBefore : Nat
  groupsAfter : Nat
  labelLength : Nat
  fsuLen : UInt32
  fsuFlags : UInt32
  checkpointFlags : UInt32
  shutdownFlags : UInt32
  flip : FlipCall

namespace Errno

def ebadmsg : Errno := ⟨-74, by decide⟩

/-- `EFSBADCRC`, which `ext4.h` defines as `EBADMSG`. -/
def efsbadcrc : Errno := ebadmsg

end Errno

namespace Kernel

/-- Record the changes of an operation. -/
def changes (targets : List Target) (kernel : Kernel) : Kernel :=
  targets.foldl (fun kernel target => kernel.log (.change target)) kernel

end Kernel

variable (env : IoctlEnv)

namespace IoctlEnv

def fails (operation : Extern) : Bool := (env.err operation).isSome

def result (operation : Extern) : Int := Errno.result (env.err operation)

end IoctlEnv

/-! ## Shapes that many cases share -/

/-- A check of authority with an error return. -/
def checkAuthority (authority : Authority) (test : Test) (refusal : Errno)
    (body : Kernel -> Kernel × Int) (kernel : Kernel) : Kernel × Int :=
  let kernel := kernel.log (.check authority (env.test test))
  if env.test test then body kernel else (kernel, refusal.code)

/-- What stands between `mnt_want_write_file` and `mnt_drop_write_file`. -/
def underWriteAccess (body : Kernel -> Kernel × Int) (kernel : Kernel) : Kernel × Int :=
  let kernel := kernel.log (.mntWantWriteFile (env.err .mntWantWriteFile))
  match env.err .mntWantWriteFile with
  | some err => (kernel, err.code)
  | none =>
  let (kernel, ret) := body kernel
  (kernel.log .mntDropWriteFile, ret)

/-- An operation outside the repository, with its changes and its result. -/
def callExtern (operation : Extern) (kernel : Kernel) : Kernel × Int :=
  (kernel.changes (env.targets operation), env.result operation)

/-! ## Changing the superblocks -/

/-- `ext4_update_primary_sb`.  The target is what the callback writes. -/
def ext4UpdatePrimarySb (target : Target) (kernel : Kernel) : Kernel × Option Errno :=
  match env.err .primaryWriteAccess with
  | some err => (kernel, some err)
  | none =>
  let kernel := kernel.log (.change target)
  match env.err .primaryDirty with
  | some err => (kernel, some err)
  | none => (kernel, env.err .primarySync)

/-- `ext4_update_backup_sb`.  A group without a superblock counts as 0, and a
backup with a bad checksum is skipped but counts as 1. -/
def ext4UpdateBackupSb (target : Target) (handle : Bool) (group : Nat) (kernel : Kernel) :
    Kernel × Except Errno Nat :=
  if !env.test (.hasSuper group) then (kernel, .ok 0) else
  match env.err (.backupRead group) with
  | some err => (kernel, .error err)
  | none =>
  match if handle then env.err (.backupWriteAccess group) else none with
  | some err => (kernel, .error err)
  | none =>
  if ext4HasMetadataCsum env.features && env.test (.backupChecksumBad group) then
    (kernel, .ok 1) else
  let kernel := kernel.log (.change target)
  match if handle then env.err (.backupDirty group) else none with
  | some err => (kernel, .error err)
  | none =>
  match env.err (.backupSync group) with
  | some err => (kernel, .error err)
  | none => (kernel, .ok 1)

/-- The loop of `ext4_update_superblocks_fn`, with the number of backups
written so far.  Returns the error and whether the handle is still open. -/
def updateBackups (target : Target) :
    List Nat -> Bool -> Nat -> Kernel -> Kernel × Option Errno × Bool
  | [], handle, _, kernel => (kernel, none, handle)
  | group :: rest, handle, written, kernel =>
      if group = env.primaryGroup then updateBackups target rest handle written kernel else
      match ext4UpdateBackupSb env target handle group kernel with
      | (kernel, .error err) =>
          if err = .efsbadcrc then updateBackups target rest handle written kernel
          else (kernel, some err, handle)
      | (kernel, .ok count) =>
          if handle && decide (1 < written + count) then
            match env.err (.journalStop true) with
            | some err => (kernel, some err, false)
            | none => updateBackups target rest false (written + count) kernel
          else updateBackups target rest handle (written + count) kernel

/-- `ext4_update_superblocks_fn`. -/
def ext4UpdateSuperblocksFn (target : Target) (kernel : Kernel) : Kernel × Int :=
  if env.test .resizing then (kernel, Errno.ebusy.code) else
  match env.err .journalStart with
  | some err => (kernel, err.code)
  | none =>
  match ext4UpdatePrimarySb env target kernel with
  | (kernel, some err) => (kernel, err.code)
  | (kernel, none) =>
  let (kernel, err, handle) := updateBackups env target env.backupGroups true 0 kernel
  (kernel, Errno.result (err.or (if handle then env.err (.journalStop false) else none)))

/-- `ext4_ioctl_setlabel`. -/
def ext4IoctlSetlabel : Kernel -> Kernel × Int :=
  checkAuthority env .capable .capableSysAdmin .eperm fun kernel =>
  if env.fails (.copyFromUser 0) then (kernel, Errno.efault.code)
  else if 16 < env.labelLength then (kernel, Errno.einval.code)
  else underWriteAccess env (ext4UpdateSuperblocksFn env .label) kernel

/-- `ext4_ioctl_setuuid`. -/
def ext4IoctlSetuuid : Kernel -> Kernel × Int :=
  checkAuthority env .capable .capableSysAdmin .eperm fun kernel =>
  if ext4HasGroupDescCsum env.features && !env.test .csumSeed || env.test .stableInodes then
    (kernel, Errno.eopnotsupp.code)
  else if env.fails (.copyFromUser 0) then (kernel, Errno.efault.code)
  else if env.fsuLen ≠ 16 ∨ env.fsuFlags ≠ 0 then (kernel, Errno.einval.code)
  else if env.fails (.copyFromUser 1) then (kernel, Errno.efault.code)
  else underWriteAccess env (ext4UpdateSuperblocksFn env .uuid) kernel

/-! ## Resizing -/

/-- `ext4_resize_begin`, which checks a capability first. -/
def ext4ResizeBegin (body : Kernel -> Kernel × Int) : Kernel -> Kernel × Int :=
  checkAuthority env .capable .capableSysResource .eperm fun kernel =>
  match env.err .resizeBegin with
  | some err => (kernel, err.code)
  | none => body kernel

/-- The label at the end of a resize: `ext4_resize_end`, whose error counts if
there is no earlier one. -/
def resizeOut (body : Kernel -> Kernel × Int) (kernel : Kernel) : Kernel × Int :=
  let (kernel, err) := body kernel
  let (kernel, err2) := callExtern env .resizeEnd kernel
  (kernel, if err = 0 then err2 else err)

/-- A resize operation and the journal flush after it. -/
def resizeAndFlush (operation : Extern) (kernel : Kernel) : Kernel × Int :=
  let (kernel, err) := callExtern env operation kernel
  let (kernel, err2) :=
    if env.test .journal then callExtern env .journalFlush kernel else (kernel, 0)
  (kernel, if err = 0 then err2 else err)

/-- The request for lazy initialisation once groups have been added. -/
def thenRegisterLiRequest (grown : Bool) (body : Kernel -> Kernel × Int) (kernel : Kernel) :
    Kernel × Int :=
  let (kernel, err) := body kernel
  if err = 0 ∧ grown = true ∧ ext4HasGroupDescCsum env.features = true ∧
      env.test .initInodeTable = true then
    callExtern env .registerLiRequest kernel
  else (kernel, err)

/-- `ext4_ioctl_group_add`. -/
def ext4IoctlGroupAdd : Kernel -> Kernel × Int :=
  ext4ResizeBegin env <| resizeOut env fun kernel =>
  if env.test .bigalloc then (kernel, Errno.eopnotsupp.code)
  else thenRegisterLiRequest env true (underWriteAccess env (resizeAndFlush env .groupAdd)) kernel

/-- The case `EXT4_IOC_GROUP_EXTEND`. -/
def iocGroupExtend : Kernel -> Kernel × Int :=
  ext4ResizeBegin env <| resizeOut env fun kernel =>
  if env.fails .getUser then (kernel, Errno.efault.code)
  else if env.test .bigalloc then (kernel, Errno.eopnotsupp.code)
  else underWriteAccess env (resizeAndFlush env .groupExtend) kernel

/-- The case `EXT4_IOC_RESIZE_FS`. -/
def iocResizeFs (kernel : Kernel) : Kernel × Int :=
  if env.fails (.copyFromUser 0) then (kernel, Errno.efault.code) else
  ext4ResizeBegin env (resizeOut env
    (thenRegisterLiRequest env (decide (env.groupsBefore < env.groupsAfter))
      (underWriteAccess env (resizeAndFlush env .resizeFs)))) kernel

/-! ## Changing an inode -/

/-- The cases `EXT4_IOC_SETVERSION` and `EXT4_IOC_SETVERSION_OLD`. -/
def iocSetversion : Kernel -> Kernel × Int :=
  checkAuthority env .inodeOwnerOrCapable .inodeOwnerOrCapable .eperm fun kernel =>
  if ext4HasMetadataCsum env.features then (kernel, Errno.enotty.code) else
  underWriteAccess env (fun kernel =>
    if env.fails .getUser then (kernel, Errno.efault.code) else
    match env.err .journalStart with
    | some err => (kernel, err.code)
    | none =>
    match env.err .reserveInodeWrite with
    | some err => (kernel, err.code)
    | none => (kernel.log (.change .inode), env.result .markIlocDirty)) kernel

/-- The cases `EXT4_IOC_MIGRATE` and `EXT4_IOC_ALLOC_DA_BLKS`. -/
def ownerOperation (operation : Extern) : Kernel -> Kernel × Int :=
  checkAuthority env .inodeOwnerOrCapable .inodeOwnerOrCapable .eacces
    (underWriteAccess env (callExtern env operation))

/-- The case `EXT4_IOC_MOVE_EXT`.  The moved length is copied out unless no
write access was given. -/
def iocMoveExt (kernel : Kernel) : Kernel × Int :=
  if !env.test .fmodeRead then (kernel, Errno.ebadf.code) else
  checkAuthority env .fmodeWrite .fmodeWrite .ebadf (fun kernel =>
    if env.fails (.copyFromUser 0) then (kernel, Errno.efault.code)
    else if !env.test .donorFile then (kernel, Errno.ebadf.code)
    else if !env.test .donorFmodeWrite then (kernel, Errno.ebadf.code)
    else if env.test .bigalloc || env.test .isDax then (kernel, Errno.eopnotsupp.code)
    else
      let (kernel, err) := underWriteAccess env (callExtern env .moveExtents) kernel
      (kernel, if env.err .mntWantWriteFile = none ∧ env.fails (.copyToUser 0) = true then
        Errno.efault.code else err)) kernel

/-- The end of `swap_inode_boot_loader`, after the first swap of the two
inodes.  Every failure swaps them back. -/
def finishSwap (kernel : Kernel) : Kernel × Int :=
  match env.err (.markInodeDirty false) with
  | some err => (kernel.log (.change .inode), err.code)
  | none =>
  match env.err (.markInodeDirty true) with
  | some err => (kernel.log (.change .inode), err.code)
  | none =>
  match if env.test .quotaShrinks then none else env.err .dquotAllocSpace with
  | some err => (kernel.log (.change .inode), err.code)
  | none => (kernel, 0)

/-- `swap_inode_boot_loader`. -/
def swapInodeBootLoader (kernel : Kernel) : Kernel × Int :=
  match env.err .iget with
  | some err => (kernel, err.code)
  | none =>
  if env.test .swapUnfit then (kernel, Errno.einval.code)
  else if env.test .rdonlyAppendImmutable then (kernel, Errno.eperm.code) else
  checkAuthority env .inodeOwnerOrCapable .inodeOwnerOrCapable .eperm
    (checkAuthority env .capable .capableSysAdmin .eperm fun kernel =>
      let kernel := kernel.changes (env.targets (.filemapWriteAndWait false))
      match env.err (.filemapWriteAndWait false) with
      | some err => (kernel, err.code)
      | none =>
      let kernel := kernel.changes (env.targets (.filemapWriteAndWait true))
      match env.err (.filemapWriteAndWait true) with
      | some err => (kernel, err.code)
      | none =>
      if env.fails .journalStart then (kernel, Errno.einval.code) else
      let kernel := if env.test .bootLoaderUnused then kernel.log (.change .inode) else kernel
      match env.err .dquotInitialize with
      | some err => (kernel, err.code)
      | none => finishSwap env (kernel.log (.change .inode))) kernel

/-- The case `EXT4_IOC_SWAP_BOOT`. -/
def iocSwapBoot : Kernel -> Kernel × Int :=
  checkAuthority env .fmodeWrite .fmodeWrite .ebadf
    (underWriteAccess env (swapInodeBootLoader env))

/-! ## The other cases -/

/-- `ext4_ioc_getfsmap`. -/
def ext4IocGetfsmap (kernel : Kernel) : Kernel × Int :=
  if env.fails (.copyFromUser 0) then (kernel, Errno.efault.code)
  else if env.test .fsmapReserved then (kernel, Errno.einval.code)
  else if env.test .fsmapOffsets then (kernel, Errno.einval.code)
  else
    let (kernel, error) := callExtern env .getfsmap kernel
    (kernel,
      if env.test .fsmapAborted = false ∧ error ≠ 0 then error
      else if !env.test .fsmapAborted && env.test .fsmapEntries && env.fails (.copyToUser 0) then
        Errno.efault.code
      else if env.fails (.copyToUser 1) then Errno.efault.code
      else 0)

/-- `put_user` as the last step of a case. -/
def putUser (kernel : Kernel) : Kernel × Int :=
  (kernel, if env.fails .putUser then Errno.efault.code else 0)

/-- The case `FITRIM`. -/
def iocFitrim : Kernel -> Kernel × Int :=
  checkAuthority env .capable .capableSysAdmin .eperm fun kernel =>
  if !env.test .maxDiscardSectors then (kernel, Errno.eopnotsupp.code)
  else if env.test .noload && env.test .featureJournal then (kernel, Errno.erofs.code)
  else if env.fails (.copyFromUser 0) then (kernel, Errno.efault.code)
  else
    let (kernel, ret) := callExtern env .trimFs kernel
    (kernel,
      if ret < 0 then ret else if env.fails (.copyToUser 0) then Errno.efault.code else 0)

/-- The case `EXT4_IOC_CLEAR_ES_CACHE`. -/
def iocClearEsCache : Kernel -> Kernel × Int :=
  checkAuthority env .inodeOwnerOrCapable .inodeOwnerOrCapable .eacces fun kernel => (kernel, 0)

/-- `ext4_ioctl_get_es_cache`. -/
def ext4IoctlGetEsCache (kernel : Kernel) : Kernel × Int :=
  if env.fails (.copyFromUser 0) then (kernel, Errno.efault.code)
  else if env.test .tooManyExtents then (kernel, Errno.einval.code)
  else
    let (kernel, error) := callExtern env .getEsCache kernel
    (kernel, if env.fails (.copyToUser 0) then Errno.efault.code else error)

/-- `ext4_force_shutdown`.  Flag 0 asks for a freeze and 1 for a log flush. -/
def ext4ForceShutdown (kernel : Kernel) : Kernel × Int :=
  if 2 < env.shutdownFlags then (kernel, Errno.einval.code)
  else if env.test .forcedShutdown then (kernel, 0)
  else if env.shutdownFlags = 0 then callExtern env .bdevFreeze kernel
  else if env.shutdownFlags = 1 ∧ env.test .journal = true ∧ env.test .journalAborted = false then
    ((callExtern env .forceCommit kernel).1, 0)
  else (kernel, 0)

/-- `ext4_ioctl_shutdown`. -/
def ext4IoctlShutdown : Kernel -> Kernel × Int :=
  checkAuthority env .capable .capableSysAdmin .eperm fun kernel =>
  if env.fails .getUser then (kernel, Errno.efault.code) else ext4ForceShutdown env kernel

/-- `ext4_ioctl_checkpoint`.  Bit 0 asks for a discard, bit 1 for zeroing and
bit 2 for a dry run. -/
def ext4IoctlCheckpoint (kernel : Kernel) : Kernel × Int :=
  if env.fails (.copyFromUser 0) then (kernel, Errno.efault.code) else
  checkAuthority env .capable .capableSysAdmin .eperm (fun kernel =>
    if 7 < env.checkpointFlags ∨ env.checkpointFlags &&& 3 = 3 then (kernel, Errno.einval.code)
    else if !env.test .journal then (kernel, Errno.enodev.code)
    else if env.checkpointFlags &&& 1 = 1 ∧ env.test .journalMaxDiscardSectors = false then
      (kernel, Errno.eopnotsupp.code)
    else if env.checkpointFlags &&& 4 = 4 then (kernel, 0)
    else callExtern env .journalFlush kernel) kernel

/-- `ext4_ioctl_getlabel`. -/
def ext4IoctlGetlabel (kernel : Kernel) : Kernel × Int :=
  (kernel, if env.fails (.copyToUser 0) then Errno.efault.code else 0)

/-- `ext4_ioctl_getuuid`.  A zero length asks for the length. -/
def ext4IoctlGetuuid (kernel : Kernel) : Kernel × Int :=
  if env.fails (.copyFromUser 0) then (kernel, Errno.efault.code)
  else if env.fsuLen = 0 then
    (kernel, if env.fails (.copyToUser 0) then Errno.efault.code else 0)
  else if env.fsuLen < 16 ∨ env.fsuFlags ≠ 0 then (kernel, Errno.einval.code)
  else (kernel,
    if env.fails (.copyToUser 0) || env.fails (.copyToUser 1) then Errno.efault.code else 0)

/-- A case that passes the command on to code outside the repository, where a
feature is on. -/
def delegated (feature : Bool) (handler : Delegate) (kernel : Kernel) : Kernel × Int :=
  if feature then
    ({ kernel with trace := kernel.trace ++ (env.delegate handler).1 }, (env.delegate handler).2)
  else (kernel, Errno.eopnotsupp.code)

/-! ## The two switches -/

variable (code : Ext4Code) (geo : Geometry)

/-- `__ext4_evfs_ioctl`. -/
def ext4EvfsIoctl (cmd : Command) (kernel : Kernel) : Kernel × Int :=
  match cmd with
  | .printhello => (kernel, 0)
  | .flipBlockBit => flipBlockBit code geo env.flip kernel
  | _ => (kernel, Errno.enotty.code)

/-- `__ext4_ioctl`. -/
def dispatchIoctl (cmd : Command) (kernel : Kernel) : Kernel × Int :=
  match cmd with
  | .getfsmap => ext4IocGetfsmap env kernel
  | .getversion | .getversionOld => putUser env kernel
  | .setversion | .setversionOld => iocSetversion env kernel
  | .groupExtend => iocGroupExtend env kernel
  | .moveExt => iocMoveExt env kernel
  | .groupAdd =>
      if env.fails (.copyFromUser 0) then (kernel, Errno.efault.code)
      else ext4IoctlGroupAdd env kernel
  | .migrate => ownerOperation env .extMigrate kernel
  | .allocDaBlks => ownerOperation env .allocDaBlocks kernel
  | .swapBoot => iocSwapBoot env kernel
  | .resizeFs => iocResizeFs env kernel
  | .fitrim => iocFitrim env kernel
  | .precacheExtents => callExtern env .extPrecache kernel
  | .setEncryptionPolicy => delegated env (env.test .encrypt) .fscryptSetPolicy kernel
  | .getEncryptionPwsalt => callExtern env .getEncryptionPwsalt kernel
  | .getEncryptionPolicy => delegated env (env.test .encrypt) .fscryptGetPolicy kernel
  | .getEncryptionPolicyEx => delegated env (env.test .encrypt) .fscryptGetPolicyEx kernel
  | .addEncryptionKey => delegated env (env.test .encrypt) .fscryptAddKey kernel
  | .removeEncryptionKey => delegated env (env.test .encrypt) .fscryptRemoveKey kernel
  | .removeEncryptionKeyAllUsers =>
      delegated env (env.test .encrypt) .fscryptRemoveKeyAllUsers kernel
  | .getEncryptionKeyStatus => delegated env (env.test .encrypt) .fscryptGetKeyStatus kernel
  | .getEncryptionNonce => delegated env (env.test .encrypt) .fscryptGetNonce kernel
  | .clearEsCache => iocClearEsCache env kernel
  | .getstate => putUser env kernel
  | .getEsCache => ext4IoctlGetEsCache env kernel
  | .shutdown => ext4IoctlShutdown env kernel
  | .enableVerity => delegated env (env.test .verity) .fsverityEnable kernel
  | .measureVerity => delegated env (env.test .verity) .fsverityMeasure kernel
  | .readVerityMetadata => delegated env (env.test .verity) .fsverityReadMetadata kernel
  | .checkpoint => ext4IoctlCheckpoint env kernel
  | .getfslabel => ext4IoctlGetlabel env kernel
  | .setfslabel => ext4IoctlSetlabel env kernel
  | .getfsuuid => ext4IoctlGetuuid env kernel
  | .setfsuuid => ext4IoctlSetuuid env kernel
  | .printhello | .flipBlockBit | .other _ _ => ext4EvfsIoctl env code geo cmd kernel

end Ext4
end Evfs
