import Evfs.Ext4.Inode

namespace Evfs
namespace Ext4

open Foundation

/-!
# Reading and setting file attributes

`ext4_fileattr_get` and `ext4_fileattr_set` stand behind the attribute ioctls of
the generic layer.  A request has a word of flags and a project number.  The flags
are checked against the inode, set bit by bit under a journal handle, and then the
data mode and the block map follow, which code outside the repository changes.

The version ioctls set `i_generation`, from which the checksum seed of an inode is
derived where metadata have checksums.  The seed is not derived anew, and the
ioctls refuse such volumes.

What code outside leaves of the inode comes from an `AttrEnv`, as does each failure.
The dentries that `ext4_dax_dontcache` marks are not part of an inode.
-/

namespace Errno

def enotdir : Errno := ⟨-20, by decide⟩
def enotempty : Errno := ⟨-39, by decide⟩

end Errno

/-- Operations of the attribute handlers that can fail. -/
inductive AttrExtern where
  | filemapWriteAndWait
  | journalStart
  | reserveInodeWrite
  | markIlocDirty
  | dquotInitialize
  | getInodeLoc
  | expandExtraIsize
  | projectJournalStart
  | projectReserveInodeWrite
  | dqget
  | dquotTransfer
  | projectMarkIlocDirty
deriving DecidableEq

/-- What the handlers test and no field of the inode tells. -/
inductive AttrTest where
  | isNoquota
  | capableSysResource
  | verityInProgress
  | featureCasefold
  | emptyDir
  | configQuota
  | featureProject
  | largeInodes
  | projidFits
deriving DecidableEq

structure AttrEnv where
  err : AttrExtern -> Option Errno
  test : AttrTest -> Bool
  now : Timespec
  /-- `ext4_change_inode_journal_flag`, for the flag set or clear. -/
  changeJournalFlag : Bool -> Inode -> Inode × Option Errno
  /-- `ext4_ext_migrate` for extents, `ext4_ind_migrate` for none. -/
  migrate : Bool -> Inode -> Inode × Option Errno

/-- A mask, or nothing. -/
def FlagWord.onlyIf (mask : FlagWord) (wanted : Bool) : FlagWord := if wanted then mask else 0

/-- An operation gives its flag the wanted value or leaves it, also where it fails,
and it touches neither other flags nor what identifies the inode. -/
structure Follows (mask : FlagWord) (operation : Bool -> Inode -> Inode × Option Errno) :
    Prop where
  flags : forall wanted inode,
    (operation wanted inode).1.flags = inode.flags ∨
      (operation wanted inode).1.flags = Masked.merge mask (mask.onlyIf wanted) inode.flags
  projid : forall wanted inode, (operation wanted inode).1.projid = inode.projid
  fileType : forall wanted inode, (operation wanted inode).1.fileType = inode.fileType
  generation : forall wanted inode, (operation wanted inode).1.generation = inode.generation
  csumSeed : forall wanted inode, (operation wanted inode).1.csumSeed = inode.csumSeed
  normal : forall wanted inode, inode.Normal -> (operation wanted inode).1.Normal

structure AttrEnv.Lawful (env : AttrEnv) : Prop where
  journal : Follows FlagWord.journalData env.changeJournalFlag
  migrate : Follows FlagWord.extents env.migrate

/-- Where the two operations succeed, their flags have the wanted values.  Without a
journal, or on a fast symlink, they succeed and leave them. -/
structure AttrEnv.Effective (env : AttrEnv) : Prop where
  journal : forall wanted inode, (env.changeJournalFlag wanted inode).2 = none ->
    (env.changeJournalFlag wanted inode).1.flags =
      Masked.merge FlagWord.journalData (FlagWord.journalData.onlyIf wanted) inode.flags
  migrate : forall wanted inode, (env.migrate wanted inode).2 = none ->
    (env.migrate wanted inode).1.flags =
      Masked.merge FlagWord.extents (FlagWord.extents.onlyIf wanted) inode.flags

/-- `ext4_set_inode_flags` derives the immutable flag of the generic layer. -/
structure InodeCode.DerivesImmutable (code : InodeCode) : Prop where
  immutable_eq : forall inode, (code.ext4SetInodeFlags inode).immutable =
    decide (inode.flags.Has FlagWord.immutable)

/-- The fields of `struct fileattr` that ext4 reads and writes. -/
structure Fileattr where
  flags : FlagWord
  fsxProjid : Nat
deriving DecidableEq, Repr

variable (code : InodeCode) (env : AttrEnv)

/-- `ext4_mask_flags`. -/
def ext4MaskFlags (fileType : FileType) (flags : FlagWord) : FlagWord :=
  match fileType with
  | .directory => flags
  | .regular => flags &&& FlagWord.regFlmask
  | .other => flags &&& FlagWord.otherFlmask

/-- `ext4_is_quota_file`. -/
def ext4IsQuotaFile (inode : Inode) : Bool :=
  env.test .isNoquota && !decide (inode.flags.Has FlagWord.eaInode)

/-- `ext4_ioctl_check_immutable`. -/
def ext4IoctlCheckImmutable (newProjid : Nat) (flags : FlagWord) (inode : Inode) : Option Errno :=
  let oldflags := inode.flags
  if ¬ oldflags.Has FlagWord.immutable ∨ ¬ flags.Has FlagWord.immutable then none
  else if oldflags &&& ~~~FlagWord.immutable ≠ flags &&& ~~~FlagWord.immutable then some .eperm
  else if env.test .featureProject ∧ inode.projid ≠ newProjid then some .eperm
  else none

/-- `dax_compatible`. -/
def daxCompatible (inode : Inode) (oldflags flags : FlagWord) : Bool :=
  let directory := inode.fileType == .directory
  let flags := if directory then flags &&& ~~~FlagWord.inlineData else flags
  let oldflags := if directory then oldflags &&& ~~~FlagWord.inlineData else oldflags
  if flags.Has FlagWord.dax ∧
      (oldflags.Has FlagWord.daxMutExcl ∨ env.test .verityInProgress = true) then false
  else if flags.Has FlagWord.daxMutExcl ∧ oldflags.Has FlagWord.dax then false
  else true

/-- One turn of the loop over the mask bits. -/
def setFlag (flags current : FlagWord) (index : Nat) : FlagWord :=
  let mask := FlagWord.ofBit index
  if ¬ mask.Has FlagWord.userModifiable then current
  else if mask = FlagWord.journalData ∨ mask = FlagWord.extents then current
  else if mask.Has flags then current ||| mask
  else current &&& ~~~mask

/-- The checks of a change of `EXT4_CASEFOLD_FL`. -/
def casefoldRefusal (flags : FlagWord) (inode : Inode) : Option Errno :=
  if ¬ (flags ^^^ inode.flags).Has FlagWord.casefold then none
  else if !env.test .featureCasefold then some .eopnotsupp
  else if inode.fileType != .directory then some .enotdir
  else if !env.test .emptyDir then some .enotempty
  else none

/-- The checks of `ext4_ioctl_setflags`, and the flush of a file that becomes immutable. -/
def setflagsRefusal (flags : FlagWord) (inode : Inode) : Option Errno :=
  let oldflags := inode.flags
  if ext4IsQuotaFile env inode then some .eperm
  else if (flags ^^^ oldflags).Has FlagWord.journalData ∧
      env.test .capableSysResource = false then some .eperm
  else if !daxCompatible env inode oldflags flags then some .eopnotsupp
  else
    (casefoldRefusal env flags inode).or <|
      if inode.fileType = .regular ∧ inode.vfsFlags.immutable = false ∧
          flags.Has FlagWord.immutable then env.err .filemapWriteAndWait
      else none

/-- The loop over the 32 bits, and the fields that follow the flags. -/
def storeFlags (flags : FlagWord) (inode : Inode) : Inode :=
  let inode := { inode with flags := (List.range 32).foldl (setFlag flags) inode.flags }
  let inode := { inode with vfsFlags := code.ext4SetInodeFlags inode }
  { inode with ctime := env.now, version := code.inodeIncIversion inode.version }

/-- The change of the data mode, if it is asked for. -/
def followJournalData (flags oldflags : FlagWord) (inode : Inode) : Inode × Option Errno :=
  if (flags ^^^ oldflags).Has FlagWord.journalData then
    if inode.vfsFlags.dax then (inode, some .ebusy)
    else env.changeJournalFlag (decide (flags.Has FlagWord.journalData)) inode
  else (inode, none)

/-- The change of the block map, if it is asked for. -/
def followExtents (flags oldflags : FlagWord) (inode : Inode) : Inode × Option Errno :=
  if (flags ^^^ oldflags).Has FlagWord.extents then
    env.migrate (decide (flags.Has FlagWord.extents)) inode
  else (inode, none)

/-- `ext4_ioctl_setflags`. -/
def ext4IoctlSetflags (flags : FlagWord) (inode : Inode) : Inode × Option Errno :=
  let oldflags := inode.flags
  match setflagsRefusal env flags inode with
  | some err => (inode, some err)
  | none =>
  match env.err .journalStart with
  | some err => (inode, some err)
  | none =>
  match env.err .reserveInodeWrite with
  | some err => (inode, some err)
  | none =>
  let inode := storeFlags code env flags inode
  match env.err .markIlocDirty with
  | some err => (inode, some err)
  | none =>
  match followJournalData env flags oldflags inode with
  | (inode, some err) => (inode, some err)
  | (inode, none) => followExtents env flags oldflags inode

/-- What ends `ext4_ioctl_setproject` before its handle is used. -/
def setprojectRefusal (inode : Inode) : Option Errno :=
  if ext4IsQuotaFile env inode then some .eperm
  else
    (env.err .dquotInitialize).or <| (env.err .getInodeLoc).or <|
      (if env.test .projidFits then none else env.err .expandExtraIsize).or <|
        (env.err .projectJournalStart).or (env.err .projectReserveInodeWrite)

/-- `ext4_ioctl_setproject`.  A project whose quota record cannot be had is set
without a transfer. -/
def ext4IoctlSetproject (projid : Nat) (inode : Inode) : Inode × Option Errno :=
  if !(env.test .configQuota && env.test .featureProject) then
    (inode, if projid ≠ 0 then some .eopnotsupp else none)
  else if !env.test .largeInodes then (inode, some .eopnotsupp)
  else if projid = inode.projid then (inode, none)
  else
  match setprojectRefusal env inode with
  | some err => (inode, some err)
  | none =>
  let transferred := if (env.err .dqget).isSome then none else env.err .dquotTransfer
  match transferred with
  | some err => (inode, some err)
  | none =>
  let inode :=
    { inode with
      projid := projid
      ctime := env.now
      version := code.inodeIncIversion inode.version }
  (inode, env.err .projectMarkIlocDirty)

/-- `ext4_fileattr_get`. -/
def ext4FileattrGet (inode : Inode) : Fileattr where
  flags :=
    let flags := inode.flags &&& FlagWord.userVisible
    if inode.fileType = .regular then flags &&& ~~~FlagWord.projinherit else flags
  fsxProjid := if env.test .featureProject then inode.projid else 0

/-- `ext4_fileattr_set`. -/
def ext4FileattrSet (fa : Fileattr) (inode : Inode) : Inode × Option Errno :=
  if fa.flags.Has (~~~FlagWord.userVisible) then (inode, some .eopnotsupp) else
  let flags := fa.flags &&& FlagWord.userModifiable
  if ext4MaskFlags inode.fileType flags ≠ flags then (inode, some .eopnotsupp) else
  match ext4IoctlCheckImmutable env fa.fsxProjid flags inode with
  | some err => (inode, some err)
  | none =>
  match ext4IoctlSetflags code env flags inode with
  | (inode, some err) => (inode, some err)
  | (inode, none) => ext4IoctlSetproject code env fa.fsxProjid inode

/-! ## A sample environment -/

/-- An operation that always gives its flag the wanted value. -/
def giveFlag (mask : FlagWord) (wanted : Bool) (inode : Inode) : Inode × Option Errno :=
  ({ inode with flags := Masked.merge mask (mask.onlyIf wanted) inode.flags }, none)

theorem giveFlag_follows (mask : FlagWord) : Follows mask (giveFlag mask) where
  flags := fun _ _ => Or.inr rfl
  projid := fun _ _ => rfl
  fileType := fun _ _ => rfl
  generation := fun _ _ => rfl
  csumSeed := fun _ _ => rfl
  normal := fun _ _ normal => normal

/-- A caller with all rights, on a volume with projects, where the listed operations
report an I/O error. -/
def attrEnv (failing : List AttrExtern) : AttrEnv where
  err := fun operation => if operation ∈ failing then some .eio else none
  test := fun test => decide (test ≠ .isNoquota ∧ test ≠ .verityInProgress)
  now := ⟨5, 0⟩
  changeJournalFlag := giveFlag FlagWord.journalData
  migrate := giveFlag FlagWord.extents

theorem attrEnv_lawful (failing : List AttrExtern) : (attrEnv failing).Lawful :=
  ⟨giveFlag_follows _, giveFlag_follows _⟩

theorem attrEnv_effective (failing : List AttrExtern) : (attrEnv failing).Effective where
  journal := fun _ _ _ => rfl
  migrate := fun _ _ _ => rfl

/-! ## Setting the generation -/

/-- Operations of the cases `EXT4_IOC_SETVERSION` and `EXT4_IOC_SETVERSION_OLD` that
can fail. -/
inductive VersionExtern where
  | mntWantWriteFile
  | journalStart
  | reserveInodeWrite
  | markIlocDirty
deriving DecidableEq

structure VersionEnv where
  err : VersionExtern -> Option Errno
  inodeOwnerOrCapable : Bool
  getUserFails : Bool
  features : Features
  now : Timespec

section

variable (code : InodeCode) (env : VersionEnv)

/-- The two cases, on the inode of the file. -/
def setversion (generation : UInt32) (inode : Inode) : Inode × Int :=
  if !env.inodeOwnerOrCapable then (inode, Errno.eperm.code)
  else if ext4HasMetadataCsum env.features then (inode, Errno.enotty.code)
  else
  match env.err .mntWantWriteFile with
  | some err => (inode, err.code)
  | none =>
  if env.getUserFails then (inode, Errno.efault.code) else
  match env.err .journalStart with
  | some err => (inode, err.code)
  | none =>
  match env.err .reserveInodeWrite with
  | some err => (inode, err.code)
  | none =>
  ({ inode with
      ctime := env.now
      version := code.inodeIncIversion inode.version
      generation := generation }, Errno.result (env.err .markIlocDirty))

/-- The generation is set, with a new time of change, or nothing changes. -/
theorem setversion_cases (generation : UInt32) (inode : Inode) :
    (setversion code env generation inode).1 = inode ∨
      (ext4HasMetadataCsum env.features = false ∧
        (setversion code env generation inode).1 =
          { inode with
            ctime := env.now
            version := code.inodeIncIversion inode.version
            generation := generation }) := by
  unfold setversion
  split
  · exact Or.inl rfl
  split
  · exact Or.inl rfl
  rename_i unsummed
  rw [Bool.not_eq_true] at unsummed
  cases env.err .mntWantWriteFile with
  | some err => exact Or.inl rfl
  | none =>
  dsimp only
  split
  · exact Or.inl rfl
  cases env.err .journalStart with
  | some err => exact Or.inl rfl
  | none =>
  cases env.err .reserveInodeWrite with
  | some err => exact Or.inl rfl
  | none => exact Or.inr ⟨unsummed, rfl⟩

end

end Ext4
end Evfs
