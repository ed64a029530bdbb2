import Evfs.Authority.WriteAccess
import Evfs.Metadata.SuperblockCopies

namespace Evfs
namespace Metadata

open Foundation Ext4

/-!
# What the label and uuid ioctls promise

A label is taken from the user up to its terminating zero, stored without one,
and read back with one.  The length check makes room for all of it, so what was
set is what is read, and later updates of other fields cannot change that,
whatever fails in them.

The second result is about agreement.  As long as each update is refused before
its first store or reports success, the backups that pass their check hold the
label, the uuid and the overhead of the primary.
-/

section

variable {code : SuperblockCode} {features : Features}

/-! ## Strings -/

theorem strnlen_le {length : Nat} (bytes : Bytes length) : strnlen bytes ≤ length := by
  unfold strnlen
  exact Nat.le_trans List.findIdx_le_length (Nat.le_of_eq List.length_ofFn)

theorem ne_zero_of_lt_strnlen {length : Nat} {bytes : Bytes length} {index : Fin length}
    (before : index.val < strnlen bytes) : bytes index ≠ 0 := by
  have nonzero := List.not_of_lt_findIdx before
  rw [List.getElem_ofFn] at nonzero
  exact beq_eq_false_iff_ne.mp nonzero

theorem zero_at_strnlen {length : Nat} {bytes : Bytes length} {index : Fin length}
    (terminator : index.val = strnlen bytes) : bytes index = 0 := by
  have inside : (List.ofFn bytes).findIdx (fun byte => byte == 0) < (List.ofFn bytes).length := by
    rw [List.length_ofFn]
    exact Nat.lt_of_le_of_lt (Nat.le_of_eq terminator.symm) index.isLt
  have zero := @List.findIdx_getElem _ _ _ inside
  rw [List.getElem_ofFn] at zero
  have same : (⟨_, List.length_ofFn ▸ inside⟩ : Fin length) = index := Fin.ext terminator.symm
  rw [← same]
  exact beq_iff_eq.mp zero

/-- The length of a string is where its first zero is. -/
theorem strnlen_eq {length : Nat} {bytes : Bytes length} {count : Nat} (short : count ≤ length)
    (nonzero : forall index : Fin length, index.val < count -> bytes index ≠ 0)
    (zero : forall index : Fin length, index.val = count -> bytes index = 0) :
    strnlen bytes = count := by
  rcases Nat.lt_trichotomy (strnlen bytes) count with less | same | more
  · have inside : strnlen bytes < length := Nat.lt_of_lt_of_le less short
    exact absurd (@zero_at_strnlen _ bytes ⟨strnlen bytes, inside⟩ rfl)
      (nonzero ⟨strnlen bytes, inside⟩ less)
  · exact same
  · have inside : count < length := Nat.lt_of_lt_of_le more (strnlen_le bytes)
    exact absurd (zero ⟨count, inside⟩ rfl)
      (@ne_zero_of_lt_strnlen _ bytes ⟨count, inside⟩ more)

/-- The stored label is as long as the user's. -/
theorem strnlen_clearedLabel {userLabel : Bytes (labelMax + 1)}
    (fits : strnlen userLabel ≤ labelMax) :
    strnlen (clearedLabel userLabel) = strnlen userLabel := by
  apply strnlen_eq fits
  · intro index before
    rw [clearedLabel, if_pos before]
    exact @ne_zero_of_lt_strnlen _ userLabel index.castSucc before
  · intro index terminator
    rw [clearedLabel, if_neg (Nat.not_lt.mpr (Nat.le_of_eq terminator.symm))]

/-- The user's label up to its terminating zero. -/
def terminated (userLabel : Bytes (labelMax + 1)) : Bytes (labelMax + 1) :=
  fun index => if index.val < strnlen userLabel then userLabel index else 0

theorem ioctlGetlabel_eq {userLabel : Bytes (labelMax + 1)} {sbs : Superblocks}
    (fits : strnlen userLabel ≤ labelMax)
    (stored : sbs.primary.volumeName = clearedLabel userLabel) :
    ioctlGetlabel sbs = terminated userLabel := by
  funext index
  unfold ioctlGetlabel terminated
  rw [stored, strnlen_clearedLabel fits]
  by_cases before : index.val < strnlen userLabel
  · have inside : index.val < labelMax := Nat.lt_of_lt_of_le before fits
    rw [dif_pos inside, if_pos before, if_pos before, clearedLabel, if_pos before]
    rfl
  · simp only [if_neg before, dite_eq_ite, ite_self]

/-! ## Calls -/

/-- The ways to `ext4_update_superblocks_fn`, with what they are given. -/
inductive SbIoctl where
  | setlabel (userLabel : Bytes (labelMax + 1))
  | setuuid (uuid : Bytes uuidSize)
  | updateOverhead (readOnly force : Bool) (overhead : UInt64)

namespace SbIoctl

def perform (code : SuperblockCode) (env : IoctlEnv) : SbIoctl -> Superblocks -> Superblocks × Int
  | .setlabel userLabel => ioctlSetlabel code env userLabel
  | .setuuid uuid => ioctlSetuuid code env uuid
  | .updateOverhead readOnly force overhead => Ext4.updateOverhead code env readOnly force overhead

def callback : SbIoctl -> SbCallback
  | .setlabel userLabel => .setlabel (clearedLabel userLabel)
  | .setuuid uuid => .setuuid uuid
  | .updateOverhead _ _ overhead => .overhead overhead

/-- A call changes nothing, or it is one update. -/
theorem perform_cases (env : IoctlEnv) (ioctl : SbIoctl) (sbs : Superblocks) :
    (ioctl.perform code env sbs).1 = sbs ∨
      ioctl.perform code env sbs =
        updateSuperblocksFn code env ioctl.callback.apply sbs := by
  cases ioctl with
  | setlabel userLabel =>
      simp only [perform, ioctlSetlabel]
      split
      · exact Or.inl rfl
      split
      · exact Or.inl rfl
      split
      · exact Or.inl rfl
      split
      · exact Or.inl rfl
      · exact Or.inr rfl
  | setuuid uuid =>
      simp only [perform, ioctlSetuuid]
      split
      · exact Or.inl rfl
      split
      · exact Or.inl rfl
      split
      · exact Or.inl rfl
      split
      · exact Or.inl rfl
      split
      · exact Or.inl rfl
      split
      · exact Or.inl rfl
      · exact Or.inr rfl
  | updateOverhead readOnly force overhead =>
      simp only [perform, Ext4.updateOverhead]
      split
      · exact Or.inl rfl
      split
      · exact Or.inl rfl
      · exact Or.inr rfl

/-- A label that was accepted fits, and its update was not refused. -/
theorem setlabel_ok {env : IoctlEnv} {userLabel : Bytes (labelMax + 1)} {sbs : Superblocks}
    (ok : ((SbIoctl.setlabel userLabel).perform code env sbs).2 = 0) :
    strnlen userLabel ≤ labelMax ∧
      (SbIoctl.setlabel userLabel).perform code env sbs =
        updateSuperblocksFn code env (SbCallback.setlabel (clearedLabel userLabel)).apply sbs := by
  simp only [perform, ioctlSetlabel] at ok ⊢
  split at ok
  · exact absurd ok Errno.eperm.nonzero
  rename_i capable
  split at ok
  · exact absurd ok Errno.efault.nonzero
  rename_i copied
  split at ok
  · exact absurd ok Errno.einval.nonzero
  rename_i fits
  rw [if_neg capable, if_neg copied, if_neg fits]
  cases wanted : env.err .mntWantWriteFile with
  | some err =>
      rw [wanted] at ok
      exact absurd ok err.nonzero
  | none => exact ⟨Nat.not_lt.mp fits, rfl⟩

theorem setuuid_ok {env : IoctlEnv} {uuid : Bytes uuidSize} {sbs : Superblocks}
    (ok : ((SbIoctl.setuuid uuid).perform code env sbs).2 = 0) :
    (SbIoctl.setuuid uuid).perform code env sbs =
      updateSuperblocksFn code env (SbCallback.setuuid uuid).apply sbs := by
  simp only [perform, ioctlSetuuid] at ok ⊢
  split at ok
  · exact absurd ok Errno.eperm.nonzero
  rename_i capable
  split at ok
  · exact absurd ok Errno.eopnotsupp.nonzero
  rename_i supported
  split at ok
  · exact absurd ok Errno.efault.nonzero
  rename_i copied
  split at ok
  · exact absurd ok Errno.einval.nonzero
  rename_i wellFormed
  split at ok
  · exact absurd ok Errno.efault.nonzero
  rename_i copiedUuid
  rw [if_neg capable, if_neg supported, if_neg copied, if_neg wellFormed, if_neg copiedUuid]
  cases wanted : env.err .mntWantWriteFile with
  | some err =>
      rw [wanted] at ok
      exact absurd ok err.nonzero
  | none => rfl

end SbIoctl

/-- One of the calls, in its environment. -/
structure SbIoctlCall where
  env : IoctlEnv
  ioctl : SbIoctl

def ioctlStep (code : SuperblockCode) (sbs : Superblocks) (call : SbIoctlCall) : Superblocks :=
  (call.ioctl.perform code call.env sbs).1

/-- The primary after a call, whatever fails in it. -/
theorem primary_ioctlStep (lawful : code.Lawful features) {call : SbIoctlCall}
    (sameVolume : call.env.features = features) (sbs : Superblocks) :
    (ioctlStep code sbs call).primary = sbs.primary ∨
      (ioctlStep code sbs call).primary =
        stamp code features call.ioctl.callback sbs.primary := by
  unfold ioctlStep
  rcases SbIoctl.perform_cases call.env call.ioctl sbs with kept | updated
  · rw [kept]
    exact Or.inl rfl
  · rw [updated]
    exact (@updateStep_copies code features lawful ⟨call.env, call.ioctl.callback⟩ sameVolume
      sbs).1

/-- A field that the calls of a run do not write is kept, whatever else they do. -/
theorem field_exec {Field : Type*} (lawful : code.Lawful features) (field : SuperBlock -> Field)
    {calls : List SbIoctlCall}
    (sameVolume : forall call, call ∈ calls -> call.env.features = features)
    (kept : forall call, call ∈ calls -> forall es,
      field (stamp code features call.ioctl.callback es) = field es)
    (sbs : Superblocks) :
    field (Run.exec (ioctlStep code) sbs calls).primary = field sbs.primary := by
  have always := @Run.always_of_step _ _ (ioctlStep code)
    (fun reached => field reached.primary = field sbs.primary)
    (fun call => call.env.features = features ∧
      forall es, field (stamp code features call.ioctl.callback es) = field es)
    (fun reached call admitted same => by
      rcases primary_ioctlStep lawful admitted.1 reached with unchanged | written
      · rw [unchanged, same]
      · rw [written, admitted.2, same])
    sbs rfl calls (fun call member => ⟨sameVolume call member, kept call member⟩)
  exact Run.always_exec always

theorem volumeName_stamp (callback : SbCallback) (es : SuperBlock) :
    (stamp code features callback es).volumeName = (callback.apply es).volumeName := by
  unfold stamp
  split <;> rfl

theorem uuid_stamp (callback : SbCallback) (es : SuperBlock) :
    (stamp code features callback es).uuid = (callback.apply es).uuid := by
  unfold stamp
  split <;> rfl

theorem overheadClusters_stamp (callback : SbCallback) (es : SuperBlock) :
    (stamp code features callback es).overheadClusters =
      (callback.apply es).overheadClusters := by
  unfold stamp
  split <;> rfl

/-- A label that was set is read up to its terminating zero, after any further
calls that set no label, and a uuid that was set is read as it was set after
any that set no uuid, whatever fails in these. -/
theorem set_then_get (lawful : code.Lawful features) {env : IoctlEnv}
    (envVolume : env.features = features) {calls : List SbIoctlCall}
    (sameVolume : forall call, call ∈ calls -> call.env.features = features)
    (sbs : Superblocks) :
    (forall userLabel, ((SbIoctl.setlabel userLabel).perform code env sbs).2 = 0 ->
      (forall call, call ∈ calls -> forall other, call.ioctl ≠ .setlabel other) ->
        ioctlGetlabel (Run.exec (ioctlStep code) sbs (⟨env, .setlabel userLabel⟩ :: calls)) =
          terminated userLabel) ∧
      forall uuid, ((SbIoctl.setuuid uuid).perform code env sbs).2 = 0 ->
        (forall call, call ∈ calls -> forall other, call.ioctl ≠ .setuuid other) ->
          ioctlGetuuid (Run.exec (ioctlStep code) sbs (⟨env, .setuuid uuid⟩ :: calls)) = uuid := by
  subst envVolume
  have stored : forall callback : SbCallback,
      (updateSuperblocksFn code env callback.apply sbs).2 = 0 ->
        (updateSuperblocksFn code env callback.apply sbs).1.primary =
          stamp code env.features callback sbs.primary := by
    intro callback ok
    by_cases refused : UpdateRefused env sbs
    · exact absurd ok (update_of_refused refused).1
    · exact (update_of_admitted lawful refused).primary
  constructor
  · intro userLabel ok noLabel
    rcases SbIoctl.setlabel_ok ok with ⟨fits, updated⟩
    rw [updated] at ok
    apply ioctlGetlabel_eq fits
    rw [Run.exec_cons, field_exec lawful SuperBlock.volumeName sameVolume]
    · rw [ioctlStep, updated, stored (.setlabel (clearedLabel userLabel)) ok, volumeName_stamp]
      rfl
    · intro call member es
      rw [volumeName_stamp]
      cases ioctl : call.ioctl with
      | setlabel other => exact absurd ioctl (noLabel call member other)
      | setuuid other => rfl
      | updateOverhead readOnly force overhead => rfl
  · intro uuid ok noUuid
    have updated := SbIoctl.setuuid_ok ok
    rw [updated] at ok
    rw [ioctlGetuuid, Run.exec_cons, field_exec lawful SuperBlock.uuid sameVolume]
    · rw [ioctlStep, updated, stored (.setuuid uuid) ok, uuid_stamp]
      rfl
    · intro call member es
      rw [uuid_stamp]
      cases ioctl : call.ioctl with
      | setlabel other => rfl
      | setuuid other => exact absurd ioctl (noUuid call member other)
      | updateOverhead readOnly force overhead => rfl

/-! ## Agreement -/

/-- Two copies have the same label, uuid and overhead. -/
structure SameFields (first second : SuperBlock) : Prop where
  volumeName : first.volumeName = second.volumeName
  uuid : first.uuid = second.uuid
  overheadClusters : first.overheadClusters = second.overheadClusters

theorem SameFields.stamp {first second : SuperBlock} (same : SameFields first second)
    (callback : SbCallback) :
    SameFields (stamp code features callback first) (stamp code features callback second) := by
  rcases same with ⟨volumeName, uuid, overheadClusters⟩
  constructor
  · rw [volumeName_stamp, volumeName_stamp]
    cases callback <;> first | rfl | exact volumeName
  · rw [uuid_stamp, uuid_stamp]
    cases callback <;> first | rfl | exact uuid
  · rw [overheadClusters_stamp, overheadClusters_stamp]
    cases callback <;> first | rfl | exact overheadClusters

theorem sameFields_checksum (es : SuperBlock) (value : UInt32) :
    SameFields es { es with checksum := value } := ⟨rfl, rfl, rfl⟩

/-- The listed backups of a volume that pass their check agree with the primary. -/
def Agree (code : SuperblockCode) (volume : IoctlEnv) (sbs : Superblocks) : Prop :=
  forall group, group ∈ volume.backupGroups -> group ≠ volume.primaryGroup ->
    volume.test (.hasSuper group) = true ->
    checksumRight code volume.features (sbs.backup group) = true ->
      SameFields sbs.primary (sbs.backup group)

/-- A call on the volume, in which no operation on a backup reports `EFSBADCRC`. -/
structure OnVolume (volume env : IoctlEnv) : Prop where
  features : env.features = volume.features
  backupGroups : env.backupGroups = volume.backupGroups
  primaryGroup : env.primaryGroup = volume.primaryGroup
  hasSuper : forall group, env.test (.hasSuper group) = volume.test (.hasSuper group)
  quiet : forall group, ¬ ReportsBadCrc env group

/-- The step lemma: a refused update changes no copy, and a successful one
writes the primary and every backup that passes its check. -/
theorem Agree.step {volume : IoctlEnv} (lawful : code.Lawful volume.features)
    {sbs : Superblocks} (agree : Agree code volume sbs) {call : SbCall}
    (onVolume : OnVolume volume call.env)
    (settled : UpdateRefused call.env sbs ∨ updateReply code sbs call = 0) :
    Agree code volume (updateStep code sbs call) := by
  have sameFeatures := onVolume.features
  have callLawful : code.Lawful call.env.features := by rwa [sameFeatures]
  have unrefused : UpdateRefused call.env sbs -> Agree code volume (updateStep code sbs call) := by
    intro refused
    rcases @update_of_refused code call.env call.callback sbs refused with
      ⟨-, primary, backup, -⟩
    unfold Agree updateStep
    rw [primary, backup]
    exact agree
  rcases settled with refused | success
  · exact unrefused refused
  by_cases refused : UpdateRefused call.env sbs
  · exact unrefused refused
  have admitted := @update_of_admitted code call.env call.callback callLawful sbs refused
  intro group listed secondary present right
  have writable : checksumRight code volume.features (sbs.backup group) = true ->
      Writable code call.env sbs group := by
    intro before
    refine ⟨?_, ?_, ?_, onVolume.quiet group⟩
    · rwa [onVolume.primaryGroup]
    · rwa [onVolume.hasSuper]
    · rwa [sameFeatures]
  have member : group ∈ call.env.backupGroups := by rwa [onVolume.backupGroups]
  rcases (updateStep_copies callLawful rfl sbs).2 group with kept | ⟨before, -⟩
  · rw [kept] at right
    have written := admitted.complete success group member (writable right)
    rw [updateStep, admitted.primary, written]
    exact (agree group listed secondary present right).stamp call.callback
  · rw [sameFeatures] at before
    have written := admitted.complete success group member (writable before)
    rw [updateStep, admitted.primary, written]
    exact (agree group listed secondary present before).stamp call.callback

/-- In a run of updates that are each refused before their first store or report
success, the backups that pass their check agree with the primary throughout. -/
theorem superblocks_agree_always {volume : IoctlEnv} (lawful : code.Lawful volume.features)
    {calls : List SbCall} {sbs : Superblocks} (agree : Agree code volume sbs)
    (settled : Run.AtEachCall (updateStep code) sbs calls fun reached call =>
      OnVolume volume call.env ∧
        (UpdateRefused call.env reached ∨ updateReply code reached call = 0)) :
    Run.Always (updateStep code) sbs calls (Agree code volume) :=
  Run.always_of_atEachCall (Agree code volume)
    (fun _ _ holds before => before.step lawful holds.1 holds.2) agree settled

/-! ## A sample volume -/

/-- A volume with checksums in its superblocks and backups in three groups. -/
def volumeEnv : IoctlEnv :=
  { Authority.sampleEnv with
    test := fun test =>
      match test with
      | .stableInodes => false
      | .hasSuper group => decide (group ∈ [0, 1, 3, 5])
      | _ => Authority.sampleEnv.test test
    features := { gdtCsum := false, metadataCsum := true, chksumDriver := true }
    backupGroups := [0, 1, 3, 5] }

def freshSuperblock : SuperBlock :=
  (Crc32c.volumeCode volumeEnv.features).ext4SuperblockCsumSet
    { volumeName := fun _ => 0
      uuid := fun index => UInt8.ofNat index.val
      overheadClusters := 0
      checksum := 0
      others := fun _ => 0 }

/-- The copies after `mke2fs`, all alike. -/
def freshSuperblocks : Superblocks where
  primary := freshSuperblock
  backup := fun _ => freshSuperblock
  resizing := false
  trace := []

/-- The user's bytes for the label "evfs". -/
def evfsLabel : Bytes (labelMax + 1) := fun index => [101, 118, 102, 115].getD index.val 0

/-- A call in which the backup of group 3 cannot be read. -/
def unreadableEnv : IoctlEnv :=
  { volumeEnv with
    err := fun operation =>
      match operation with
      | .backupRead 3 => some .eio
      | _ => none }

/-- A call that gets no journal handle. -/
def unjournalledEnv : IoctlEnv :=
  { volumeEnv with
    err := fun operation =>
      match operation with
      | .journalStart => some .erofs
      | _ => none }

/-- A copy whose stored checksum is off by one. -/
def staleSuperblock : SuperBlock :=
  { freshSuperblock with checksum := freshSuperblock.checksum + 1 }

theorem checksumRight_staleSuperblock :
    checksumRight (Crc32c.volumeCode volumeEnv.features) volumeEnv.features staleSuperblock =
      false := by
  have lawful := Crc32c.volumeCode_lawful volumeEnv.features
  have stored : freshSuperblock.checksum =
      (Crc32c.volumeCode volumeEnv.features).ext4SuperblockCsum freshSuperblock := by
    unfold freshSuperblock
    rw [lawful.csumSet_eq, if_pos (show ext4HasMetadataCsum volumeEnv.features = true from rfl),
      lawful.csum_checksum]
  have different : staleSuperblock.checksum ≠
      (Crc32c.volumeCode volumeEnv.features).ext4SuperblockCsum staleSuperblock := by
    rw [staleSuperblock, lawful.csum_checksum, ← stored]
    intro same
    have values := congrArg UInt32.toNat same
    have width := freshSuperblock.checksum.toNat_lt
    rw [UInt32.toNat_add, show (1 : UInt32).toNat = 1 from rfl] at values
    omega
  rw [checksumRight, show ext4HasMetadataCsum volumeEnv.features = true from rfl,
    decide_eq_true different]
  rfl

/-- The copies with a stale checksum in group 5. -/
def ailingSuperblocks : Superblocks :=
  { freshSuperblocks with
    backup := fun group => if group = 5 then staleSuperblock else freshSuperblock }

theorem ailingSuperblocks_backup (group : Nat) : ailingSuperblocks.backup group =
    if group = 5 then staleSuperblock else freshSuperblock := rfl

theorem superblock_update_outcome_sample :
    Admitted (Crc32c.volumeCode volumeEnv.features) unreadableEnv
      (.setlabel (clearedLabel evfsLabel)) ailingSuperblocks
      (updateSuperblocksFn (Crc32c.volumeCode volumeEnv.features) unreadableEnv
        (SbCallback.setlabel (clearedLabel evfsLabel)).apply ailingSuperblocks) :=
  (@superblock_update_outcome _ unreadableEnv (Crc32c.volumeCode_lawful volumeEnv.features)
    (.setlabel (clearedLabel evfsLabel)) ailingSuperblocks).2 (by
      rintro (resizing | unstarted | ungranted)
      · cases resizing
      · exact unstarted rfl
      · exact ungranted rfl)

/-- A label whose update ends at the backup of group 3, a uuid that gets no handle,
and the overhead. -/
def ailingCalls : List SbCall :=
  [⟨unreadableEnv, .setlabel (clearedLabel evfsLabel)⟩, ⟨unjournalledEnv, .setuuid fun _ => 7⟩,
    ⟨volumeEnv, .overhead 5000⟩]

theorem superblock_histories_sample :
    (exists applied, applied.Sublist (ailingCalls.map SbCall.callback) ∧
      (Run.exec (updateStep (Crc32c.volumeCode volumeEnv.features)) ailingSuperblocks
        ailingCalls).primary =
          history (Crc32c.volumeCode volumeEnv.features) volumeEnv.features applied
            freshSuperblock) ∧
    (Run.exec (updateStep (Crc32c.volumeCode volumeEnv.features)) ailingSuperblocks
      ailingCalls).backup 5 = staleSuperblock := by
  have sameVolume : forall call, call ∈ ailingCalls -> call.env.features = volumeEnv.features := by
    simp only [ailingCalls, List.forall_mem_cons, unreadableEnv, unjournalledEnv,
      List.not_mem_nil, false_imp_iff, implies_true, and_self]
  -- the copies stay variables here, since no proof may compute a checksum of them
  have kept : forall (code : SuperblockCode) (sbs : Superblocks), code.Lawful volumeEnv.features ->
      checksumRight code volumeEnv.features (sbs.backup 5) = false ->
      (Run.exec (updateStep code) sbs ailingCalls).backup 5 = sbs.backup 5 := by
    intro code sbs lawful wrong
    have histories := (superblock_histories lawful sameVolume sbs).2.2 5
    rwa [if_neg (ne_true_of_eq_false wrong)] at histories
  have stale : ailingSuperblocks.backup 5 = staleSuperblock := by
    rw [ailingSuperblocks_backup, if_pos rfl]
  have lawful := Crc32c.volumeCode_lawful volumeEnv.features
  refine ⟨(superblock_histories lawful sameVolume ailingSuperblocks).1, ?_⟩
  rw [kept _ ailingSuperblocks lawful (by rw [stale, checksumRight_staleSuperblock]), stale]

theorem evfsLabel_accepted (sbs : Superblocks) :
    (SbIoctl.setlabel evfsLabel).perform (Crc32c.volumeCode volumeEnv.features) volumeEnv sbs =
      updateSuperblocksFn (Crc32c.volumeCode volumeEnv.features) volumeEnv
        (SbCallback.setlabel (clearedLabel evfsLabel)).apply sbs := by
  have capable : volumeEnv.test .capableSysAdmin = true := rfl
  have copied : volumeEnv.fails (.copyFromUser 0) = false := rfl
  have fits : ¬ labelMax < strnlen evfsLabel := by decide
  have wanted : volumeEnv.err .mntWantWriteFile = none := rfl
  simp [SbIoctl.perform, ioctlSetlabel, SbCallback.apply, capable, copied, fits, wanted]

theorem set_then_get_sample :
    ioctlGetlabel (Run.exec (ioctlStep (Crc32c.volumeCode volumeEnv.features)) freshSuperblocks
      [⟨volumeEnv, .setlabel evfsLabel⟩, ⟨volumeEnv, .setuuid fun _ => 7⟩]) =
        terminated evfsLabel :=
  (@set_then_get _ _ (Crc32c.volumeCode_lawful volumeEnv.features) volumeEnv rfl
    [⟨volumeEnv, .setuuid fun _ => 7⟩]
    (by simp only [List.mem_singleton, forall_eq]) freshSuperblocks).1 evfsLabel
    (by
      rw [evfsLabel_accepted]
      exact update_quiet (fun _ => rfl) rfl)
    (by
      intro call member other
      rw [List.mem_singleton.mp member]
      exact SbIoctl.noConfusion)

theorem superblocks_agree_always_sample :
    Run.Always (updateStep (Crc32c.volumeCode volumeEnv.features)) ailingSuperblocks
      [⟨volumeEnv, .setlabel (clearedLabel evfsLabel)⟩, ⟨unjournalledEnv, .setuuid fun _ => 7⟩,
        ⟨volumeEnv, .overhead 5000⟩]
      (Agree (Crc32c.volumeCode volumeEnv.features) volumeEnv) := by
  have lawful := Crc32c.volumeCode_lawful volumeEnv.features
  have quiet : forall env : IoctlEnv, (forall group, env.err (.backupRead group) = none ∧
      env.err (.backupWriteAccess group) = none ∧ env.err (.backupDirty group) = none ∧
      env.err (.backupSync group) = none) -> forall group, ¬ ReportsBadCrc env group := by
    rintro env silent group (read | access | dirty | sync)
    · rw [(silent group).1] at read
      cases read
    · rw [(silent group).2.1] at access
      cases access
    · rw [(silent group).2.2.1] at dirty
      cases dirty
    · rw [(silent group).2.2.2] at sync
      cases sync
  have volume : OnVolume volumeEnv volumeEnv :=
    ⟨rfl, rfl, rfl, fun _ => rfl, quiet _ fun _ => ⟨rfl, rfl, rfl, rfl⟩⟩
  have unjournalled : OnVolume volumeEnv unjournalledEnv :=
    ⟨rfl, rfl, rfl, fun _ => rfl, quiet _ fun _ => ⟨rfl, rfl, rfl, rfl⟩⟩
  refine superblocks_agree_always lawful ?_ ?_
  · intro group _ _ _ _
    by_cases stale : group = 5
    · rw [ailingSuperblocks_backup, if_pos stale]
      exact sameFields_checksum freshSuperblock _
    · rw [ailingSuperblocks_backup, if_neg stale]
      exact ⟨rfl, rfl, rfl⟩
  · refine (Run.atEachCall_cons _ _ _ _).mpr
      ⟨⟨volume, Or.inr (updateReply_quiet (fun _ => rfl) rfl)⟩, ?_⟩
    refine (Run.atEachCall_cons _ _ _ _).mpr ⟨⟨unjournalled, Or.inl ?_⟩, ?_⟩
    · exact Or.inr (Or.inl (Option.some_ne_none Errno.erofs))
    · refine (Run.atEachCall_cons _ _ _ _).mpr ⟨⟨volume, Or.inr ?_⟩, Run.atEachCall_nil _ _⟩
      exact updateReply_quiet (fun _ => rfl)
        (updateStep_free lawful rfl (updateStep_free lawful rfl rfl))

end

end Metadata
end Evfs
