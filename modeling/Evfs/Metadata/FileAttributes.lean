import Evfs.Ext4.FileAttr
import Evfs.Foundation.Runs

namespace Evfs
namespace Metadata

open Foundation Ext4

/-!
# What attribute requests can do to the flags

A request replaces the flags of one mask by its own and keeps the others.  The
mask is empty where the request is refused.  Otherwise it has all flags that the
loop sets, and the data mode and the extents flag if their operations were
effective.  All that follows is about such masks: which flags no request ever
reaches, what an immutable inode keeps, and which flags exclude one another.
-/

/-- The flags that the loop of `ext4_ioctl_setflags` sets or clears. -/
def loopFlags : FlagWord :=
  FlagWord.userModifiable &&& ~~~(FlagWord.journalData ||| FlagWord.extents)

section

variable {code : InodeCode} {env : AttrEnv}

/-! ## The loop -/

/-- The tests of the loop let exactly these flags through. -/
theorem passes_iff {index : Nat} (inside : index < 32) :
    (((FlagWord.ofBit index).Has FlagWord.userModifiable ∧
        ¬ ((FlagWord.ofBit index) = FlagWord.journalData ∨
          (FlagWord.ofBit index) = FlagWord.extents)) ↔ loopFlags[index] = true) := by
  have all : forall position : Fin 32,
      ((FlagWord.ofBit position.val).Has FlagWord.userModifiable ∧
        ¬ (FlagWord.ofBit position.val = FlagWord.journalData ∨
          FlagWord.ofBit position.val = FlagWord.extents)) ↔
        loopFlags.getLsbD position.val = true := by
    decide
  rw [← BitVec.getLsbD_eq_getElem]
  exact all ⟨index, inside⟩

theorem has_ofBit_iff (flags : FlagWord) {index : Nat} (inside : index < 32) :
    (FlagWord.ofBit index).Has flags ↔ flags[index] = true := by
  unfold FlagWord.Has FlagWord.ofBit
  rw [← BitVec.twoPow_eq, BitVec.twoPow_and, BitVec.getLsbD_eq_getElem inside]
  cases flags[index] with
  | false => simp
  | true =>
      have nonzero : BitVec.twoPow 32 index ≠ 0#32 := by
        intro zero
        have bit := BitVec.getElem_twoPow (w := 32) (i := index) inside
        simp [zero] at bit
      simpa using nonzero

/-- One turn decides one bit. -/
theorem getElem_setFlag (flags current : FlagWord) {index position : Nat} (inside : index < 32)
    (bit : position < 32) :
    (setFlag flags current index)[position] =
      if position = index ∧ loopFlags[position] = true then flags[position]
      else current[position] := by
  have passes := passes_iff inside
  have asked := has_ofBit_iff flags inside
  have single : (FlagWord.ofBit index)[position] = decide (position = index) := by
    rw [FlagWord.ofBit, ← BitVec.twoPow_eq, BitVec.getElem_twoPow]
  unfold setFlag
  by_cases same : position = index
  · subst same
    by_cases through : loopFlags[position] = true
    · have tests := passes.mpr through
      by_cases wanted : flags[position] = true
      · simp [tests.1, not_or.mp tests.2, asked.mpr wanted, single, through, wanted]
      · simp [tests.1, not_or.mp tests.2, mt asked.mp wanted, single, through, wanted]
    · have stopped := mt passes.mp through
      by_cases modifiable : (FlagWord.ofBit position).Has FlagWord.userModifiable
      · have later := not_not.mp (not_and.mp stopped modifiable)
        simp [modifiable, later, through]
      · simp [modifiable, through]
  · have other : (FlagWord.ofBit index)[position] = false := by simp [single, same]
    simp only [same, false_and, if_false]
    split
    · rfl
    split
    · rfl
    split <;> simp [other]

/-- The turns up to some bit have decided the bits below it. -/
theorem getElem_foldl_setFlag (flags current : FlagWord) {turns position : Nat}
    (inside : turns ≤ 32) (bit : position < 32) :
    ((List.range turns).foldl (setFlag flags) current)[position] =
      if position < turns ∧ loopFlags[position] = true then flags[position]
      else current[position] := by
  induction turns with
  | zero => simp
  | succ turns inductionHypothesis =>
      rw [List.range_succ, List.foldl_append, List.foldl_cons, List.foldl_nil,
        getElem_setFlag flags _ inside bit, inductionHypothesis (Nat.le_of_succ_le inside)]
      by_cases last : position = turns
      · simp [last]
      · have earlier : position < turns + 1 ↔ position < turns := by omega
        rw [if_neg fun both => last both.1]
        simp only [earlier]

/-- The loop is one masked update. -/
theorem setFlags_eq (flags current : FlagWord) :
    (List.range 32).foldl (setFlag flags) current = Masked.merge loopFlags flags current := by
  ext position inside
  rw [getElem_foldl_setFlag flags current (Nat.le_refl 32) inside, Masked.getElem_merge]
  simp [inside]

/-! ## The operations that follow -/

/-- An inode after an update of its flags under a mask. -/
structure Changed (mask flags : FlagWord) (before after : Inode) : Prop where
  flags : after.flags = Masked.merge mask flags before.flags
  projid : after.projid = before.projid
  fileType : after.fileType = before.fileType

theorem Changed.refl (flags : FlagWord) (inode : Inode) : Changed 0 flags inode inode :=
  ⟨(Masked.merge_zero flags inode.flags).symm, rfl, rfl⟩

theorem Changed.trans {first second flags : FlagWord} {before between after : Inode}
    (earlier : Changed first flags before between) (later : Changed second flags between after) :
    Changed (first ||| second) flags before after where
  flags := by rw [later.flags, earlier.flags, Masked.merge_union]
  projid := later.projid.trans earlier.projid
  fileType := later.fileType.trans earlier.fileType

/-- The wanted value of one flag is its value in the request. -/
theorem merge_onlyIf (position : Nat) (flags current : FlagWord) :
    Masked.merge (FlagWord.ofBit position)
        ((FlagWord.ofBit position).onlyIf (decide (flags.Has (FlagWord.ofBit position)))) current =
      Masked.merge (FlagWord.ofBit position) flags current := by
  have wanted : (FlagWord.ofBit position).onlyIf (decide (flags.Has (FlagWord.ofBit position))) =
      flags &&& FlagWord.ofBit position := by
    unfold FlagWord.onlyIf
    by_cases asked : flags.Has (FlagWord.ofBit position)
    · rw [decide_eq_true asked, if_pos rfl]
      unfold FlagWord.Has at asked
      rw [FlagWord.ofBit, ← BitVec.twoPow_eq, BitVec.and_twoPow] at asked ⊢
      split at asked
      · rename_i bit
        rw [if_pos bit]
      · exact absurd rfl asked
    · rw [decide_eq_false asked, if_neg Bool.false_ne_true]
      exact (not_not.mp asked).symm
  rw [wanted, Masked.merge_and]

theorem journalData_eq : FlagWord.journalData = FlagWord.ofBit 14 := rfl

theorem extents_eq : FlagWord.extents = FlagWord.ofBit 19 := rfl

/-- An operation on one flag, as an update with the flags of the request. -/
theorem changed_of_follows {position : Nat}
    {operation : Bool -> Inode -> Inode × Option Errno}
    (follows : Follows (FlagWord.ofBit position) operation) (flags : FlagWord) (inode : Inode) :
    exists part, (part = 0 ∨ part = FlagWord.ofBit position) ∧
      Changed part flags inode
        (operation (decide (flags.Has (FlagWord.ofBit position))) inode).1 := by
  rcases follows.flags (decide (flags.Has (FlagWord.ofBit position))) inode with kept | given
  · refine ⟨0, Or.inl rfl, ?_, follows.projid _ _, follows.fileType _ _⟩
    rw [kept, Masked.merge_zero]
  · refine ⟨FlagWord.ofBit position, Or.inr rfl, ?_, follows.projid _ _, follows.fileType _ _⟩
    rw [given, merge_onlyIf]

theorem followJournalData_changed (lawful : env.Lawful) (flags oldflags : FlagWord)
    (inode : Inode) :
    exists part, (part = 0 ∨ part = FlagWord.journalData) ∧
      Changed part flags inode (followJournalData env flags oldflags inode).1 := by
  have untouched := Changed.refl flags inode
  unfold followJournalData
  split
  · split
    · exact ⟨0, Or.inl rfl, untouched⟩
    · exact @changed_of_follows 14 _ lawful.journal flags inode
  · exact ⟨0, Or.inl rfl, untouched⟩

theorem followExtents_changed (lawful : env.Lawful) (flags oldflags : FlagWord) (inode : Inode) :
    exists part, (part = 0 ∨ part = FlagWord.extents) ∧
      Changed part flags inode (followExtents env flags oldflags inode).1 := by
  have untouched := Changed.refl flags inode
  unfold followExtents
  split
  · exact @changed_of_follows 19 _ lawful.migrate flags inode
  · exact ⟨0, Or.inl rfl, untouched⟩

/-! ## Setting the flags -/

theorem storeFlags_changed (flags : FlagWord) (inode : Inode) :
    Changed loopFlags flags inode (storeFlags code env flags inode) :=
  ⟨setFlags_eq flags inode.flags, rfl, rfl⟩

/-- The flags that are set apart from the loop. -/
def laterFlags : FlagWord := FlagWord.journalData ||| FlagWord.extents

theorem loop_later : loopFlags ||| laterFlags = FlagWord.userModifiable := by decide

/-- What ends `ext4_ioctl_setflags` before its loop. -/
def unstartedSetflags (env : AttrEnv) (flags : FlagWord) (inode : Inode) : Option Errno :=
  (setflagsRefusal env flags inode).or <|
    (env.err .journalStart).or (env.err .reserveInodeWrite)

theorem setflagsRefusal_of_started {flags : FlagWord} {inode : Inode}
    (started : unstartedSetflags env flags inode = none) :
    setflagsRefusal env flags inode = none :=
  (Option.or_eq_none_iff.mp started).1

/-- The ways through `ext4_ioctl_setflags`. -/
inductive SetflagsOutcome (code : InodeCode) (env : AttrEnv) (flags : FlagWord) (inode : Inode) :
    Inode × Option Errno -> Prop where
  | refused (err : Errno) (unstarted : unstartedSetflags env flags inode = some err) :
      SetflagsOutcome code env flags inode (inode, some err)
  | unmarked (err : Errno) (admitted : unstartedSetflags env flags inode = none)
      (failed : env.err .markIlocDirty = some err) :
      SetflagsOutcome code env flags inode (storeFlags code env flags inode, some err)
  | unfollowed (between : Inode) (err : Errno) (admitted : unstartedSetflags env flags inode = none)
      (followed : followJournalData env flags inode.flags (storeFlags code env flags inode) =
        (between, some err)) :
      SetflagsOutcome code env flags inode (between, some err)
  | followed (between : Inode) (admitted : unstartedSetflags env flags inode = none)
      (followed : followJournalData env flags inode.flags (storeFlags code env flags inode) =
        (between, none)) :
      SetflagsOutcome code env flags inode (followExtents env flags inode.flags between)

theorem setflags_outcome (flags : FlagWord) (inode : Inode) :
    SetflagsOutcome code env flags inode (ext4IoctlSetflags code env flags inode) := by
  unfold ext4IoctlSetflags
  cases refusal : setflagsRefusal env flags inode with
  | some err => exact .refused err (by rw [unstartedSetflags, refusal, Option.some_or])
  | none =>
  cases started : env.err .journalStart with
  | some err =>
      exact .refused err (by
        rw [unstartedSetflags, refusal, Option.none_or, started, Option.some_or])
  | none =>
  have admitted : unstartedSetflags env flags inode = env.err .reserveInodeWrite := by
    rw [unstartedSetflags, refusal, Option.none_or, started, Option.none_or]
  cases reserved : env.err .reserveInodeWrite with
  | some err => exact .refused err (admitted.trans reserved)
  | none =>
  rw [reserved] at admitted
  cases marked : env.err .markIlocDirty with
  | some err => exact .unmarked err admitted marked
  | none =>
  rcases outcome : followJournalData env flags inode.flags (storeFlags code env flags inode) with
    ⟨between, err⟩
  simp only [outcome]
  cases err with
  | some err => exact .unfollowed between err admitted outcome
  | none => exact .followed between admitted outcome

/-- A call ends before the loop, or its flags are set by the loop and perhaps by
what follows. -/
theorem setflags_changed (lawful : env.Lawful) (flags : FlagWord) (inode : Inode) :
    (exists err, unstartedSetflags env flags inode = some err ∧
        ext4IoctlSetflags code env flags inode = (inode, some err)) ∨
      (unstartedSetflags env flags inode = none ∧ exists part, part &&& ~~~laterFlags = 0 ∧
        Changed (loopFlags ||| part) flags inode (ext4IoctlSetflags code env flags inode).1) := by
  have outcome := @setflags_outcome code env flags inode
  have stored := @storeFlags_changed code env flags inode
  have following := followJournalData_changed lawful flags inode.flags
    (storeFlags code env flags inode)
  generalize ext4IoctlSetflags code env flags inode = result at outcome ⊢
  cases outcome with
  | refused err unstarted => exact Or.inl ⟨err, unstarted, rfl⟩
  | unmarked err admitted =>
      refine Or.inr ⟨admitted, 0, by decide, ?_⟩
      simpa using stored
  | unfollowed between err admitted followed =>
      rw [followed] at following
      rcases following with ⟨first, firstIs, changed⟩
      refine Or.inr ⟨admitted, first, ?_, stored.trans changed⟩
      rcases firstIs with rfl | rfl <;> decide
  | followed between admitted followed =>
      rw [followed] at following
      rcases following with ⟨first, firstIs, changed⟩
      rcases followExtents_changed lawful flags inode.flags between with
        ⟨second, secondIs, migrated⟩
      refine Or.inr ⟨admitted, first ||| second, ?_, ?_⟩
      · rcases firstIs with rfl | rfl <;> rcases secondIs with rfl | rfl <;> decide
      · rw [← BitVec.or_assoc]
        exact (stored.trans changed).trans migrated

/-- A flag that is asked for as it is need not be set. -/
theorem followJournalData_success (effective : env.Effective) {flags oldflags first : FlagWord}
    {inode : Inode} (stored : inode.flags = Masked.merge first flags oldflags)
    (success : (followJournalData env flags oldflags inode).2 = none) :
    (followJournalData env flags oldflags inode).1.flags =
      Masked.merge (first ||| FlagWord.journalData) flags oldflags := by
  unfold followJournalData at success ⊢
  split at success
  · rename_i asked
    rw [if_pos asked]
    split at success
    · exact absurd success (Option.some_ne_none _)
    · rename_i unmapped
      rw [if_neg unmapped, effective.journal _ _ success, journalData_eq, merge_onlyIf, stored,
        Masked.merge_union]
  · rename_i same
    rw [if_neg same, stored, Masked.merge_agreeing _ _ _ _ (not_not.mp same)]

theorem followExtents_success (effective : env.Effective) {flags oldflags first : FlagWord}
    {inode : Inode} (stored : inode.flags = Masked.merge first flags oldflags)
    (success : (followExtents env flags oldflags inode).2 = none) :
    (followExtents env flags oldflags inode).1.flags =
      Masked.merge (first ||| FlagWord.extents) flags oldflags := by
  unfold followExtents at success ⊢
  split at success
  · rename_i asked
    rw [if_pos asked, effective.migrate _ _ success, extents_eq, merge_onlyIf, stored,
      Masked.merge_union]
  · rename_i same
    rw [if_neg same, stored, Masked.merge_agreeing _ _ _ _ (not_not.mp same)]

/-- A successful call sets all flags that users may set. -/
theorem setflags_success (effective : env.Effective) {flags : FlagWord} {inode : Inode}
    (success : (ext4IoctlSetflags code env flags inode).2 = none) :
    (ext4IoctlSetflags code env flags inode).1.flags =
      Masked.merge FlagWord.userModifiable flags inode.flags := by
  have outcome := @setflags_outcome code env flags inode
  have stored := (@storeFlags_changed code env flags inode).flags
  have following := @followJournalData_success env effective flags inode.flags loopFlags
    (storeFlags code env flags inode) stored
  generalize ext4IoctlSetflags code env flags inode = result at outcome success ⊢
  cases outcome with
  | refused err => exact absurd success (Option.some_ne_none err)
  | unmarked err admitted => exact absurd success (Option.some_ne_none err)
  | unfollowed between err admitted followed => exact absurd success (Option.some_ne_none err)
  | followed between admitted followed =>
      rw [followed] at following
      have migrated := followExtents_success effective (following rfl) success
      rw [BitVec.or_assoc] at migrated
      exact migrated.trans (congrArg (Masked.merge · flags inode.flags) loop_later)

/-! ## Setting the project -/

/-- Projects are kept, and can be set. -/
def Projects (env : AttrEnv) : Prop :=
  env.test .configQuota = true ∧ env.test .featureProject = true

instance : Decidable (Projects env) :=
  inferInstanceAs (Decidable (env.test .configQuota = true ∧ env.test .featureProject = true))

/-- An inode with another project. -/
def projected (code : InodeCode) (env : AttrEnv) (projid : Nat) (inode : Inode) : Inode :=
  { inode with
    projid := projid
    ctime := env.now
    version := code.inodeIncIversion inode.version }

/-- What ends `ext4_ioctl_setproject` with an error before it sets the project. -/
def projectRefusal (env : AttrEnv) (projid : Nat) (inode : Inode) : Option Errno :=
  if ¬ Projects env then if projid ≠ 0 then some .eopnotsupp else none
  else if !env.test .largeInodes then some .eopnotsupp
  else if projid = inode.projid then none
  else (setprojectRefusal env inode).or
    (if (env.err .dqget).isSome then none else env.err .dquotTransfer)

/-- The ways through `ext4_ioctl_setproject`. -/
inductive SetprojectOutcome (code : InodeCode) (env : AttrEnv) (projid : Nat) (inode : Inode) :
    Inode × Option Errno -> Prop where
  | refused (err : Errno) (failed : projectRefusal env projid inode = some err) :
      SetprojectOutcome code env projid inode (inode, some err)
  | idle (set : Projects env -> projid = inode.projid) (unset : ¬ Projects env -> projid = 0) :
      SetprojectOutcome code env projid inode (inode, none)
  | given (err : Option Errno) (supported : Projects env)
      (admitted : projectRefusal env projid inode = none) :
      SetprojectOutcome code env projid inode (projected code env projid inode, err)

theorem setproject_outcome (projid : Nat) (inode : Inode) :
    SetprojectOutcome code env projid inode (ext4IoctlSetproject code env projid inode) := by
  unfold ext4IoctlSetproject
  by_cases supported : Projects env
  · have present : (env.test .configQuota && env.test .featureProject) = true := by
      rw [supported.1, supported.2]
      rfl
    have refusal : projectRefusal env projid inode =
        if !env.test .largeInodes then some .eopnotsupp
        else if projid = inode.projid then none
        else (setprojectRefusal env inode).or
          (if (env.err .dqget).isSome then none else env.err .dquotTransfer) := by
      rw [projectRefusal, if_neg (not_not.mpr supported)]
    rw [present, Bool.not_true, if_neg Bool.false_ne_true]
    by_cases small : (!env.test .largeInodes) = true
    · rw [if_pos small] at refusal ⊢
      exact .refused .eopnotsupp refusal
    rw [if_neg small] at refusal ⊢
    by_cases same : projid = inode.projid
    · rw [if_pos same]
      exact .idle (fun _ => same) (fun unsupported => absurd supported unsupported)
    rw [if_neg same] at refusal ⊢
    cases stopped : setprojectRefusal env inode with
    | some err =>
        rw [stopped, Option.some_or] at refusal
        exact .refused err refusal
    | none =>
    rw [stopped, Option.none_or] at refusal
    dsimp only
    cases transferred : (if (env.err .dqget).isSome then none else env.err .dquotTransfer) with
    | some err => exact .refused err (refusal.trans transferred)
    | none => exact .given _ supported (refusal.trans transferred)
  · have absent : (!(env.test .configQuota && env.test .featureProject)) = true := by
      rw [Bool.not_eq_true', Bool.eq_false_iff]
      intro present
      exact supported (Bool.and_eq_true_iff.mp present)
    rw [absent, if_pos rfl]
    by_cases other : projid = 0
    · rw [if_neg (not_not.mpr other)]
      exact .idle (fun supported' => absurd supported' supported) (fun _ => other)
    · rw [if_pos other]
      refine .refused .eopnotsupp ?_
      rw [projectRefusal, if_pos supported, if_pos other]

/-! ## One request -/

/-- The flags of a request that `ext4_fileattr_set` passes on. -/
def requested (fa : Fileattr) : FlagWord := fa.flags &&& FlagWord.userModifiable

/-- A request that `ext4_fileattr_set` passes on. -/
structure Checked (env : AttrEnv) (fa : Fileattr) (inode : Inode) : Prop where
  visible : ¬ fa.flags.Has (~~~FlagWord.userVisible)
  maskFlags : ext4MaskFlags inode.fileType (requested fa) = requested fa
  mutable : ext4IoctlCheckImmutable env fa.fsxProjid (requested fa) inode = none

/-- The checks of `ext4_fileattr_set` itself. -/
def uncheckedRefusal (env : AttrEnv) (fa : Fileattr) (inode : Inode) : Option Errno :=
  if fa.flags.Has (~~~FlagWord.userVisible) then some .eopnotsupp
  else if ext4MaskFlags inode.fileType (requested fa) ≠ requested fa then some .eopnotsupp
  else ext4IoctlCheckImmutable env fa.fsxProjid (requested fa) inode

theorem checked_iff {fa : Fileattr} {inode : Inode} :
    uncheckedRefusal env fa inode = none ↔ Checked env fa inode := by
  unfold uncheckedRefusal
  constructor
  · intro passed
    split at passed
    · exact absurd passed (Option.some_ne_none _)
    rename_i visible
    split at passed
    · exact absurd passed (Option.some_ne_none _)
    rename_i maskFlags
    exact ⟨visible, not_not.mp maskFlags, passed⟩
  · rintro ⟨visible, maskFlags, mutable⟩
    rw [if_neg visible, if_neg (not_not.mpr maskFlags), mutable]

/-- What ends a request before it changes anything: a check of its own, one of
`ext4_ioctl_setflags`, or that nothing could be started. -/
def fileattrRefusal (env : AttrEnv) (fa : Fileattr) (inode : Inode) : Option Errno :=
  (uncheckedRefusal env fa inode).or (unstartedSetflags env (requested fa) inode)

theorem fileattrRefusal_of_checked {fa : Fileattr} {inode : Inode}
    (checked : Checked env fa inode) :
    fileattrRefusal env fa inode = unstartedSetflags env (requested fa) inode := by
  rw [fileattrRefusal, checked_iff.mpr checked, Option.none_or]

/-- The ways through `ext4_fileattr_set`. -/
inductive FileattrWay (code : InodeCode) (env : AttrEnv) (fa : Fileattr) (inode : Inode) :
    Inode × Option Errno -> Prop where
  | refused (err : Errno) (failed : uncheckedRefusal env fa inode = some err) :
      FileattrWay code env fa inode (inode, some err)
  | unset (between : Inode) (err : Errno) (checked : Checked env fa inode)
      (outcome : ext4IoctlSetflags code env (requested fa) inode = (between, some err)) :
      FileattrWay code env fa inode (between, some err)
  | set (between : Inode) (checked : Checked env fa inode)
      (outcome : ext4IoctlSetflags code env (requested fa) inode = (between, none)) :
      FileattrWay code env fa inode (ext4IoctlSetproject code env fa.fsxProjid between)

theorem fileattrSet_way (fa : Fileattr) (inode : Inode) :
    FileattrWay code env fa inode (ext4FileattrSet code env fa inode) := by
  unfold ext4FileattrSet
  by_cases hidden : fa.flags.Has (~~~FlagWord.userVisible)
  · rw [if_pos hidden]
    exact .refused .eopnotsupp (by rw [uncheckedRefusal, if_pos hidden])
  rw [if_neg hidden]
  dsimp only
  by_cases unfit : ext4MaskFlags inode.fileType (fa.flags &&& FlagWord.userModifiable) ≠
      fa.flags &&& FlagWord.userModifiable
  · rw [if_pos unfit]
    exact .refused .eopnotsupp (by rw [uncheckedRefusal, if_neg hidden]; exact if_pos unfit)
  rw [if_neg unfit]
  have passed : uncheckedRefusal env fa inode =
      ext4IoctlCheckImmutable env fa.fsxProjid (requested fa) inode := by
    rw [uncheckedRefusal, if_neg hidden]
    exact if_neg unfit
  cases mutable : ext4IoctlCheckImmutable env fa.fsxProjid (fa.flags &&& FlagWord.userModifiable)
    inode with
  | some err => exact .refused err (passed.trans mutable)
  | none =>
  have checked : Checked env fa inode := checked_iff.mp (passed.trans mutable)
  dsimp only
  rcases outcome : ext4IoctlSetflags code env (fa.flags &&& FlagWord.userModifiable) inode with
    ⟨between, err⟩
  cases err with
  | some err => exact .unset between err checked outcome
  | none => exact .set between checked outcome

/-- The mask of an admitted request. -/
structure AdmittedMask (mask : FlagWord) : Prop where
  covers : loopFlags &&& ~~~mask = 0
  within : mask &&& ~~~FlagWord.userModifiable = 0

/-- Everything that a request can do to the flags, the project and the type. -/
inductive FileattrOutcome (env : AttrEnv) (fa : Fileattr) (inode : Inode) :
    Inode × Option Errno -> Prop where
  | refused (err : Errno) (failed : fileattrRefusal env fa inode = some err) :
      FileattrOutcome env fa inode (inode, some err)
  | stored (after : Inode) (err : Option Errno) (mask : FlagWord) (checked : Checked env fa inode)
      (admitted : unstartedSetflags env (requested fa) inode = none)
      (admittedMask : AdmittedMask mask)
      (flags : after.flags = Masked.merge mask (requested fa) inode.flags)
      (fileType : after.fileType = inode.fileType)
      (projid : after.projid = inode.projid ∨ Projects env ∧ after.projid = fa.fsxProjid) :
      FileattrOutcome env fa inode (after, err)

theorem admittedMask_or {part : FlagWord} (later : part &&& ~~~laterFlags = 0) :
    AdmittedMask (loopFlags ||| part) where
  covers := by
    ext position inside
    simp only [BitVec.getElem_and, BitVec.getElem_not, BitVec.getElem_or]
    cases loopFlags[position] <;> simp
  within := by
    have modifiable : FlagWord.userModifiable = loopFlags ||| laterFlags := loop_later.symm
    ext position inside
    have bit : (part &&& ~~~laterFlags)[position] = false := by simp [later]
    rw [BitVec.getElem_and, BitVec.getElem_not] at bit
    rw [modifiable]
    simp only [BitVec.getElem_and, BitVec.getElem_not, BitVec.getElem_or]
    cases loopFlags[position]
    · simpa using bit
    · simp

theorem fileattrSet_outcome (lawful : env.Lawful) (fa : Fileattr) (inode : Inode) :
    FileattrOutcome env fa inode (ext4FileattrSet code env fa inode) := by
  have way := @fileattrSet_way code env fa inode
  have setflags := @setflags_changed code env lawful (requested fa) inode
  generalize ext4FileattrSet code env fa inode = result at way ⊢
  cases way with
  | refused err failed =>
      exact .refused err (by rw [fileattrRefusal, failed, Option.some_or])
  | unset between err checked outcome =>
      rw [outcome] at setflags
      rcases setflags with ⟨err, unstarted, same⟩ | ⟨admitted, part, later, changed⟩
      · rw [same]
        exact .refused err ((fileattrRefusal_of_checked checked).trans unstarted)
      · exact .stored _ _ _ checked admitted (admittedMask_or later) changed.flags changed.fileType
          (Or.inl changed.projid)
  | set between checked outcome =>
      rw [outcome] at setflags
      rcases setflags with ⟨err, -, same⟩ | ⟨admitted, part, later, changed⟩
      · exact absurd (congrArg Prod.snd same).symm (Option.some_ne_none err)
      have project := @setproject_outcome code env fa.fsxProjid between
      generalize ext4IoctlSetproject code env fa.fsxProjid between = result at project ⊢
      cases project with
      | refused err =>
          exact .stored _ _ _ checked admitted (admittedMask_or later) changed.flags
            changed.fileType (Or.inl changed.projid)
      | idle set unset =>
          exact .stored _ _ _ checked admitted (admittedMask_or later) changed.flags
            changed.fileType (Or.inl changed.projid)
      | given err supported =>
          exact .stored _ _ _ checked admitted (admittedMask_or later) changed.flags
            changed.fileType (Or.inr ⟨supported, rfl⟩)

/-- A request that fails a check, or for which nothing could be started, replies that
error and leaves the inode as it is.  Any other sets the flags of a mask that has all
flags of the loop and only flags that users may set, and it keeps the project or sets
it, where projects can be set. -/
theorem fileattr_refused_or_stored (lawful : env.Lawful) (fa : Fileattr) (inode : Inode) :
    (forall err, fileattrRefusal env fa inode = some err ->
        ext4FileattrSet code env fa inode = (inode, some err)) ∧
      (fileattrRefusal env fa inode = none ->
        exists mask, AdmittedMask mask ∧
          (ext4FileattrSet code env fa inode).1.flags =
            Masked.merge mask (requested fa) inode.flags ∧
          (ext4FileattrSet code env fa inode).1.fileType = inode.fileType ∧
          ((ext4FileattrSet code env fa inode).1.projid = inode.projid ∨
            Projects env ∧ (ext4FileattrSet code env fa inode).1.projid = fa.fsxProjid)) := by
  have outcome := @fileattrSet_outcome code env lawful fa inode
  generalize ext4FileattrSet code env fa inode = result at outcome ⊢
  cases outcome with
  | refused known failed =>
      constructor
      · intro err same
        rw [Option.some.inj (failed.symm.trans same)]
      · exact fun admitted => absurd (failed.symm.trans admitted) (Option.some_ne_none known)
  | stored after reply mask checked admitted admittedMask flags fileType projid =>
      constructor
      · intro err failed
        rw [fileattrRefusal_of_checked checked, admitted] at failed
        cases failed
      · exact fun _ => ⟨mask, admittedMask, flags, fileType, projid⟩

/-- The flags are set and the project is not, since no handle could be had for it. -/
theorem fileattr_refused_or_stored_sample :
    let result := ext4FileattrSet inodeCode (attrEnv [.projectJournalStart])
      ⟨FlagWord.nodump ||| FlagWord.extents, 7⟩ (sampleFile 8)
    (exists mask, AdmittedMask mask ∧
        result.1.flags = Masked.merge mask
          (requested ⟨FlagWord.nodump ||| FlagWord.extents, 7⟩) (sampleFile 8).flags) ∧
      result.2 = some .eio ∧ result.1.flags = FlagWord.nodump ||| FlagWord.extents ∧
      result.1.projid = 0 := by
  refine ⟨?_, by decide, by decide, by decide⟩
  rcases (fileattr_refused_or_stored (attrEnv_lawful [.projectJournalStart])
    ⟨FlagWord.nodump ||| FlagWord.extents, 7⟩ (sampleFile 8)).2 (by decide) with
    ⟨mask, admittedMask, flags, -⟩
  exact ⟨mask, admittedMask, flags⟩

theorem admittedMask_all : AdmittedMask FlagWord.userModifiable := ⟨by decide, by decide⟩

/-- What a successful request leaves.  The mask is full where the operations that
follow the loop are effective. -/
structure FileattrSuccess (env : AttrEnv) (fa : Fileattr) (inode after : Inode)
    (mask : FlagWord) : Prop where
  checked : Checked env fa inode
  admitted : unstartedSetflags env (requested fa) inode = none
  admittedMask : AdmittedMask mask
  full : env.Effective -> mask = FlagWord.userModifiable
  flags : after.flags = Masked.merge mask (requested fa) inode.flags
  fileType : after.fileType = inode.fileType
  projid_set : Projects env -> after.projid = fa.fsxProjid
  projid_unset : ¬ Projects env -> fa.fsxProjid = 0 ∧ after.projid = inode.projid

theorem setflags_success_mask (lawful : env.Lawful) {flags : FlagWord} {inode between : Inode}
    (outcome : ext4IoctlSetflags code env flags inode = (between, none)) :
    exists mask, AdmittedMask mask ∧ (env.Effective -> mask = FlagWord.userModifiable) ∧
      between.flags = Masked.merge mask flags inode.flags := by
  have setflags := @setflags_changed code env lawful flags inode
  rw [outcome] at setflags
  rcases setflags with ⟨err, -, same⟩ | ⟨-, part, later, changed⟩
  · exact absurd (congrArg Prod.snd same).symm (Option.some_ne_none err)
  by_cases effective : env.Effective
  · have through := @setflags_success code env effective flags inode (by rw [outcome])
    rw [outcome] at through
    exact ⟨FlagWord.userModifiable, admittedMask_all, fun _ => rfl, through⟩
  · exact ⟨loopFlags ||| part, admittedMask_or later, fun full => absurd full effective,
      changed.flags⟩

theorem fileattr_success (lawful : env.Lawful) {fa : Fileattr} {inode : Inode}
    (success : (ext4FileattrSet code env fa inode).2 = none) :
    exists mask, FileattrSuccess env fa inode (ext4FileattrSet code env fa inode).1 mask := by
  have way := @fileattrSet_way code env fa inode
  have setflags := @setflags_changed code env lawful (requested fa) inode
  generalize ext4FileattrSet code env fa inode = result at way success ⊢
  cases way with
  | refused err => exact absurd success (Option.some_ne_none err)
  | unset between err checked outcome => exact absurd success (Option.some_ne_none err)
  | set between checked outcome =>
      rcases setflags_success_mask lawful outcome with ⟨mask, admittedMask, full, flags⟩
      refine ⟨mask, ?_⟩
      rw [outcome] at setflags
      rcases setflags with ⟨err, -, same⟩ | ⟨admitted, part, later, changed⟩
      · exact absurd (congrArg Prod.snd same).symm (Option.some_ne_none err)
      have project := @setproject_outcome code env fa.fsxProjid between
      generalize ext4IoctlSetproject code env fa.fsxProjid between = result at project success ⊢
      cases project with
      | refused err => exact absurd success (Option.some_ne_none err)
      | idle set unset =>
          exact ⟨checked, admitted, admittedMask, full, flags, changed.fileType,
            fun projects => (set projects).symm,
            fun unsupported => ⟨unset unsupported, changed.projid⟩⟩
      | given err supported =>
          exact ⟨checked, admitted, admittedMask, full, flags, changed.fileType, fun _ => rfl,
            fun unsupported => absurd supported unsupported⟩

end

end Metadata
end Evfs
