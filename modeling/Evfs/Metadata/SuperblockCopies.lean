import Evfs.Ext4.Superblock

namespace Evfs
namespace Metadata

open Foundation Ext4

/-!
# The copies of the superblock

An update writes each copy at most once, with the callback and a new checksum,
or leaves it alone.  So after any run of updates, whatever failed in them, a copy
has gone through a selection of the updates in their order.  A backup whose
checksum was bad at the beginning has gone through none of them.

The stores of an update stand in its record: the primary, then backups of a first
part of the list, in its order, each entry at most once.  A backup of that part is
left out only for a reason, and an update that reports success has had the whole list.
-/

section

variable (code : SuperblockCode) (features : Features)

/-- What an update stores in a copy. -/
def stamp (callback : SbCallback) (es : SuperBlock) : SuperBlock :=
  if ext4HasMetadataCsum features then
    { callback.apply es with checksum := code.ext4SuperblockCsum (callback.apply es) }
  else callback.apply es

/-- The check of a copy before it is written. -/
def checksumRight (es : SuperBlock) : Bool :=
  !(ext4HasMetadataCsum features && decide (es.checksum ≠ code.ext4SuperblockCsum es))

/-- One call of `ext4_update_superblocks_fn`. -/
structure SbCall where
  env : IoctlEnv
  callback : SbCallback

/-- An update as a transition, without its reply. -/
def updateStep (sbs : Superblocks) (call : SbCall) : Superblocks :=
  (updateSuperblocksFn code call.env call.callback.apply sbs).1

def updateReply (sbs : Superblocks) (call : SbCall) : Int :=
  (updateSuperblocksFn code call.env call.callback.apply sbs).2

variable {code features}

theorem intact_eq (env : IoctlEnv) (es : SuperBlock) :
    intact code env es = checksumRight code env.features es := rfl

/-- A callback writes its field whatever the checksum is. -/
theorem apply_checksum (callback : SbCallback) (es : SuperBlock) (value : UInt32) :
    callback.apply { es with checksum := value } =
      { callback.apply es with checksum := value } := by
  cases callback <;> rfl

theorem apply_apply (callback : SbCallback) (es : SuperBlock) :
    callback.apply (callback.apply es) = callback.apply es := by
  cases callback <;> rfl

section Lawful

variable (lawful : code.Lawful features)
include lawful

theorem csumSet_apply (callback : SbCallback) (es : SuperBlock) :
    code.ext4SuperblockCsumSet (callback.apply es) = stamp code features callback es :=
  lawful.csumSet_eq _

theorem checksumRight_stamp (callback : SbCallback) (es : SuperBlock) :
    checksumRight code features (stamp code features callback es) = true := by
  unfold checksumRight stamp
  cases ext4HasMetadataCsum features with
  | false => rfl
  | true =>
      simp only [if_true, lawful.csum_checksum]
      simp

/-- A copy that is written twice by one update is as if it was written once. -/
theorem stamp_stamp (callback : SbCallback) (es : SuperBlock) :
    stamp code features callback (stamp code features callback es) =
      stamp code features callback es := by
  unfold stamp
  cases ext4HasMetadataCsum features with
  | false => exact apply_apply callback es
  | true => simp only [if_true, apply_checksum, apply_apply, lawful.csum_checksum]

end Lawful

/-! ## One group -/

section Update

variable {env : IoctlEnv} {callback : SbCallback}

/-- Some operation on a backup reports `EFSBADCRC`, which the loop passes over. -/
def ReportsBadCrc (env : IoctlEnv) (group : Nat) : Prop :=
  env.err (.backupRead group) = some .efsbadcrc ∨
    env.err (.backupWriteAccess group) = some .efsbadcrc ∨
    env.err (.backupDirty group) = some .efsbadcrc ∨
    env.err (.backupSync group) = some .efsbadcrc

instance (env : IoctlEnv) (group : Nat) : Decidable (ReportsBadCrc env group) :=
  inferInstanceAs (Decidable (_ ∨ _ ∨ _ ∨ _))

/-- The groups in which an update finds a backup that it can write. -/
structure Writable (code : SuperblockCode) (env : IoctlEnv) (sbs : Superblocks)
    (group : Nat) : Prop where
  secondary : group ≠ env.primaryGroup
  present : env.test (.hasSuper group) = true
  right : checksumRight code env.features (sbs.backup group) = true
  quiet : ¬ ReportsBadCrc env group

/-- A turn that succeeds has written the group. -/
theorem updateBackupSb_ok {handle : Bool} {group count : Nat} {sbs : Superblocks}
    (writable : Writable code env sbs group)
    (ok : (updateBackupSb code env callback.apply handle group sbs).2 = .ok count) :
    (updateBackupSb code env callback.apply handle group sbs).1.backup group =
      stamp code env.features callback (sbs.backup group) := by
  have outcome := updateBackupSb_outcome code env callback.apply handle group sbs
  have right := writable.right
  rw [← intact_eq] at right
  generalize updateBackupSb code env callback.apply handle group sbs = result at ok outcome ⊢
  cases outcome with
  | absent missing =>
      rw [writable.present] at missing
      cases missing
  | unread err failed => cases ok
  | denied err journalled failed => cases ok
  | skipped bad =>
      rw [right] at bad
      cases bad
  | undirtied err journalled good failed => cases ok
  | written good => exact Function.update_self _ _ _

/-- The operations on one backup that can fail. -/
def backupOperations (group : Nat) : List Extern :=
  [.backupRead group, .backupWriteAccess group, .backupDirty group, .backupSync group]

/-- The error of a turn is that of an operation on its group. -/
theorem updateBackupSb_error {handle : Bool} {group : Nat} {sbs : Superblocks} {err : Errno}
    (error : (updateBackupSb code env callback.apply handle group sbs).2 = .error err) :
    exists operation, operation ∈ backupOperations group ∧ env.err operation = some err := by
  have outcome := updateBackupSb_outcome code env callback.apply handle group sbs
  generalize updateBackupSb code env callback.apply handle group sbs = result at error outcome
  unfold backupOperations
  cases outcome with
  | absent missing => cases error
  | unread other failed =>
      rw [Except.error.inj error] at failed
      exact ⟨.backupRead group, by simp, failed⟩
  | denied other journalled failed =>
      rw [Except.error.inj error] at failed
      exact ⟨.backupWriteAccess group, by simp, failed⟩
  | skipped bad => cases error
  | undirtied other journalled good failed =>
      rw [Except.error.inj error] at failed
      exact ⟨.backupDirty group, by simp, failed⟩
  | written good =>
      dsimp only at error
      cases sync : env.err (.backupSync group) with
      | none =>
          rw [sync] at error
          cases error
      | some other =>
          rw [sync] at error
          rw [Except.error.inj error] at sync
          exact ⟨.backupSync group, by simp, sync⟩

theorem reportsBadCrc_of_error {handle : Bool} {group : Nat} {sbs : Superblocks}
    (error : (updateBackupSb code env callback.apply handle group sbs).2 = .error .efsbadcrc) :
    ReportsBadCrc env group := by
  rcases updateBackupSb_error error with ⟨operation, member, failed⟩
  unfold backupOperations at member
  simp only [List.mem_cons, List.not_mem_nil, or_false] at member
  rcases member with rfl | rfl | rfl | rfl
  · exact Or.inl failed
  · exact Or.inr (Or.inl failed)
  · exact Or.inr (Or.inr (Or.inl failed))
  · exact Or.inr (Or.inr (Or.inr failed))

/-! ## The loop -/

/-- The copies that some operations store to, in their order. -/
def storedTo (ops : List SbOp) : List SbCopy :=
  ops.filterMap fun op =>
    match op with
    | .store copy => some copy
    | _ => none

theorem storedTo_append (first second : List SbOp) :
    storedTo (first ++ second) = storedTo first ++ storedTo second := List.filterMap_append

/-- An update can come to store to the backup of the group. -/
def storable (code : SuperblockCode) (env : IoctlEnv) (sbs : Superblocks) (group : Nat) : Bool :=
  decide (group ≠ env.primaryGroup) && env.test (.hasSuper group) &&
    checksumRight code env.features (sbs.backup group) && (env.err (.backupRead group)).isNone

/-- It cannot fail to, once it has turned to the group. -/
def assured (code : SuperblockCode) (env : IoctlEnv) (sbs : Superblocks) (group : Nat) : Bool :=
  storable code env sbs group && (env.err (.backupWriteAccess group)).isNone

/-- The listed groups have had their turn, and the backups of `written` have been
stored to: those that are assured, in the order of the list, perhaps others that
are storable, and nothing else. -/
structure Wrote (code : SuperblockCode) (env : IoctlEnv) (callback : SbCallback)
    (groups written : List Nat) (before after : Superblocks) : Prop where
  primary : after.primary = before.primary
  resizing : after.resizing = before.resizing
  stores : storedTo after.trace = storedTo before.trace ++ written.map SbCopy.backup
  least : (groups.filter (assured code env before)).Sublist written
  most : written.Sublist (groups.filter (storable code env before))
  backup : forall group, after.backup group =
    if group ∈ written then stamp code env.features callback (before.backup group)
    else before.backup group

/-- Operations that store to no copy, while a group that is not assured has its turn. -/
theorem wrote_nothing {group : Nat} {sbs : Superblocks} {ops : List SbOp}
    (refused : assured code env sbs group = false) (quiet : storedTo ops = []) :
    Wrote code env callback [group] [] sbs (sbs.log ops) where
  primary := rfl
  resizing := rfl
  stores := by rw [Superblocks.log, storedTo_append, quiet]; rfl
  least := by rw [List.filter_cons_of_neg (by rw [refused]; exact Bool.false_ne_true)]; rfl
  most := List.nil_sublist _
  backup := fun _ => rfl

theorem wrote_one {group : Nat} {sbs : Superblocks} {ops : List SbOp}
    (stores : storable code env sbs group = true) (one : storedTo ops = [.backup group]) :
    Wrote code env callback [group] [group] sbs
      { sbs with
        backup := Function.update sbs.backup group
          (stamped code env callback.apply (sbs.backup group))
        trace := sbs.trace ++ ops } where
  primary := rfl
  resizing := rfl
  stores := by rw [storedTo_append, one]; rfl
  least := List.filter_sublist
  most := by rw [List.filter_cons_of_pos stores]; rfl
  backup := by
    intro other
    by_cases same : other = group
    · subst same
      rw [if_pos List.mem_cons_self]
      exact Function.update_self _ _ _
    · rw [if_neg (fun listed => same (List.mem_singleton.mp listed))]
      exact Function.update_of_ne same _ _

theorem Wrote.log {groups written : List Nat} {before after : Superblocks} {ops : List SbOp}
    (wrote : Wrote code env callback groups written before after) (quiet : storedTo ops = []) :
    Wrote code env callback groups written before (after.log ops) := by
  refine { wrote with stores := ?_ }
  rw [Superblocks.log, storedTo_append, quiet, List.append_nil]
  exact wrote.stores

/-- A turn keeps a good checksum good and leaves a bad one alone. -/
theorem Wrote.checksumRight_eq (lawful : code.Lawful env.features) {groups written : List Nat}
    {before after : Superblocks} (wrote : Wrote code env callback groups written before after)
    (group : Nat) :
    checksumRight code env.features (after.backup group) =
      checksumRight code env.features (before.backup group) := by
  rw [wrote.backup group]
  by_cases listed : group ∈ written
  · have able := (List.mem_filter.mp (wrote.most.subset listed)).2
    simp only [storable, Bool.and_eq_true] at able
    rw [if_pos listed, checksumRight_stamp lawful, able.1.2]
  · rw [if_neg listed]

theorem Wrote.storable_eq (lawful : code.Lawful env.features) {groups written : List Nat}
    {before after : Superblocks} (wrote : Wrote code env callback groups written before after) :
    storable code env after = storable code env before := by
  funext group
  unfold storable
  rw [wrote.checksumRight_eq lawful]

theorem Wrote.assured_eq (lawful : code.Lawful env.features) {groups written : List Nat}
    {before after : Superblocks} (wrote : Wrote code env callback groups written before after) :
    assured code env after = assured code env before := by
  funext group
  unfold assured
  rw [wrote.storable_eq lawful]

/-- A group can come up twice, and is then written as if once. -/
theorem Wrote.trans (lawful : code.Lawful env.features) {first second early late : List Nat}
    {before middle after : Superblocks} (wrote : Wrote code env callback first early before middle)
    (later : Wrote code env callback second late middle after) :
    Wrote code env callback (first ++ second) (early ++ late) before after where
  primary := later.primary.trans wrote.primary
  resizing := later.resizing.trans wrote.resizing
  stores := by
    rw [later.stores, wrote.stores, List.map_append, List.append_assoc]
  least := by
    have rest := later.least
    rw [wrote.assured_eq lawful] at rest
    rw [List.filter_append]
    exact wrote.least.append rest
  most := by
    have rest := later.most
    rw [wrote.storable_eq lawful] at rest
    rw [List.filter_append]
    exact wrote.most.append rest
  backup := by
    intro group
    rw [later.backup group, wrote.backup group]
    by_cases listed : group ∈ early <;> by_cases again : group ∈ late
    · simp only [List.mem_append, listed, again, if_true, or_self, stamp_stamp lawful]
    · simp only [List.mem_append, listed, again, if_true, if_false, or_false]
    · simp only [List.mem_append, listed, again, if_true, if_false, false_or]
    · simp only [List.mem_append, listed, again, if_false, or_self]

theorem storable_iff {group : Nat} {sbs : Superblocks} :
    storable code env sbs group = true ↔
      group ≠ env.primaryGroup ∧ env.test (.hasSuper group) = true ∧
        intact code env (sbs.backup group) = true ∧ env.err (.backupRead group) = none := by
  unfold storable
  rw [intact_eq, Bool.and_eq_true, Bool.and_eq_true, Bool.and_eq_true, decide_eq_true_iff,
    Option.isNone_iff_eq_none, and_assoc, and_assoc]

/-- The turn of a group other than that of the primary. -/
theorem updateBackupSb_wrote {handle : Bool} {group : Nat} {sbs middle : Superblocks}
    {outcome : Except Errno Nat} (other : group ≠ env.primaryGroup)
    (turn : updateBackupSb code env callback.apply handle group sbs = (middle, outcome)) :
    exists written, Wrote code env callback [group] written sbs middle := by
  have cases := updateBackupSb_outcome code env callback.apply handle group sbs
  have unable : ¬ (env.test (.hasSuper group) = true ∧
      intact code env (sbs.backup group) = true ∧ env.err (.backupRead group) = none) ->
        assured code env sbs group = false := by
    intro missing
    unfold assured
    rw [Bool.eq_false_iff.mpr (fun able => missing (storable_iff.mp able).2), Bool.false_and]
  rw [turn] at cases
  cases cases with
  | absent missing =>
      have wrote := @wrote_nothing code env callback group sbs []
        (unable fun able => by rw [missing] at able; exact Bool.false_ne_true able.1) rfl
      rw [Superblocks.log, List.append_nil] at wrote
      exact ⟨[], wrote⟩
  | unread err failed =>
      exact ⟨[], wrote_nothing (unable fun able => by rw [failed] at able; cases able.2.2) rfl⟩
  | denied err journalled failed =>
      refine ⟨[], wrote_nothing ?_ rfl⟩
      unfold assured
      rw [failed]
      exact Bool.and_false _
  | skipped bad =>
      refine ⟨[], wrote_nothing (unable fun able => ?_) ?_⟩
      · rw [bad] at able
        exact Bool.false_ne_true able.2.1
      · cases handle <;> rfl
  | undirtied err journalled good failed present read =>
      exact ⟨[group], wrote_one (storable_iff.mpr ⟨other, present, good, read⟩) rfl⟩
  | written good present read =>
      refine ⟨[group], wrote_one (storable_iff.mpr ⟨other, present, good, read⟩) ?_⟩
      cases handle <;> rfl

theorem wrote_own {sbs : Superblocks} :
    Wrote code env callback [env.primaryGroup] [] sbs sbs := by
  have wrote := @wrote_nothing code env callback env.primaryGroup sbs []
    (by simp [assured, storable]) rfl
  rwa [Superblocks.log, List.append_nil] at wrote

/-- Whatever fails, a first part of the list has its turn. -/
theorem updateBackupSbs_wrote (lawful : code.Lawful env.features) (groups : List Nat)
    (handle : Bool) (count : Nat) (sbs : Superblocks) :
    exists done rest written, groups = done ++ rest ∧
      ((updateBackupSbs code env callback.apply groups handle count sbs).2.1 = none ->
        rest = []) ∧
      Wrote code env callback done written sbs
        (updateBackupSbs code env callback.apply groups handle count sbs).1 := by
  induction groups generalizing handle count sbs with
  | nil =>
      exact ⟨[], [], [], rfl, fun _ => rfl, rfl, rfl, (List.append_nil _).symm, List.nil_sublist _,
        List.nil_sublist _, fun _ => rfl⟩
  | cons group rest inductionHypothesis =>
      have outcome := updateBackupSbs_cons code env callback.apply group rest handle count sbs
      generalize updateBackupSbs code env callback.apply (group :: rest) handle count sbs =
        result at outcome ⊢
      have goesOn : forall {middle : Superblocks} {early : List Nat} (handle : Bool) (count : Nat),
          Wrote code env callback [group] early sbs middle ->
          exists done later written, group :: rest = done ++ later ∧
            ((updateBackupSbs code env callback.apply rest handle count middle).2.1 = none ->
              later = []) ∧
            Wrote code env callback done written sbs
              (updateBackupSbs code env callback.apply rest handle count middle).1 := by
        intro middle early handle count wrote
        rcases inductionHypothesis handle count middle with
          ⟨done, later, written, split, all, others⟩
        exact ⟨group :: done, later, early ++ written, congrArg (List.cons group) split, all,
          wrote.trans lawful others⟩
      cases outcome with
      | primary own =>
          subst own
          exact goesOn handle count wrote_own
      | passed other middle turn =>
          rcases updateBackupSb_wrote other turn with ⟨early, wrote⟩
          exact goesOn handle count wrote
      | failed other middle err turn reported =>
          rcases updateBackupSb_wrote other turn with ⟨early, wrote⟩
          exact ⟨[group], rest, early, rfl, fun none => absurd none (Option.some_ne_none err),
            wrote⟩
      | counted other middle more turn room =>
          rcases updateBackupSb_wrote other turn with ⟨early, wrote⟩
          exact goesOn handle (count + more) wrote
      | stopped other middle more turn journalled stop =>
          rcases updateBackupSb_wrote other turn with ⟨early, wrote⟩
          exact goesOn false (count + more) (wrote.log rfl)
      | unstopped other middle more err turn journalled stop =>
          rcases updateBackupSb_wrote other turn with ⟨early, wrote⟩
          exact ⟨[group], rest, early, rfl, fun none => absurd none (Option.some_ne_none err),
            wrote.log rfl⟩

/-- A backup that can be written stays so while groups have their turn. -/
theorem Writable.of_wrote (lawful : code.Lawful env.features) {groups written : List Nat}
    {before after : Superblocks} {group : Nat} (writable : Writable code env before group)
    (wrote : Wrote code env callback groups written before after) :
    Writable code env after group :=
  ⟨writable.secondary, writable.present,
    (wrote.checksumRight_eq lawful group).trans writable.right, writable.quiet⟩

/-- What has been written once is not changed by the turns that follow. -/
theorem Wrote.keeps (lawful : code.Lawful env.features) {groups written : List Nat}
    {before after : Superblocks} (wrote : Wrote code env callback groups written before after)
    {group : Nat} {es : SuperBlock}
    (stamped : before.backup group = stamp code env.features callback es) :
    after.backup group = stamp code env.features callback es := by
  rw [wrote.backup group, stamped, stamp_stamp lawful, ite_self]

/-- A turn of a group on the way to its own. -/
theorem Wrote.stamped (lawful : code.Lawful env.features) {groups written : List Nat}
    {before after : Superblocks} (wrote : Wrote code env callback groups written before after)
    (group : Nat) :
    stamp code env.features callback (after.backup group) =
      stamp code env.features callback (before.backup group) := by
  rw [wrote.backup group]
  split
  · exact stamp_stamp lawful callback _
  · rfl

/-- A loop without an error has written every backup of its list that it could. -/
theorem updateBackupSbs_all (lawful : code.Lawful env.features) {groups : List Nat}
    {handle : Bool} {count : Nat} {sbs : Superblocks}
    (success : (updateBackupSbs code env callback.apply groups handle count sbs).2.1 = none)
    {group : Nat} (listed : group ∈ groups) (writable : Writable code env sbs group) :
    (updateBackupSbs code env callback.apply groups handle count sbs).1.backup group =
      stamp code env.features callback (sbs.backup group) := by
  induction groups generalizing handle count sbs with
  | nil => exact absurd listed List.not_mem_nil
  | cons head rest inductionHypothesis =>
      have outcome := updateBackupSbs_cons code env callback.apply head rest handle count sbs
      generalize updateBackupSbs code env callback.apply (head :: rest) handle count sbs =
        result at outcome success ⊢
      have elsewhere : forall {middle : Superblocks} {written : List Nat} (handle : Bool)
          (count : Nat), Wrote code env callback [head] written sbs middle ->
          (group = head -> middle.backup group =
            stamp code env.features callback (sbs.backup group)) ->
          (updateBackupSbs code env callback.apply rest handle count middle).2.1 = none ->
          (updateBackupSbs code env callback.apply rest handle count middle).1.backup group =
            stamp code env.features callback (sbs.backup group) := by
        intro middle written handle count wrote atHead success
        rcases List.mem_cons.mp listed with same | later
        · rcases updateBackupSbs_wrote lawful rest handle count middle with
            ⟨done, _, _, _, _, others⟩
          exact others.keeps lawful (atHead same)
        · rw [inductionHypothesis success later (writable.of_wrote lawful wrote)]
          exact wrote.stamped lawful group
      have ok : forall {middle : Superblocks} {count : Nat},
          updateBackupSb code env callback.apply handle head sbs = (middle, .ok count) ->
          group = head -> middle.backup group =
            stamp code env.features callback (sbs.backup group) := by
        intro middle count turn same
        subst same
        have stored := @updateBackupSb_ok code env callback handle group count sbs writable
          (by rw [turn])
        rwa [turn] at stored
      cases outcome with
      | primary own =>
          subst own
          exact elsewhere handle count wrote_own
            (fun same => absurd same writable.secondary) success
      | passed other middle turn =>
          rcases updateBackupSb_wrote other turn with ⟨written, wrote⟩
          refine elsewhere handle count wrote (fun same => ?_) success
          subst same
          exact absurd (reportsBadCrc_of_error (by rw [turn])) writable.quiet
      | failed other middle err turn reported => cases success
      | counted other middle more turn room =>
          rcases updateBackupSb_wrote other turn with ⟨written, wrote⟩
          exact elsewhere handle (count + more) wrote (ok turn) success
      | stopped other middle more turn journalled stop =>
          rcases updateBackupSb_wrote other turn with ⟨written, wrote⟩
          exact elsewhere false (count + more) (wrote.log rfl)
            (fun same => show middle.backup group = _ from ok turn same) success
      | unstopped other middle more err turn journalled stop => cases success

/-- The error of the loop is that of an operation. -/
theorem updateBackupSbs_error {groups : List Nat} {handle : Bool} {count : Nat}
    {sbs : Superblocks} {err : Errno}
    (error : (updateBackupSbs code env callback.apply groups handle count sbs).2.1 = some err) :
    exists operation, env.err operation = some err := by
  induction groups generalizing handle count sbs with
  | nil => cases error
  | cons group rest inductionHypothesis =>
      have outcome := updateBackupSbs_cons code env callback.apply group rest handle count sbs
      generalize updateBackupSbs code env callback.apply (group :: rest) handle count sbs =
        result at outcome error
      cases outcome with
      | primary own => exact inductionHypothesis error
      | passed other middle turn => exact inductionHypothesis error
      | failed other middle reported turn =>
          have turned := @updateBackupSb_error code env callback handle group sbs reported
            (by rw [turn])
          rcases turned with ⟨operation, -, failed⟩
          exact ⟨operation, failed.trans error⟩
      | counted other middle more turn room => exact inductionHypothesis error
      | stopped other middle more turn journalled stop => exact inductionHypothesis error
      | unstopped other middle more reported turn journalled stop =>
          exact ⟨.journalStop true, stop.trans error⟩

/-! ## One update -/

/-- The reply at the label `out`: the error so far, or that of `ext4_journal_stop`. -/
theorem superblocksOut_failed {err : Option Errno} {handle : Bool} {sbs : Superblocks}
    (failed : (superblocksOut env err handle sbs).2 ≠ 0)
    (reported : forall known, err = some known ->
      exists operation, env.err operation = some known) :
    exists operation known, env.err operation = some known ∧
      (superblocksOut env err handle sbs).2 = known.code := by
  unfold superblocksOut at failed ⊢
  dsimp only at failed ⊢
  cases err with
  | some known =>
      rcases reported known rfl with ⟨operation, found⟩
      exact ⟨operation, known, found, rfl⟩
  | none =>
      rw [Option.none_or] at failed ⊢
      cases handle with
      | false => exact absurd rfl failed
      | true =>
          rw [if_pos rfl] at failed ⊢
          cases stop : env.err (.journalStop false) with
          | none =>
              rw [stop] at failed
              exact absurd rfl failed
          | some known => exact ⟨.journalStop false, known, stop, rfl⟩

theorem err_of_superblocksOut {err : Option Errno} {handle : Bool} {sbs : Superblocks}
    (success : (superblocksOut env err handle sbs).2 = 0) : err = none :=
  (Option.or_eq_none_iff.mp ((Errno.result_eq_zero_iff _).mp success)).1

theorem updatePrimarySb_error {sbs : Superblocks} {err : Errno}
    (error : (updatePrimarySb code env callback.apply sbs).2 = some err) :
    exists operation, env.err operation = some err := by
  have outcome := updatePrimarySb_outcome code env callback.apply sbs
  generalize updatePrimarySb code env callback.apply sbs = result at outcome error
  cases outcome with
  | denied other failed => exact ⟨.primaryWriteAccess, failed.trans error⟩
  | undirtied other granted failed => exact ⟨.primaryDirty, failed.trans error⟩
  | synced granted => exact ⟨.primarySync, error⟩

/-- The primary once an update has got past its handle. -/
theorem updatePrimarySb_stores (lawful : code.Lawful env.features)
    (granted : env.err .primaryWriteAccess = none) (sbs : Superblocks) :
    let after := (updatePrimarySb code env callback.apply sbs).1
    after.primary = stamp code env.features callback sbs.primary ∧ after.backup = sbs.backup ∧
      storedTo after.trace = storedTo sbs.trace ++ [.primary] := by
  have outcome := updatePrimarySb_outcome code env callback.apply sbs
  dsimp only
  generalize updatePrimarySb code env callback.apply sbs = result at outcome ⊢
  cases outcome with
  | denied err failed =>
      rw [granted] at failed
      cases failed
  | undirtied err _ failed =>
      exact ⟨csumSet_apply lawful callback _, rfl, storedTo_append _ _⟩
  | synced _ => exact ⟨csumSet_apply lawful callback _, rfl, storedTo_append _ _⟩

/-- The copies of an update that gets its handle and its write access. -/
structure Admitted (code : SuperblockCode) (env : IoctlEnv) (callback : SbCallback)
    (before : Superblocks) (result : Superblocks × Int) : Prop where
  primary : result.1.primary = stamp code env.features callback before.primary
  resizing : result.1.resizing = false
  /-- The primary is stored to, then backups of a first part of the list, which on
  success is all of it.  The stores stand in the order of the list. -/
  backups : exists done rest written, env.backupGroups = done ++ rest ∧
    (result.2 = 0 -> rest = []) ∧
    storedTo result.1.trace =
      storedTo before.trace ++ .primary :: written.map SbCopy.backup ∧
    (done.filter (assured code env before)).Sublist written ∧
    written.Sublist (done.filter (storable code env before)) ∧
    forall group, result.1.backup group =
      if group ∈ written then stamp code env.features callback (before.backup group)
      else before.backup group
  complete : result.2 = 0 -> forall group, group ∈ env.backupGroups ->
    Writable code env before group ->
      result.1.backup group = stamp code env.features callback (before.backup group)
  failure : result.2 ≠ 0 -> exists operation err, env.err operation = some err ∧
    result.2 = err.code

theorem storedTo_superblocksOut (err : Option Errno) (handle : Bool) (sbs : Superblocks) :
    storedTo (superblocksOut env err handle sbs).1.trace = storedTo sbs.trace := by
  unfold superblocksOut Superblocks.log
  dsimp only
  rw [storedTo_append, storedTo_append]
  cases handle <;> simp [storedTo]

theorem update_of_admitted (lawful : code.Lawful env.features) {sbs : Superblocks}
    (admitted : ¬ UpdateRefused env sbs) :
    Admitted code env callback sbs (updateSuperblocksFn code env callback.apply sbs) := by
  have granted : env.err .primaryWriteAccess = none := by
    refine Decidable.byContradiction fun denied => ?_
    exact admitted (Or.inr (Or.inr denied))
  have stores := @updatePrimarySb_stores code env callback lawful granted (openedUpdate sbs)
  have opened : storedTo (openedUpdate sbs).trace = storedTo sbs.trace :=
    (storedTo_append _ _).trans (List.append_nil _)
  rw [updateSuperblocksFn_of_admitted code env callback.apply admitted]
  rcases primary : updatePrimarySb code env callback.apply (openedUpdate sbs) with ⟨middle, err⟩
  rw [primary, opened] at stores
  rcases stores with ⟨stored, kept, trace⟩
  have sameBackups : middle.backup = sbs.backup := kept
  cases err with
  | some err =>
      dsimp only
      have failed : (superblocksOut env (some err) true middle).2 ≠ 0 :=
        fun success => absurd (err_of_superblocksOut success) (Option.some_ne_none err)
      refine ⟨stored, rfl, ⟨[], env.backupGroups, [], rfl, fun success => absurd success failed, ?_,
        List.nil_sublist _, List.nil_sublist _, fun group => congrFun sameBackups group⟩,
        fun success => absurd success failed, fun failed => ?_⟩
      · rw [storedTo_superblocksOut]
        exact trace
      · refine superblocksOut_failed failed fun known same => ?_
        cases same
        exact updatePrimarySb_error (congrArg Prod.snd primary)
  | none =>
      dsimp only
      rcases @updateBackupSbs_wrote code env callback lawful env.backupGroups true 0 middle with
        ⟨done, rest, written, split, all, wrote⟩
      have everyone := fun success group listed writable =>
        @updateBackupSbs_all code env callback lawful env.backupGroups true 0 middle success group
          listed writable
      have reported := fun err error =>
        @updateBackupSbs_error code env callback env.backupGroups true 0 middle err error
      generalize updateBackupSbs code env callback.apply env.backupGroups true 0 middle = looped
        at all wrote everyone reported ⊢
      rcases looped with ⟨after, err, handle⟩
      dsimp only at all wrote everyone ⊢
      have least := wrote.least
      have most := wrote.most
      unfold assured storable at least
      unfold storable at most
      rw [sameBackups] at least most
      refine ⟨wrote.primary.trans stored, rfl, ?_, ?_,
        fun failed => superblocksOut_failed failed reported⟩
      · refine ⟨done, rest, written, split, fun success => all (err_of_superblocksOut success), ?_,
          least, most, ?_⟩
        · rw [storedTo_superblocksOut, wrote.stores, trace, List.append_assoc]
          rfl
        · intro group
          rw [← sameBackups]
          exact wrote.backup group
      · intro success group listed writable
        have present : Writable code env middle group :=
          ⟨writable.secondary, writable.present, by rw [sameBackups]; exact writable.right,
            writable.quiet⟩
        have written := everyone (err_of_superblocksOut success) group listed present
        rwa [sameBackups] at written

/-- An update that ends before its first store. -/
theorem update_of_refused {sbs : Superblocks} (refused : UpdateRefused env sbs) :
    let result := updateSuperblocksFn code env callback.apply sbs
    result.2 ≠ 0 ∧ result.1.primary = sbs.primary ∧ result.1.backup = sbs.backup ∧
      result.1.resizing = sbs.resizing ∧ storedTo result.1.trace = storedTo sbs.trace := by
  have outcome := updateSuperblocksFn_of_refused code env callback.apply refused
  have unstored : forall ops, storedTo ops = [] -> storedTo (sbs.trace ++ ops) =
      storedTo sbs.trace := by
    intro ops none
    rw [storedTo_append, none, List.append_nil]
  dsimp only
  generalize updateSuperblocksFn code env callback.apply sbs = result at outcome ⊢
  cases outcome with
  | busy resizing => exact ⟨Errno.ebusy.nonzero, rfl, rfl, rfl, unstored _ rfl⟩
  | unstarted free err failed => exact ⟨err.nonzero, rfl, rfl, rfl, unstored _ rfl⟩
  | denied free err started failed => exact ⟨err.nonzero, rfl, rfl, rfl, unstored _ rfl⟩

/-- An update is refused with an error before its first store, or it stores to the
primary and then to backups of a first part of the list, in the order of the list.
In that part every backup with a good checksum is stored to, unless it cannot be
read or is denied write access, and no other.  A success is about the whole list,
and a failure replies the error of an operation. -/
theorem superblock_update_outcome (lawful : code.Lawful env.features) (callback : SbCallback)
    (sbs : Superblocks) :
    let result := updateSuperblocksFn code env callback.apply sbs
    (UpdateRefused env sbs -> result.2 ≠ 0 ∧ result.1.primary = sbs.primary ∧
        result.1.backup = sbs.backup ∧ result.1.resizing = sbs.resizing ∧
        storedTo result.1.trace = storedTo sbs.trace) ∧
      (¬ UpdateRefused env sbs -> Admitted code env callback sbs result) :=
  ⟨fun refused => update_of_refused refused, fun admitted => update_of_admitted lawful admitted⟩

/-! ## An update in which nothing fails -/

theorem updateBackupSb_quiet (quiet : forall operation, env.err operation = none) (handle : Bool)
    (group : Nat) (sbs : Superblocks) :
    exists count, (updateBackupSb code env callback.apply handle group sbs).2 = .ok count := by
  have outcome := updateBackupSb_outcome code env callback.apply handle group sbs
  have impossible : forall {operation : Extern} {err : Errno},
      env.err operation = some err -> False := by
    intro operation err failed
    rw [quiet operation] at failed
    cases failed
  generalize updateBackupSb code env callback.apply handle group sbs = result at outcome ⊢
  cases outcome with
  | absent missing => exact ⟨0, rfl⟩
  | unread err failed => exact (impossible failed).elim
  | denied err journalled failed => exact (impossible failed).elim
  | skipped bad => exact ⟨1, rfl⟩
  | undirtied err journalled good failed => exact (impossible failed).elim
  | written good =>
      refine ⟨1, ?_⟩
      dsimp only
      rw [quiet (.backupSync group)]

theorem updateBackupSbs_quiet (quiet : forall operation, env.err operation = none)
    (groups : List Nat) (handle : Bool) (written : Nat) (sbs : Superblocks) :
    (updateBackupSbs code env callback.apply groups handle written sbs).2.1 = none := by
  induction groups generalizing handle written sbs with
  | nil => rfl
  | cons group rest inductionHypothesis =>
      have outcome := updateBackupSbs_cons code env callback.apply group rest handle written sbs
      have error : forall {middle : Superblocks} {err : Errno},
          updateBackupSb code env callback.apply handle group sbs = (middle, .error err) ->
            False := by
        intro middle err turn
        rcases @updateBackupSb_quiet code env callback quiet handle group sbs with ⟨count, ok⟩
        rw [turn] at ok
        cases ok
      generalize updateBackupSbs code env callback.apply (group :: rest) handle written sbs =
        result at outcome ⊢
      cases outcome with
      | primary own => exact inductionHypothesis _ _ _
      | passed other middle turn => exact (error turn).elim
      | failed other middle err turn reported => exact (error turn).elim
      | counted other middle count turn room => exact inductionHypothesis _ _ _
      | stopped other middle count turn journalled stop => exact inductionHypothesis _ _ _
      | unstopped other middle count err turn journalled stop =>
          rw [quiet (.journalStop true)] at stop
          cases stop

/-- Without a failure the reply is success, bad checksums or not. -/
theorem update_quiet (quiet : forall operation, env.err operation = none) {sbs : Superblocks}
    (free : sbs.resizing = false) :
    (updateSuperblocksFn code env callback.apply sbs).2 = 0 := by
  have admitted : ¬ UpdateRefused env sbs := by
    rintro (resizing | unstarted | ungranted)
    · rw [free] at resizing
      cases resizing
    · exact unstarted (quiet .journalStart)
    · exact ungranted (quiet .primaryWriteAccess)
  have outcome := updatePrimarySb_outcome code env callback.apply (openedUpdate sbs)
  rw [updateSuperblocksFn_of_admitted code env callback.apply admitted]
  generalize updatePrimarySb code env callback.apply (openedUpdate sbs) = primary at outcome ⊢
  have fine : primary.2 = none := by
    cases outcome with
    | denied err failed =>
        rw [quiet .primaryWriteAccess] at failed
        cases failed
    | undirtied err granted failed =>
        rw [quiet .primaryDirty] at failed
        cases failed
    | synced granted => exact quiet .primarySync
  rcases primary with ⟨middle, err⟩
  rw [show err = none from fine]
  dsimp only
  have looped := @updateBackupSbs_quiet code env callback quiet env.backupGroups true 0 middle
  generalize updateBackupSbs code env callback.apply env.backupGroups true 0 middle = result
    at looped ⊢
  rcases result with ⟨after, err, handle⟩
  rw [show err = none from looped]
  have stopped : (if handle then env.err (.journalStop false) else none) = none := by
    rw [quiet (.journalStop false), ite_self]
  rw [superblocksOut, stopped]
  rfl

theorem updateReply_quiet {call : SbCall} (quiet : forall operation, call.env.err operation = none)
    {sbs : Superblocks} (free : sbs.resizing = false) : updateReply code sbs call = 0 :=
  update_quiet quiet free

end Update

/-! ## Runs of updates -/

/-- A copy after some updates in their order. -/
def history (code : SuperblockCode) (features : Features) (applied : List SbCallback)
    (es : SuperBlock) : SuperBlock :=
  applied.foldl (fun es callback => stamp code features callback es) es

theorem history_cons (callback : SbCallback) (applied : List SbCallback) (es : SuperBlock) :
    history code features (callback :: applied) es =
      history code features applied (stamp code features callback es) := rfl

/-- Updates keep a good checksum good. -/
theorem checksumRight_history (lawful : code.Lawful features) {es : SuperBlock}
    (right : checksumRight code features es = true) (applied : List SbCallback) :
    checksumRight code features (history code features applied es) = true := by
  induction applied generalizing es with
  | nil => exact right
  | cons callback applied inductionHypothesis =>
      exact inductionHypothesis (checksumRight_stamp lawful callback es)

/-- One update, seen from each copy. -/
theorem updateStep_copies (lawful : code.Lawful features) {call : SbCall}
    (sameVolume : call.env.features = features) (sbs : Superblocks) :
    ((updateStep code sbs call).primary = sbs.primary ∨
        (updateStep code sbs call).primary = stamp code features call.callback sbs.primary) ∧
      forall group, (updateStep code sbs call).backup group = sbs.backup group ∨
        (checksumRight code features (sbs.backup group) = true ∧
          (updateStep code sbs call).backup group =
            stamp code features call.callback (sbs.backup group)) := by
  subst sameVolume
  by_cases refused : UpdateRefused call.env sbs
  · rcases @update_of_refused code call.env call.callback sbs refused with ⟨-, primary, backup, -⟩
    exact ⟨Or.inl primary, fun group => Or.inl (congrFun backup group)⟩
  · have admitted := @update_of_admitted code call.env call.callback lawful sbs refused
    rcases admitted.backups with ⟨done, rest, written, -, -, -, -, most, backups⟩
    refine ⟨Or.inr admitted.primary, fun group => ?_⟩
    by_cases listed : group ∈ written
    · have able := (List.mem_filter.mp (most.subset listed)).2
      rw [updateStep, backups group, if_pos listed]
      exact Or.inr ⟨(storable_iff.mp able).2.2.1, rfl⟩
    · rw [updateStep, backups group, if_neg listed]
      exact Or.inl rfl

/-- No update leaves the volume marked as resizing. -/
theorem updateStep_free (lawful : code.Lawful features) {call : SbCall}
    (sameVolume : call.env.features = features) {sbs : Superblocks}
    (free : sbs.resizing = false) : (updateStep code sbs call).resizing = false := by
  subst sameVolume
  by_cases refused : UpdateRefused call.env sbs
  · rcases @update_of_refused code call.env call.callback sbs refused with
      ⟨-, -, -, resizing, -⟩
    rw [updateStep, resizing, free]
  · exact (@update_of_admitted code call.env call.callback lawful sbs refused).resizing

/-- A selection of the updates of a run that continues one of its first step. -/
theorem history_step {callback : SbCallback} {callbacks : List SbCallback}
    {before middle after : SuperBlock}
    (step : middle = before ∨ middle = stamp code features callback before)
    (later : exists applied, applied.Sublist callbacks ∧
      after = history code features applied middle) :
    exists applied, applied.Sublist (callback :: callbacks) ∧
      after = history code features applied before := by
  rcases later with ⟨applied, selected, reached⟩
  rcases step with kept | written
  · rw [kept] at reached
    exact ⟨applied, selected.cons callback, reached⟩
  · rw [written, ← history_cons] at reached
    exact ⟨callback :: applied, selected.cons_cons callback, reached⟩

/-- After any run of updates with any failures, each copy has gone through a
selection of the updates in their order, and its checksum is as good as before.
A backup whose checksum was bad is bit for bit the old one. -/
theorem superblock_histories (lawful : code.Lawful features) {calls : List SbCall}
    (sameVolume : forall call, call ∈ calls -> call.env.features = features) (sbs : Superblocks) :
    (exists applied, applied.Sublist (calls.map SbCall.callback) ∧
        (Run.exec (updateStep code) sbs calls).primary =
          history code features applied sbs.primary) ∧
      (checksumRight code features sbs.primary = true ->
        checksumRight code features (Run.exec (updateStep code) sbs calls).primary = true) ∧
      forall group,
        if checksumRight code features (sbs.backup group) then
          (exists applied, applied.Sublist (calls.map SbCall.callback) ∧
            (Run.exec (updateStep code) sbs calls).backup group =
              history code features applied (sbs.backup group)) ∧
          checksumRight code features ((Run.exec (updateStep code) sbs calls).backup group) = true
        else (Run.exec (updateStep code) sbs calls).backup group = sbs.backup group := by
  have selections : (exists applied, applied.Sublist (calls.map SbCall.callback) ∧
        (Run.exec (updateStep code) sbs calls).primary =
          history code features applied sbs.primary) ∧
      forall group, exists applied, applied.Sublist (calls.map SbCall.callback) ∧
        (checksumRight code features (sbs.backup group) = false -> applied = []) ∧
        (Run.exec (updateStep code) sbs calls).backup group =
          history code features applied (sbs.backup group) := by
    induction calls generalizing sbs with
    | nil => exact ⟨⟨[], List.Sublist.refl _, rfl⟩,
        fun group => ⟨[], List.Sublist.refl _, fun _ => rfl, rfl⟩⟩
    | cons call rest inductionHypothesis =>
        have copies := updateStep_copies lawful (sameVolume call List.mem_cons_self) sbs
        have later := inductionHypothesis
          (fun other member => sameVolume other (List.mem_cons_of_mem call member))
          (updateStep code sbs call)
        refine ⟨history_step copies.1 later.1, fun group => ?_⟩
        rcases later.2 group with ⟨applied, selected, bad, reached⟩
        rcases copies.2 group with kept | ⟨right, written⟩
        · rw [kept] at bad reached
          exact ⟨applied, selected.cons call.callback, bad, reached⟩
        · rw [written, ← history_cons] at reached
          refine ⟨call.callback :: applied, selected.cons_cons call.callback, ?_, reached⟩
          intro wrong
          rw [right] at wrong
          cases wrong
  refine ⟨selections.1, ?_, ?_⟩
  · intro right
    rcases selections.1 with ⟨applied, -, reached⟩
    rw [reached]
    exact checksumRight_history lawful right applied
  · intro group
    rcases selections.2 group with ⟨applied, selected, bad, reached⟩
    cases right : checksumRight code features (sbs.backup group) with
    | true =>
        rw [if_pos rfl]
        refine ⟨⟨applied, selected, reached⟩, ?_⟩
        rw [reached]
        exact checksumRight_history lawful right applied
    | false =>
        rw [if_neg Bool.false_ne_true, reached, bad right]
        rfl

end

end Metadata
end Evfs
