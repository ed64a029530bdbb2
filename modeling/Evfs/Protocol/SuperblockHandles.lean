import Evfs.Foundation.Resources
import Evfs.Metadata.SuperblockIoctls

namespace Evfs
namespace Protocol

open Foundation Ext4 Metadata

/-!
# The handle of a superblock update

An update sets the resizing bit, opens one handle and reads one backup at a time.
While the handle is open a copy is stored to with write access on it, and later
backups are stored to without.  Whatever fails, the handle is stopped once, every
buffer is released and the bit is cleared.

The handle reserves three credits, for the primary and two backups.  The loop
counts a backup when its turn succeeds, so a turn that ends in `EFSBADCRC` after
its write access is one that the credits do not cover.
-/

/-- What an update holds. -/
inductive SbResource where
  | resizing
  | handle
  | buffer (group : Nat)
  | access (copy : SbCopy)
deriving DecidableEq, Repr

def sbTakes : SbOp -> Option SbResource
  | .testAndSetResizing false => some .resizing
  | .journalStart _ none => some .handle
  | .sbBread group none => some (.buffer group)
  | .getWriteAccess copy none => some (.access copy)
  | _ => none

def sbGives (op : SbOp) (resource : SbResource) : Bool :=
  match op, resource with
  | .clearResizing, .resizing => true
  | .journalStop _, .handle => true
  | .journalStop _, .access _ => true
  | .brelse group, .buffer other => decide (other = group)
  | _, _ => false

def sbRequires (op : SbOp) (held : SbResource -> Bool) : Prop :=
  match op with
  | .testAndSetResizing _ => True
  | .clearResizing => held .handle = false
  | .journalStart _ _ | .sbBread _ _ | .brelse _ | .syncDirtyBuffer _ _ | .journalStop _ =>
      held .resizing = true
  | .getWriteAccess .primary _ => held .handle = true
  | .getWriteAccess (.backup group) _ => held .handle = true ∧ held (.buffer group) = true
  | .store .primary => held .resizing = true ∧ held (.access .primary) = true
  | .store (.backup group) =>
      held .resizing = true ∧ held (.buffer group) = true ∧
        (held .handle = true -> held (.access (.backup group)) = true)
  | .handleDirtyMetadata copy _ => held .handle = true ∧ held (.access copy) = true
  | .markBufferDirty group => held .handle = false ∧ held (.buffer group) = true

/-- The discipline of `ext4_update_superblocks_fn`.  Write access can be asked for
again on the same handle. -/
def sbHandles : Discipline SbResource SbOp where
  takes := sbTakes
  gives := sbGives
  requires := sbRequires
  exclusive := fun resource => forall copy, resource ≠ .access copy

/-- An update between two turns, with its handle and the access on it, or without. -/
def updating (opened : Option (SbCopy -> Bool)) : SbResource -> Bool
  | .resizing => true
  | .handle => opened.isSome
  | .buffer _ => false
  | .access copy => opened.elim false fun access => access copy

section

variable {code : SuperblockCode} {env : IoctlEnv} {callback : SbCallback}

/-! ## One backup -/

/-- Operations that were appended, as a passage. -/
def PassesBy (held : SbResource -> Bool) (before after : Superblocks)
    (reached : SbResource -> Bool) : Prop :=
  exists ops, after.trace = before.trace ++ ops ∧ sbHandles.monitor.Passes held ops reached

theorem PassesBy.trans {first second third : Superblocks} {held middle reached : SbResource -> Bool}
    (passes : PassesBy held first second middle) (later : PassesBy middle second third reached) :
    PassesBy held first third reached := by
  rcases passes with ⟨ops, trace, through⟩
  rcases later with ⟨laterOps, laterTrace, laterThrough⟩
  refine ⟨ops ++ laterOps, ?_, through.append laterThrough⟩
  rw [laterTrace, trace, List.append_assoc]

/-- A buffer is read, used and released. -/
theorem passes_reading {held reached : SbResource -> Bool} {group : Nat} {middle : List SbOp}
    (resizing : held .resizing = true) (free : held (.buffer group) = false)
    (laterResizing : reached .resizing = true) (laterFree : reached (.buffer group) = false)
    (passes : sbHandles.monitor.Passes (Function.update held (.buffer group) true) middle
      (Function.update reached (.buffer group) true)) :
    sbHandles.monitor.Passes held (.sbBread group none :: (middle ++ [.brelse group])) reached := by
  refine Discipline.passes_take rfl (fun _ => rfl) resizing (fun _ => free) (passes.append ?_)
  refine Discipline.passes_give rfl (fun other => ?_) ?_ (Function.update_self _ _ _) ?_
  · cases other with
    | buffer other => simp [sbHandles, sbGives]
    | _ => rfl
  · exact (Function.update_of_ne SbResource.noConfusion _ _).trans laterResizing
  · refine Discipline.passes_end fun other => ?_
    rw [Function.update_idem, ← laterFree, Function.update_eq_self]

/-- Access to one more copy on the open handle. -/
theorem update_updating (access : SbCopy -> Bool) (copy : SbCopy) :
    Function.update (updating (some access)) (.access copy) true =
      updating (some (Function.update access copy true)) := by
  ext resource
  by_cases same : resource = .access copy
  · subst same
    simp [updating]
  · rw [Function.update_of_ne same]
    cases resource with
    | access other =>
        have apart : other ≠ copy := fun equal => same (congrArg SbResource.access equal)
        simp [updating, apart]
    | _ => rfl

theorem updating_access (access : SbCopy -> Bool) (copy : SbCopy) :
    updating (some (Function.update access copy true)) (.access copy) = true := by
  rw [← update_updating, Function.update_self]

/-- A backup that is read without a handle. -/
theorem passes_unjournalled {group : Nat} (middle : List SbOp)
    (all : forall op, op ∈ middle -> op = .store (.backup group) ∨ op = .markBufferDirty group ∨
      exists err, op = .syncDirtyBuffer (.backup group) err) :
    sbHandles.monitor.Passes (updating none)
      (.sbBread group none :: (middle ++ [.brelse group])) (updating none) := by
  apply passes_reading rfl rfl rfl rfl
  apply Discipline.passes_all_steady
  intro op member
  have noHandle : Function.update (updating none) (.buffer group) true .handle = false := rfl
  have buffer : Function.update (updating none) (.buffer group) true (.buffer group) = true :=
    Function.update_self _ _ _
  rcases all op member with store | dirty | ⟨err, sync⟩
  · subst store
    refine ⟨rfl, fun _ => rfl, rfl, buffer, fun handle => ?_⟩
    rw [noHandle] at handle
    cases handle
  · subst dirty
    exact ⟨rfl, fun _ => rfl, noHandle, buffer⟩
  · subst sync
    exact ⟨rfl, fun _ => rfl, rfl⟩

/-- A backup that is read while the handle is open, up to a denied access. -/
theorem passes_journalled {group : Nat} (access : SbCopy -> Bool) (middle : List SbOp)
    (all : forall op, op ∈ middle -> op = .store (.backup group) ∨
      (exists err, op = .handleDirtyMetadata (.backup group) err) ∨
      exists err, op = .syncDirtyBuffer (.backup group) err) :
    sbHandles.monitor.Passes (updating (some access))
      (.sbBread group none ::
        (.getWriteAccess (.backup group) none :: middle ++ [.brelse group]))
      (updating (some (Function.update access (.backup group) true))) := by
  apply passes_reading rfl rfl rfl rfl
  have buffer : Function.update (updating (some access)) (.buffer group) true (.buffer group) =
      true := Function.update_self _ _ _
  refine Discipline.passes_take rfl (fun _ => rfl) ⟨rfl, buffer⟩
    (fun exclusive => absurd rfl (exclusive _)) ?_
  rw [Function.update_comm SbResource.noConfusion, update_updating]
  have granted : Function.update
      (updating (some (Function.update access (.backup group) true))) (.buffer group) true
        (.access (.backup group)) = true := by
    rw [Function.update_of_ne SbResource.noConfusion]
    exact updating_access access (.backup group)
  apply Discipline.passes_all_steady
  intro op member
  rcases all op member with store | ⟨err, dirty⟩ | ⟨err, sync⟩
  · subst store
    exact ⟨rfl, fun _ => rfl, rfl, Function.update_self _ _ _, fun _ => granted⟩
  · subst dirty
    exact ⟨rfl, fun _ => rfl, rfl, granted⟩
  · subst sync
    exact ⟨rfl, fun _ => rfl, rfl⟩

/-- A backup to which write access is denied. -/
theorem passes_denied {group : Nat} (access : SbCopy -> Bool) (err : Errno) :
    sbHandles.monitor.Passes (updating (some access))
      (.sbBread group none :: ([.getWriteAccess (.backup group) (some err)] ++ [.brelse group]))
      (updating (some access)) := by
  apply passes_reading rfl rfl rfl rfl
  refine Discipline.passes_steady rfl (fun _ => rfl) ⟨rfl, Function.update_self _ _ _⟩ ?_
  exact sbHandles.monitor.passes_nil _

/-- The turn of one group leaves the handle as it is, perhaps with more access on it. -/
theorem updateBackupSb_passes (opened : Option (SbCopy -> Bool)) (group : Nat)
    (sbs : Superblocks) :
    exists reached : Option (SbCopy -> Bool), reached.isSome = opened.isSome ∧
      PassesBy (updating opened) sbs
        (updateBackupSb code env callback.apply opened.isSome group sbs).1 (updating reached) := by
  have outcome := updateBackupSb_outcome code env callback.apply opened.isSome group sbs
  generalize updateBackupSb code env callback.apply opened.isSome group sbs = result at outcome ⊢
  cases outcome with
  | absent missing =>
      exact ⟨opened, rfl, [], (List.append_nil _).symm, sbHandles.monitor.passes_nil _⟩
  | unread err failed =>
      refine ⟨opened, rfl, _, rfl, ?_⟩
      refine Discipline.passes_steady rfl (fun _ => rfl) rfl ?_
      exact sbHandles.monitor.passes_nil _
  | denied err journalled failed =>
      rcases Option.isSome_iff_exists.mp journalled with ⟨access, same⟩
      subst same
      exact ⟨some access, rfl, _, rfl, passes_denied access err⟩
  | undirtied err journalled good failed =>
      rcases Option.isSome_iff_exists.mp journalled with ⟨access, same⟩
      subst same
      refine ⟨some (Function.update access (.backup group) true), rfl, _, rfl, ?_⟩
      apply passes_journalled access [_, _]
      simp
  | skipped bad =>
      cases opened with
      | none =>
          refine ⟨none, rfl, _, rfl, ?_⟩
          apply passes_unjournalled []
          simp
      | some access =>
          refine ⟨some (Function.update access (.backup group) true), rfl, _, rfl, ?_⟩
          apply passes_journalled access []
          simp
  | written good =>
      cases opened with
      | none =>
          refine ⟨none, rfl, _, rfl, ?_⟩
          apply passes_unjournalled [_, _, _]
          simp [dirtyOp]
      | some access =>
          refine ⟨some (Function.update access (.backup group) true), rfl, _, rfl, ?_⟩
          apply passes_journalled access [_, _, _]
          simp [dirtyOp]

/-! ## Whole updates -/

/-- A stopped handle gives no more access. -/
theorem passes_journalStop (access : SbCopy -> Bool) (err : Option Errno) :
    sbHandles.monitor.Passes (updating (some access)) [.journalStop err] (updating none) := by
  have untaken : forall resource, sbHandles.takes (.journalStop err) ≠ some resource :=
    fun resource => (Option.some_ne_none resource).symm
  apply Discipline.passes_cons
  · refine ⟨rfl, fun resource _ taken => absurd taken (untaken resource), ?_,
      fun resource taken => absurd taken (untaken resource)⟩
    intro resource exclusive given
    cases resource with
    | handle => rfl
    | access copy => exact absurd rfl (exclusive copy)
    | resizing => exact absurd given Bool.false_ne_true
    | buffer group => exact absurd given Bool.false_ne_true
  · apply Discipline.passes_end
    intro resource
    cases resource <;> simp [Discipline.after, sbHandles, sbTakes, sbGives, updating]

/-- The loop passes on the handle, or stops it. -/
theorem updateBackupSbs_passes (groups : List Nat) (opened : Option (SbCopy -> Bool))
    (written : Nat) (sbs : Superblocks) :
    let result := updateBackupSbs code env callback.apply groups opened.isSome written sbs
    exists reached : Option (SbCopy -> Bool), reached.isSome = result.2.2 ∧
      PassesBy (updating opened) sbs result.1 (updating reached) := by
  induction groups generalizing opened written sbs with
  | nil => exact ⟨opened, rfl, [], (List.append_nil _).symm, sbHandles.monitor.passes_nil _⟩
  | cons group rest inductionHypothesis =>
      have outcome := updateBackupSbs_cons code env callback.apply group rest opened.isSome written
        sbs
      have turnPasses := @updateBackupSb_passes code env callback opened group sbs
      have stopPasses : forall (access : SbCopy -> Bool) (middle : Superblocks)
          (err : Option Errno), PassesBy (updating (some access)) middle
            (middle.log [.journalStop err]) (updating none) :=
        fun access middle err => ⟨_, rfl, passes_journalStop access err⟩
      generalize updateBackupSbs code env callback.apply (group :: rest) opened.isSome written sbs =
        result at outcome ⊢
      cases outcome with
      | primary own => exact inductionHypothesis opened written sbs
      | passed other middle turn =>
          rw [turn] at turnPasses
          rcases turnPasses with ⟨between, same, passes⟩
          rcases inductionHypothesis between written middle with ⟨reached, last, later⟩
          rw [same] at last later
          exact ⟨reached, last, passes.trans later⟩
      | failed other middle err turn reported =>
          rw [turn] at turnPasses
          exact turnPasses
      | counted other middle count turn room =>
          rw [turn] at turnPasses
          rcases turnPasses with ⟨between, same, passes⟩
          rcases inductionHypothesis between (written + count) middle with ⟨reached, last, later⟩
          rw [same] at last later
          exact ⟨reached, last, passes.trans later⟩
      | stopped other middle count turn journalled stop =>
          rw [turn] at turnPasses
          rcases turnPasses with ⟨between, same, passes⟩
          rw [journalled] at same
          rcases Option.isSome_iff_exists.mp same with ⟨access, isOpen⟩
          subst isOpen
          rcases inductionHypothesis none (written + count) (middle.log [.journalStop none]) with
            ⟨reached, last, later⟩
          exact ⟨reached, last, (passes.trans (stopPasses access middle none)).trans later⟩
      | unstopped other middle count err turn journalled stop =>
          rw [turn] at turnPasses
          rcases turnPasses with ⟨between, same, passes⟩
          rw [journalled] at same
          rcases Option.isSome_iff_exists.mp same with ⟨access, isOpen⟩
          subst isOpen
          exact ⟨none, rfl, passes.trans (stopPasses access middle (some err))⟩

theorem passes_clearResizing :
    sbHandles.monitor.Passes (updating none) [.clearResizing] Discipline.nothing := by
  refine @Discipline.passes_give _ _ _ _ _ _ _ _ .resizing rfl (fun other => ?_) rfl rfl ?_
  · cases other <;> rfl
  · refine Discipline.passes_end fun other => ?_
    cases other <;> rfl

/-- The labels `out_journal` and `out` leave nothing held. -/
theorem superblocksOut_passes (opened : Option (SbCopy -> Bool)) (err : Option Errno)
    (sbs : Superblocks) :
    PassesBy (updating opened) sbs (superblocksOut env err opened.isSome sbs).1
      Discipline.nothing := by
  cases opened with
  | none =>
      exact ⟨[.clearResizing], by simp [superblocksOut, Superblocks.log], passes_clearResizing⟩
  | some access =>
      refine ⟨[.journalStop (env.err (.journalStop false)), .clearResizing], ?_,
        (passes_journalStop access _).append passes_clearResizing⟩
      simp [superblocksOut, Superblocks.log]

/-- The primary gets write access before it is stored to. -/
theorem updatePrimarySb_passes (access : SbCopy -> Bool) (sbs : Superblocks) :
    exists reached, PassesBy (updating (some access)) sbs
      (updatePrimarySb code env callback.apply sbs).1 (updating (some reached)) := by
  have outcome := updatePrimarySb_outcome code env callback.apply sbs
  have granted : forall rest : List SbOp,
      (forall op, op ∈ rest -> op = .store .primary ∨
        (exists err, op = .handleDirtyMetadata .primary err) ∨
        exists err, op = .syncDirtyBuffer .primary err) ->
      sbHandles.monitor.Passes (updating (some access)) (.getWriteAccess .primary none :: rest)
        (updating (some (Function.update access .primary true))) := by
    intro rest all
    refine Discipline.passes_take rfl (fun _ => rfl) rfl
      (fun exclusive => absurd rfl (exclusive _)) ?_
    rw [update_updating]
    have held := updating_access access .primary
    apply Discipline.passes_all_steady
    intro op member
    rcases all op member with store | ⟨err, dirty⟩ | ⟨err, sync⟩
    · subst store
      exact ⟨rfl, fun _ => rfl, rfl, held⟩
    · subst dirty
      exact ⟨rfl, fun _ => rfl, rfl, held⟩
    · subst sync
      exact ⟨rfl, fun _ => rfl, rfl⟩
  generalize updatePrimarySb code env callback.apply sbs = result at outcome ⊢
  cases outcome with
  | denied err failed =>
      refine ⟨access, _, rfl, ?_⟩
      refine Discipline.passes_steady rfl (fun _ => rfl) rfl ?_
      exact sbHandles.monitor.passes_nil _
  | undirtied err _ failed => exact ⟨_, _, rfl, granted _ (by simp)⟩
  | synced _ => exact ⟨_, _, rfl, granted _ (by simp)⟩

/-- The step lemma: whatever fails, an update is a passage from nothing held to
nothing held. -/
theorem updateStep_passes (sbs : Superblocks) (call : SbCall) :
    PassesBy Discipline.nothing sbs (updateStep code sbs call) Discipline.nothing := by
  have opening : forall rest reached,
      sbHandles.monitor.Passes (updating (some fun _ => false)) rest reached ->
        sbHandles.monitor.Passes Discipline.nothing
          (.testAndSetResizing false :: .journalStart 3 none :: rest) reached := by
    intro rest reached later
    refine Discipline.passes_take rfl (fun _ => rfl) trivial (fun _ => rfl) ?_
    refine Discipline.passes_take rfl (fun _ => rfl) rfl (fun _ => rfl) ?_
    have opened : Function.update (Function.update Discipline.nothing SbResource.resizing true)
        .handle true = updating (some fun _ => false) := by
      funext resource
      cases resource <;> rfl
    rwa [opened]
  unfold updateStep
  by_cases refused : UpdateRefused call.env sbs
  · have outcome := updateSuperblocksFn_of_refused code call.env call.callback.apply refused
    generalize updateSuperblocksFn code call.env call.callback.apply sbs = result at outcome ⊢
    cases outcome with
    | busy resizing =>
        refine ⟨_, rfl, ?_⟩
        refine Discipline.passes_steady rfl (fun _ => rfl) trivial ?_
        exact sbHandles.monitor.passes_nil _
    | unstarted free err failed =>
        refine ⟨_, rfl, ?_⟩
        refine Discipline.passes_take rfl (fun _ => rfl) trivial (fun _ => rfl) ?_
        refine Discipline.passes_steady rfl (fun _ => rfl) rfl ?_
        have begun : Function.update Discipline.nothing SbResource.resizing true =
            updating none := by
          funext resource
          cases resource <;> rfl
        rw [begun]
        exact passes_clearResizing
    | denied free err started failed =>
        refine ⟨_, rfl, opening _ _ ?_⟩
        refine Discipline.passes_steady rfl (fun _ => rfl) rfl ?_
        exact (passes_journalStop _ _).append passes_clearResizing
  · rw [updateSuperblocksFn_of_admitted code call.env call.callback.apply refused]
    rcases @updatePrimarySb_passes code call.env call.callback (fun _ => false)
      (openedUpdate sbs) with ⟨access, stored⟩
    have toEnd : forall after, PassesBy (updating (some fun _ => false)) (openedUpdate sbs) after
        Discipline.nothing -> PassesBy Discipline.nothing sbs after Discipline.nothing := by
      rintro after ⟨ops, trace, passes⟩
      refine ⟨_, ?_, opening ops _ passes⟩
      rw [trace, openedUpdate, List.append_assoc]
      rfl
    apply toEnd
    rcases primary : updatePrimarySb code call.env call.callback.apply (openedUpdate sbs) with
      ⟨middle, err⟩
    rw [primary] at stored
    cases err with
    | some err => exact stored.trans (superblocksOut_passes (some access) (some err) middle)
    | none =>
        rcases @updateBackupSbs_passes code call.env call.callback call.env.backupGroups
          (some access) 0 middle with ⟨reached, last, looped⟩
        dsimp only
        rcases backups : updateBackupSbs code call.env call.callback.apply call.env.backupGroups
          true 0 middle with ⟨after, err, handle⟩
        rw [Option.isSome_some, backups] at last looped
        dsimp only at last looped ⊢
        rw [← last]
        exact (stored.trans looped).trans (superblocksOut_passes reached err after)

/-- In every run of updates, whatever fails in them, the resizing bit, the handle
and the buffers are taken and given back in turn, and a copy is stored to under
its access while a handle is open. -/
theorem superblock_handles_always {sbs : Superblocks} (fresh : sbs.trace = [])
    (calls : List SbCall) :
    Run.Always (updateStep code) sbs calls fun reached =>
      sbHandles.monitor.Passes Discipline.nothing reached.trace Discipline.nothing ∧
        forall resource, (forall copy, resource ≠ .access copy) ->
          reached.trace.countP (fun op => sbGives op resource) =
            reached.trace.countP fun op => decide (sbTakes op = some resource) := by
  have passes : Run.Always (updateStep code) sbs calls fun reached =>
      sbHandles.monitor.Passes Discipline.nothing reached.trace Discipline.nothing := by
    refine Run.always_of_step _ ?_ ?_ calls (fun _ _ => True.intro)
    · intro reached call _ before
      rcases @updateStep_passes code reached call with ⟨ops, trace, passes⟩
      rw [trace]
      exact Discipline.idle_append before passes
    · rw [fresh]
      exact sbHandles.monitor.passes_nil Discipline.nothing
  intro visited short
  have reached := passes visited short
  exact ⟨reached, fun resource exclusive => Discipline.balance_of_idle reached exclusive⟩

theorem superblock_handles_always_sample :
    Run.Always (updateStep (Crc32c.volumeCode volumeEnv.features)) ailingSuperblocks
      ailingCalls fun reached =>
        sbHandles.monitor.Passes Discipline.nothing reached.trace Discipline.nothing ∧
          forall resource, (forall copy, resource ≠ .access copy) ->
            reached.trace.countP (fun op => sbGives op resource) =
              reached.trace.countP fun op => decide (sbTakes op = some resource) :=
  superblock_handles_always rfl _

/-! ## Credits -/

/-- Write access is given to a buffer. -/
def grants : SbOp -> Bool
  | .getWriteAccess _ none => true
  | _ => false

def granted (sbs : Superblocks) : Nat := sbs.trace.countP grants

/-- Groups on which some operation reports `EFSBADCRC`. -/
def badGroups (env : IoctlEnv) (groups : List Nat) : Nat :=
  groups.countP fun group => decide (ReportsBadCrc env group)

/-- A turn gives access at most once, without a handle never, and only with a
count where it succeeds. -/
theorem granted_updateBackupSb (handle : Bool) (group : Nat) (sbs : Superblocks) :
    let result := updateBackupSb code env callback.apply handle group sbs
    granted result.1 ≤ granted sbs + handle.toNat ∧
      forall count, result.2 = .ok count -> granted result.1 ≤ granted sbs + count := by
  have outcome := updateBackupSb_outcome code env callback.apply handle group sbs
  dsimp only
  generalize updateBackupSb code env callback.apply handle group sbs = result at outcome ⊢
  unfold granted
  cases outcome with
  | absent missing => exact ⟨Nat.le_add_right _ _, fun _ _ => Nat.le_add_right _ _⟩
  | unread err failed => simp [Superblocks.log, grants]
  | denied err journalled failed => simp [Superblocks.log, grants]
  | skipped bad => cases handle <;> simp [Superblocks.log, grants, accessOps, List.countP_cons]
  | undirtied err journalled good failed => simp [grants, journalled, List.countP_cons]
  | written good =>
      cases sync : env.err (.backupSync group) <;>
        cases handle <;> simp [grants, accessOps, dirtyOp, List.countP_cons]

/-- The loop: while the handle is open at most one backup has been counted, and
two counts close it. -/
theorem granted_updateBackupSbs (groups : List Nat) {handle : Bool} {written : Nat}
    (room : handle = true -> written ≤ 1) (sbs : Superblocks) :
    granted (updateBackupSbs code env callback.apply groups handle written sbs).1 ≤
      granted sbs + (if handle then 2 - written + badGroups env groups else 0) := by
  induction groups generalizing handle written sbs with
  | nil => exact Nat.le_add_right _ _
  | cons group rest inductionHypothesis =>
      have outcome := updateBackupSbs_cons code env callback.apply group rest handle written sbs
      have turnGrants := @granted_updateBackupSb code env callback handle group sbs
      have more : badGroups env rest ≤ badGroups env (group :: rest) := by
        unfold badGroups
        rw [List.countP_cons]
        exact Nat.le_add_right _ _
      have stops : forall (middle : Superblocks) (err : Option Errno),
          granted (middle.log [.journalStop err]) = granted middle := by
        intro middle err
        simp [granted, Superblocks.log, grants]
      generalize updateBackupSbs code env callback.apply (group :: rest) handle written sbs =
        result at outcome ⊢
      cases outcome with
      | primary own =>
          have later := inductionHypothesis room sbs
          cases handle <;> simp at later ⊢ <;> omega
      | passed other middle turn =>
          have bad := reportsBadCrc_of_error (congrArg Prod.snd turn)
          have counted : badGroups env (group :: rest) = badGroups env rest + 1 := by
            unfold badGroups
            rw [List.countP_cons, if_pos (decide_eq_true bad)]
          have later := inductionHypothesis room middle
          rw [turn] at turnGrants
          have first := turnGrants.1
          cases handle <;> simp [counted] at later first ⊢ <;> omega
      | failed other middle err turn reported =>
          rw [turn] at turnGrants
          have first := turnGrants.1
          cases handle with
          | false => simpa using first
          | true =>
              have few := room rfl
              simp at first ⊢
              omega
      | counted other middle count turn fits =>
          rw [turn] at turnGrants
          have first := turnGrants.1
          have counts := turnGrants.2 count rfl
          have later := @inductionHypothesis handle (written + count) fits middle
          cases handle with
          | false =>
              simp at first later ⊢
              omega
          | true =>
              have few := fits rfl
              dsimp only at counts
              simp only [if_true] at later ⊢
              omega
      | stopped other middle count turn journalled stop =>
          have later := @inductionHypothesis false (written + count)
            (fun opened => absurd opened Bool.false_ne_true) (middle.log [.journalStop none])
          have few := room journalled
          have first := turnGrants.1
          rw [turn, journalled] at first
          rw [stops] at later
          simp [journalled] at first later ⊢
          omega
      | unstopped other middle count err turn journalled stop =>
          have few := room journalled
          have first := turnGrants.1
          rw [turn, journalled] at first
          dsimp only at first ⊢
          rw [stops, if_pos journalled]
          simp at first
          omega

/-- An update is given write access to at most the three buffers that its handle
has reserved credits for, and to one more for each group on which an operation
reports `EFSBADCRC`. -/
theorem update_credits (sbs : Superblocks) (call : SbCall) :
    granted (updateStep code sbs call) ≤
      granted sbs + 3 + badGroups call.env call.env.backupGroups := by
  have ends : forall (err : Option Errno) (handle : Bool) (middle : Superblocks),
      granted (superblocksOut call.env err handle middle).1 = granted middle := by
    intro err handle middle
    cases handle <;> simp [granted, superblocksOut, Superblocks.log, grants]
  unfold updateStep
  by_cases refused : UpdateRefused call.env sbs
  · have outcome := updateSuperblocksFn_of_refused code call.env call.callback.apply refused
    generalize updateSuperblocksFn code call.env call.callback.apply sbs = result at outcome ⊢
    have none : granted result.1 = granted sbs := by
      cases outcome <;> simp [granted, Superblocks.log, grants]
    omega
  · rw [updateSuperblocksFn_of_admitted code call.env call.callback.apply refused]
    have opened : granted (openedUpdate sbs) = granted sbs := by
      simp [granted, openedUpdate, grants]
    have primaryGrants : granted
        (updatePrimarySb code call.env call.callback.apply (openedUpdate sbs)).1 ≤
          granted sbs + 1 := by
      have outcome := updatePrimarySb_outcome code call.env call.callback.apply (openedUpdate sbs)
      rw [← opened]
      generalize updatePrimarySb code call.env call.callback.apply (openedUpdate sbs) = result
        at outcome ⊢
      cases outcome <;> simp [granted, Superblocks.log, grants, List.countP_cons]
    rcases primary : updatePrimarySb code call.env call.callback.apply (openedUpdate sbs) with
      ⟨middle, err⟩
    rw [primary] at primaryGrants
    dsimp only at primaryGrants
    cases err with
    | some err =>
        dsimp only
        rw [ends]
        omega
    | none =>
        have looped := @granted_updateBackupSbs code call.env call.callback
          call.env.backupGroups true 0 (fun _ => Nat.zero_le 1) middle
        rw [if_pos rfl] at looped
        dsimp only
        rcases backups : updateBackupSbs code call.env call.callback.apply call.env.backupGroups
          true 0 middle with ⟨after, err, handle⟩
        rw [backups] at looped
        dsimp only at looped ⊢
        rw [ends]
        omega

end

end Protocol
end Evfs
