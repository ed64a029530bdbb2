import Evfs.Foundation.Resources
import Evfs.Metadata.SwapHistories

namespace Evfs
namespace Protocol

open Foundation Ext4 Metadata

/-!
# Locks and the handle of a swap

A swap works under three locks and a journal handle, on a reference to the boot
loader inode.  Each is taken at most once and given back on every path, and inodes
are changed and marked only while everything is held.

The handle is stopped before the data semaphore is released, so the releases are
not in the reverse order of the acquisitions.  Only what is needed for each of
them is required here.
-/

/-- What a swap holds. -/
inductive SwapResource where
  | reference
  | inodeLocks
  | invalidateLock
  | handle
  | dataSem
deriving DecidableEq, Repr

def swapTakes : SwapOp -> Option SwapResource
  | .iget none => some .reference
  | .lockTwoNondirectories => some .inodeLocks
  | .filemapInvalidateLock => some .invalidateLock
  | .journalStart _ none => some .handle
  | .downWriteDataSem => some .dataSem
  | _ => none

def swapGives (op : SwapOp) (resource : SwapResource) : Bool :=
  match op with
  | .iput => decide (resource = .reference)
  | .unlockTwoNondirectories => decide (resource = .inodeLocks)
  | .filemapInvalidateUnlock => decide (resource = .invalidateLock)
  | .journalStop => decide (resource = .handle)
  | .upWriteDataSem => decide (resource = .dataSem)
  | _ => false

def swapRequires (op : SwapOp) (held : SwapResource -> Bool) : Prop :=
  match op with
  | .iget _ => True
  | .lockTwoNondirectories | .unlockTwoNondirectories | .iput => held .reference = true
  | .filemapInvalidateLock | .filemapInvalidateUnlock =>
      held .reference = true ∧ held .inodeLocks = true
  | .journalStart _ _ | .downWriteDataSem | .journalStop | .upWriteDataSem =>
      held .reference = true ∧ held .inodeLocks = true ∧ held .invalidateLock = true
  | .change _ | .markInodeDirty _ _ => forall resource, held resource = true

/-- The discipline of `swap_inode_boot_loader`. -/
def swapLocks : Discipline SwapResource SwapOp where
  takes := swapTakes
  gives := swapGives
  requires := swapRequires
  exclusive := fun _ => True

section

variable {code : InodeCode} {env : SwapEnv} {ino : Nat}

/-! ## The work in the middle -/

/-- The second state is reached from the first by changing and marking inodes. -/
def Works (before after : Inodes) : Prop :=
  exists ops, after.trace = before.trace ++ ops ∧ forall op, op ∈ ops ->
    (exists ino, op = .change ino) ∨ exists ino err, op = .markInodeDirty ino err

theorem works_refl (inodes : Inodes) : Works inodes inodes :=
  ⟨[], (List.append_nil _).symm, fun _ member => absurd member List.not_mem_nil⟩

theorem Works.trans {first second third : Inodes} (works : Works first second)
    (later : Works second third) : Works first third := by
  rcases works with ⟨ops, trace, all⟩
  rcases later with ⟨laterOps, laterTrace, laterAll⟩
  refine ⟨ops ++ laterOps, by rw [laterTrace, trace, List.append_assoc], ?_⟩
  intro op member
  rcases List.mem_append.mp member with inFirst | inLater
  · exact all op inFirst
  · exact laterAll op inLater

theorem Works.change {first second : Inodes} (works : Works first second) (ino : Nat)
    (update : Inode -> Inode) : Works first (second.change ino update) :=
  works.trans ⟨[.change ino], rfl, fun _ member => Or.inl ⟨ino, List.mem_singleton.mp member⟩⟩

theorem Works.mark {first second : Inodes} (works : Works first second) (ino : Nat)
    (err : Option Errno) : Works first (second.mark ino err) :=
  works.trans ⟨[.markInodeDirty ino err], rfl,
    fun _ member => Or.inr ⟨ino, err, List.mem_singleton.mp member⟩⟩

theorem works_prepareBootLoader (inodes : Inodes) :
    Works inodes (prepareBootLoader code env inodes) := by
  have changed := (works_refl inodes).change bootLoaderIno (firstUse code env)
  unfold prepareBootLoader
  split
  · dsimp only
    split
    · exact changed.mark _ _
    · exact changed
  · exact works_refl inodes

theorem Works.swapStored {first second : Inodes} (works : Works first second) (ino : Nat) :
    Works first (swapStored ino second) :=
  (works.change _ _).change _ _

theorem Works.stampSwapped {first second : Inodes} (works : Works first second) :
    Works first (stampSwapped code env ino second) :=
  ((((((works.change _ _).change _ _).change _ _).change _ _).change _ _).change _ _).change _ _

theorem Works.revertSwap {first second : Inodes} (works : Works first second)
    (blocks bytes : Nat) : Works first (revertSwap env ino blocks bytes second) :=
  (((works.change _ _).swapStored ino).mark _ _).mark _ _

theorem Works.moveSpace {first second : Inodes} (works : Works first second) (diff : Int) :
    Works first (moveSpace code env ino diff second).1 := by
  unfold Ext4.moveSpace
  split
  · exact (works.change _ _).mark _ _
  · split
    · exact works
    · exact (works.change _ _).mark _ _

theorem Works.copySpace {first second : Inodes} (works : Works first second) (ino : Nat) :
    Works first (copySpace ino second) :=
  works.change _ _

theorem Works.settleSwap {first second : Inodes} (works : Works first second) (diff : Int) :
    Works first (settleSwap code env ino diff second).1 := by
  have marked := (@Works.stampSwapped code env ino _ _ works).mark ino
    (env.err (.markInodeDirty ino))
  unfold Ext4.settleSwap
  dsimp only
  cases passed : env.err (.markInodeDirty ino) with
  | some err =>
      rw [passed] at marked
      exact (marked.swapStored ino).mark _ _
  | none =>
      rw [passed] at marked
      have copied := (marked.copySpace ino).mark bootLoaderIno
        (env.err (.markInodeDirty bootLoaderIno))
      cases passedBl : env.err (.markInodeDirty bootLoaderIno) with
      | some err =>
          rw [passedBl] at copied
          exact copied.revertSwap _ _
      | none =>
          rw [passedBl] at copied
          have moved := @Works.moveSpace code env ino _ _ copied diff
          dsimp only
          rcases outcome : Ext4.moveSpace code env ino diff ((Ext4.copySpace ino
            ((Ext4.stampSwapped code env ino second).mark ino none)).mark bootLoaderIno none) with
            ⟨third, err⟩
          rw [outcome] at moved
          cases err with
          | some err => exact moved.revertSwap _ _
          | none => exact moved

/-! ## Whole calls -/

/-- Everything is held. -/
def everything : SwapResource -> Bool := fun _ => true

/-- The work in the middle leaves what is held as it is. -/
theorem Works.passes {before after : Inodes} (works : Works before after) :
    exists ops, after.trace = before.trace ++ ops ∧
      swapLocks.monitor.Passes everything ops everything := by
  rcases works with ⟨ops, trace, all⟩
  refine ⟨ops, trace, Discipline.passes_all_steady fun op member => ?_⟩
  rcases all op member with ⟨ino, change⟩ | ⟨ino, err, mark⟩
  · subst change
    exact ⟨rfl, fun _ => rfl, fun _ => rfl⟩
  · subst mark
    exact ⟨rfl, fun _ => rfl, fun _ => rfl⟩

/-- The labels `err_out1`, `err_out` and `journal_err_out` in turn. -/
def closingOps : List SwapOp :=
  [.journalStop, .upWriteDataSem, .filemapInvalidateUnlock, .unlockTwoNondirectories, .iput]

theorem passes_openingOps : swapLocks.monitor.Passes Discipline.nothing openingOps everything := by
  refine Discipline.passes_take rfl (fun _ => rfl) trivial (fun _ => rfl) ?_
  refine Discipline.passes_take rfl (fun _ => rfl) rfl (fun _ => rfl) ?_
  refine Discipline.passes_take rfl (fun _ => rfl) ⟨rfl, rfl⟩ (fun _ => rfl) ?_
  refine Discipline.passes_take rfl (fun _ => rfl) ⟨rfl, rfl, rfl⟩ (fun _ => rfl) ?_
  refine Discipline.passes_take rfl (fun _ => rfl) ⟨rfl, rfl, rfl⟩ (fun _ => rfl) ?_
  refine Discipline.passes_end fun resource => ?_
  cases resource <;> rfl

theorem passes_closingOps : swapLocks.monitor.Passes everything closingOps Discipline.nothing := by
  refine Discipline.passes_give rfl (fun _ => rfl) ⟨rfl, rfl, rfl⟩ rfl ?_
  refine Discipline.passes_give rfl (fun _ => rfl) ⟨rfl, rfl, rfl⟩ rfl ?_
  refine Discipline.passes_give rfl (fun _ => rfl) ⟨rfl, rfl⟩ rfl ?_
  refine Discipline.passes_give rfl (fun _ => rfl) rfl rfl ?_
  refine Discipline.passes_give rfl (fun _ => rfl) rfl rfl ?_
  refine Discipline.passes_end fun resource => ?_
  cases resource <;> rfl

/-- A call that is refused gives back the first few of the resources. -/
theorem refusedSwap_passes {inodes : Inodes} {result : Inodes × Int}
    (outcome : RefusedSwap env ino inodes result) :
    exists ops, result.1.trace = inodes.trace ++ ops ∧
      swapLocks.monitor.Passes Discipline.nothing ops Discipline.nothing := by
  have ended : forall held : SwapResource -> Bool,
      (forall resource, held resource = Discipline.nothing resource) ->
        swapLocks.monitor.Passes held [] Discipline.nothing :=
    fun _ same => Discipline.passes_end same
  cases outcome with
  | ungotten err =>
      refine ⟨_, rfl, ?_⟩
      refine Discipline.passes_steady rfl (fun _ => rfl) trivial ?_
      exact ended _ fun _ => rfl
  | checked err =>
      refine ⟨_, rfl, ?_⟩
      refine Discipline.passes_take rfl (fun _ => rfl) trivial (fun _ => rfl) ?_
      refine Discipline.passes_take rfl (fun _ => rfl) rfl (fun _ => rfl) ?_
      refine Discipline.passes_give rfl (fun _ => rfl) rfl rfl ?_
      refine Discipline.passes_give rfl (fun _ => rfl) rfl rfl ?_
      refine ended _ fun resource => ?_
      cases resource <;> rfl
  | unwritten err =>
      refine ⟨_, rfl, ?_⟩
      refine Discipline.passes_take rfl (fun _ => rfl) trivial (fun _ => rfl) ?_
      refine Discipline.passes_take rfl (fun _ => rfl) rfl (fun _ => rfl) ?_
      refine Discipline.passes_take rfl (fun _ => rfl) ⟨rfl, rfl⟩ (fun _ => rfl) ?_
      refine Discipline.passes_give rfl (fun _ => rfl) ⟨rfl, rfl⟩ rfl ?_
      refine Discipline.passes_give rfl (fun _ => rfl) rfl rfl ?_
      refine Discipline.passes_give rfl (fun _ => rfl) rfl rfl ?_
      refine ended _ fun resource => ?_
      cases resource <;> rfl
  | unstarted err =>
      refine ⟨_, rfl, ?_⟩
      refine Discipline.passes_take rfl (fun _ => rfl) trivial (fun _ => rfl) ?_
      refine Discipline.passes_take rfl (fun _ => rfl) rfl (fun _ => rfl) ?_
      refine Discipline.passes_take rfl (fun _ => rfl) ⟨rfl, rfl⟩ (fun _ => rfl) ?_
      refine Discipline.passes_steady rfl (fun _ => rfl) ⟨rfl, rfl, rfl⟩ ?_
      refine Discipline.passes_give rfl (fun _ => rfl) ⟨rfl, rfl⟩ rfl ?_
      refine Discipline.passes_give rfl (fun _ => rfl) rfl rfl ?_
      refine Discipline.passes_give rfl (fun _ => rfl) rfl rfl ?_
      refine ended _ fun resource => ?_
      cases resource <;> rfl

/-- What the three labels at the end append. -/
theorem errOut1_trace (ret : Int) (inodes : Inodes) :
    (errOut1 ret inodes).1.trace = inodes.trace ++ closingOps := by
  unfold errOut1 errOut journalErrOut Inodes.log closingOps
  simp only [List.append_assoc, List.cons_append, List.nil_append]

/-- The step lemma: whatever fails, a call is a passage from nothing held to nothing held. -/
theorem swapStep_passes (inodes : Inodes) (call : SwapCall) :
    exists ops, (swapStep code inodes call).trace = inodes.trace ++ ops ∧
      swapLocks.monitor.Passes Discipline.nothing ops Discipline.nothing := by
  unfold swapStep
  rcases swapBootLoaderInode_cases code call.env call.ino inodes with
    ⟨-, outcome⟩ | ⟨-, body⟩
  · exact refusedSwap_passes outcome
  obtain ⟨after, ret, works, ended⟩ : exists after ret, Works (inodes.log openingOps) after ∧
      swapUnderHandle code call.env call.ino (inodes.log openingOps) = errOut1 ret after := by
    have prepared := @works_prepareBootLoader code call.env (inodes.log openingOps)
    unfold swapUnderHandle
    cases initialized : call.env.err .dquotInitialize with
    | some err => exact ⟨_, _, prepared, rfl⟩
    | none =>
        have settled := @Works.settleSwap code call.env call.ino _ _
          (prepared.swapStored call.ino)
        exact ⟨_, _, settled _, rfl⟩
  rcases works.passes with ⟨ops, trace, passes⟩
  refine ⟨openingOps ++ ops ++ closingOps, ?_, ?_⟩
  · rw [body, ended, errOut1_trace, trace]
    simp only [Inodes.log, List.append_assoc]
  · exact (passes_openingOps.append passes).append passes_closingOps

/-- In every run of swaps, whatever fails in them, locks, reference and handle are
taken and given back in turn, and inodes change only while all of them are held. -/
theorem swap_locks_always {inodes : Inodes} (fresh : inodes.trace = []) (calls : List SwapCall) :
    Run.Always (swapStep code) inodes calls fun reached =>
      swapLocks.monitor.Passes Discipline.nothing reached.trace Discipline.nothing ∧
        forall resource, reached.trace.countP (fun op => swapGives op resource) =
          reached.trace.countP fun op => decide (swapTakes op = some resource) := by
  have passes : Run.Always (swapStep code) inodes calls fun reached =>
      swapLocks.monitor.Passes Discipline.nothing reached.trace Discipline.nothing := by
    refine Run.always_of_step _ ?_ ?_ calls (fun _ _ => True.intro)
    · intro reached call _ before
      rcases @swapStep_passes code reached call with ⟨ops, trace, passes⟩
      rw [trace]
      exact Discipline.idle_append before passes
    · rw [fresh]
      exact swapLocks.monitor.passes_nil Discipline.nothing
  intro visited short
  have reached := passes visited short
  have exclusive : forall resource, swapLocks.exclusive resource := fun _ => True.intro
  exact ⟨reached, fun resource => Discipline.balance_of_idle reached (exclusive resource)⟩

theorem swap_locks_always_sample :
    Run.Always (swapStep inodeCode) sampleInodes sampleSwaps fun reached =>
      swapLocks.monitor.Passes Discipline.nothing reached.trace Discipline.nothing ∧
        forall resource, reached.trace.countP (fun op => swapGives op resource) =
          reached.trace.countP fun op => decide (swapTakes op = some resource) :=
  swap_locks_always rfl sampleSwaps

end

end Protocol
end Evfs
