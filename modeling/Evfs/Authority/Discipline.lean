import Evfs.Foundation.Monitor
import Evfs.Ext4.Ioctl

namespace Evfs
namespace Authority

open Ext4 Foundation

/-!
# Write access and authority as a monitor

The rule for a mutating ioctl is a monitor of its trace.  The level remembers
whether `mnt_want_write_file` has succeeded without a drop since, and whether
the caller has passed a check of authority.  An operation that changes
persistent state is permitted only when both hold; every other operation is
harmless.

`Keeps` is the triple whose postcondition repeats its precondition.  Its rules
are one for each shape that the handlers of `Ext4.Ioctl` are built from.

A handler may also call code outside the repository while it holds no write
access.  `Exposes` lists the operations that it then reaches, and the rule is
kept exactly when none of them changes persistent state.
-/

/-- What the operations so far have established. -/
structure Guard where
  writeAccess : Bool
  authorised : Bool
deriving DecidableEq, Repr

namespace Guard

def initial : Guard := ⟨false, false⟩

def full : Guard := ⟨true, true⟩

def after (guard : Guard) (op : Op) : Guard :=
  match op with
  | .mntWantWriteFile none => { guard with writeAccess := true }
  | .mntDropWriteFile => { guard with writeAccess := false }
  | .check _ true => { guard with authorised := true }
  | _ => guard

/-- Whatever `required` has established, `actual` has established. -/
structure Covers (required actual : Guard) : Prop where
  writeAccess : required.writeAccess = true -> actual.writeAccess = true
  authorised : required.authorised = true -> actual.authorised = true

end Guard

/-- The operations that change a bitmap bit, a group descriptor, the
free-clusters counter, the superblock label or identifier, or an inode. -/
def changes : Op -> Bool
  | .writeBit _ _ _ => true
  | .freeGroupClustersSet _ => true
  | .percpuCounterAdd _ => true
  | .blockBitmapCsumSet _ => true
  | .groupDescCsumSet _ => true
  | .change _ => true
  | _ => false

/-- The monitor of one call. -/
def discipline : Monitor Guard Op where
  start := Guard.initial
  after := Guard.after
  Permits := fun guard op =>
    changes op = true -> guard.writeAccess = true ∧ guard.authorised = true

theorem harmless_of_changes {op : Op} (quiet : changes op = false) : discipline.Harmless op := by
  intro guard changing
  exact absurd (quiet.symm.trans changing) Bool.false_ne_true

/-! ## Code that keeps the discipline -/

/-- The call has kept the discipline so far and has established `required`. -/
def Within (required : Guard) (kernel : Kernel) : Prop :=
  discipline.Reaches required.Covers kernel.trace

/-- Under both conditions anything may be changed. -/
theorem Within.change {kernel : Kernel} (within : Within Guard.full kernel) (target : Target) :
    Within Guard.full (kernel.log (.change target)) :=
  within.snoc (fun _ covers _ => ⟨covers.writeAccess rfl, covers.authorised rfl⟩)
    (fun _ covers => covers)

theorem Within.changes {kernel : Kernel} (within : Within Guard.full kernel)
    (targets : List Target) : Within Guard.full (kernel.changes targets) := by
  induction targets generalizing kernel with
  | nil => exact within
  | cons target later inductionHypothesis => exact inductionHypothesis (within.change target)

/-- From any state within `required`, the code leads to another. -/
def Keeps {Result : Type} (required : Guard) (body : Kernel -> Kernel × Result) : Prop :=
  forall kernel, Within required kernel -> Within required (body kernel).1

section Rules

variable {Result : Type} {required : Guard}

theorem keeps_return (result : Result) : Keeps required (fun kernel => (kernel, result)) :=
  Monitor.triple_return result

theorem keeps_ite (condition : Prop) [Decidable condition]
    {first second : Kernel -> Kernel × Result}
    (taken : Keeps required first) (skipped : Keeps required second) :
    Keeps required (fun kernel => if condition then first kernel else second kernel) :=
  Monitor.triple_ite condition taken skipped

/-- An early return, and the rest behind it. -/
theorem keeps_early {condition : Prop} [Decidable condition] {reply : Result}
    {rest : Kernel -> Kernel × Result} (kept : Keeps required rest) :
    Keeps required (fun kernel => if condition then (kernel, reply) else rest kernel) :=
  keeps_ite condition (keeps_return reply) kept

theorem keeps_bind {Value : Type} {first : Kernel -> Kernel × Value}
    {next : Value -> Kernel -> Kernel × Result}
    (called : Keeps required first) (continued : forall value, Keeps required (next value)) :
    Keeps required (fun kernel => next (first kernel).2 (first kernel).1) :=
  Monitor.triple_bind called continued

variable (env : IoctlEnv)

theorem keeps_callExtern (operation : Extern) : Keeps Guard.full (callExtern env operation) :=
  fun _ within => within.changes (env.targets operation)

/-- An operation that changes nothing, then the rest. -/
theorem triple_log (op : Op) (quiet : changes op = false) {before between after : Guard -> Prop}
    {rest : Kernel -> Kernel × Result}
    (reaches : forall guard, before guard -> between (guard.after op))
    (triple : discipline.Triple Kernel.trace between rest after) :
    discipline.Triple Kernel.trace before (fun kernel => rest (kernel.log op)) after :=
  Monitor.triple_emit (fun _ => rfl) (fun guard _ => harmless_of_changes quiet guard) reaches triple

/-- The code after a check that passed may rely on authority. -/
theorem keeps_checkAuthority {writeAccess authorised : Bool} {authority : Ext4.Authority}
    {test : Test} {refusal : Errno} {body : Kernel -> Kernel × Int}
    (kept : Keeps ⟨writeAccess, true⟩ body) :
    Keeps ⟨writeAccess, authorised⟩ (checkAuthority env authority test refusal body) := by
  unfold checkAuthority
  cases env.test test with
  | false =>
      exact triple_log (.check authority false) rfl (fun _ covers => covers)
        (keeps_return refusal.code)
  | true =>
      have raised : discipline.Triple Kernel.trace (⟨writeAccess, authorised⟩ : Guard).Covers
          (fun kernel => body (kernel.log (.check authority true)))
          (⟨writeAccess, true⟩ : Guard).Covers :=
        triple_log (.check authority true) rfl
          (fun _ covers => ⟨covers.writeAccess, fun _ => rfl⟩) kept
      exact raised.weaken (fun _ covers => covers)
        (fun _ covers => ⟨covers.writeAccess, fun _ => covers.authorised rfl⟩)

/-- The code between `mnt_want_write_file` and `mnt_drop_write_file` may rely on
write access, and the code after it may not. -/
theorem keeps_underWriteAccess {authorised : Bool} {body : Kernel -> Kernel × Int}
    (kept : Keeps ⟨true, authorised⟩ body) :
    Keeps ⟨false, authorised⟩ (underWriteAccess env body) := by
  unfold underWriteAccess
  cases env.err .mntWantWriteFile with
  | some err =>
      exact triple_log (.mntWantWriteFile (some err)) rfl (fun _ covers => covers)
        (keeps_return err.code)
  | none =>
      have dropped : forall ret : Int, discipline.Triple Kernel.trace
          (⟨true, authorised⟩ : Guard).Covers
          (fun kernel => (kernel.log .mntDropWriteFile, ret))
          (⟨false, authorised⟩ : Guard).Covers := fun ret =>
        triple_log .mntDropWriteFile rfl
          (fun _ covers => ⟨fun impossible => absurd impossible Bool.false_ne_true,
            covers.authorised⟩) (keeps_return ret)
      exact triple_log (.mntWantWriteFile none) rfl
        (fun _ covers => ⟨fun _ => rfl, covers.authorised⟩) (Monitor.triple_bind kept dropped)

end Rules

/-! ## Operations outside write access -/

/-- No write access is held, and `authorised` says whether the caller has passed a check. -/
structure Guard.Bare (authorised : Bool) (guard : Guard) : Prop where
  withoutAccess : guard.writeAccess = false
  checked : authorised = true -> guard.authorised = true

theorem Guard.Bare.covers {authorised : Bool} {guard : Guard} (bare : guard.Bare authorised) :
    Guard.Covers ⟨false, authorised⟩ guard :=
  ⟨fun impossible => absurd impossible Bool.false_ne_true, bare.checked⟩

theorem level_changes (kernel : Kernel) (targets : List Target) :
    discipline.level (kernel.changes targets).trace = discipline.level kernel.trace := by
  induction targets generalizing kernel with
  | nil => rfl
  | cons target later inductionHypothesis =>
      exact (inductionHypothesis (kernel.log (.change target))).trans
        (discipline.level_snoc kernel.trace (.change target))

/-- Without write access the rule is kept only by changing nothing. -/
theorem accepts_changes_iff {kernel : Kernel}
    (withoutAccess : (discipline.level kernel.trace).writeAccess = false) (targets : List Target) :
    discipline.Accepts (kernel.changes targets).trace ↔
      discipline.Accepts kernel.trace ∧ targets = [] := by
  induction targets generalizing kernel with
  | nil => exact (and_iff_left rfl).symm
  | cons target later inductionHypothesis =>
      have level : discipline.level (kernel.log (.change target)).trace =
          discipline.level kernel.trace := discipline.level_snoc kernel.trace (.change target)
      have refused : ¬ discipline.Accepts (kernel.log (.change target)).trace := by
        intro accepted
        have permitted := ((discipline.accepts_snoc kernel.trace (.change target)).mp accepted).2
        exact absurd (withoutAccess.symm.trans (permitted rfl).1) Bool.false_ne_true
      rw [show kernel.changes (target :: later) = (kernel.log (.change target)).changes later
        from rfl, inductionHypothesis (by rw [level]; exact withoutAccess)]
      exact iff_of_false (fun both => refused both.1) (fun both => List.cons_ne_nil _ _ both.2)

section Exposures

variable (env : IoctlEnv)

/-- None of the operations changes persistent state. -/
def Quiet (operations : List Extern) : Prop :=
  forall operation, operation ∈ operations -> env.targets operation = []

/-- From a state without write access the code leads to another, and it keeps
the discipline exactly when the operations it reaches so change nothing. -/
def Exposes {Result : Type} (authorised : Bool) (operations : List Extern)
    (body : Kernel -> Kernel × Result) : Prop :=
  forall kernel, discipline.Reaches (Guard.Bare authorised) kernel.trace ->
    (discipline.Accepts (body kernel).1.trace ↔ Quiet env operations) ∧
      (discipline.level (body kernel).1.trace).Bare authorised

variable {Result : Type} {authorised : Bool} {operations : List Extern}

theorem quiet_nil : Quiet env [] := List.forall_mem_nil _

theorem exposes_return (result : Result) :
    Exposes env authorised [] (fun kernel => (kernel, result)) :=
  fun _ bare => ⟨iff_of_true bare.1 (quiet_nil env), bare.2⟩

variable {env}

theorem exposes_ite (condition : Prop) [Decidable condition] {skipped : List Extern}
    {first second : Kernel -> Kernel × Result} (taken : Exposes env authorised operations first)
    (otherwise : Exposes env authorised skipped second) :
    Exposes env authorised (if condition then operations else skipped)
      (fun kernel => if condition then first kernel else second kernel) := by
  by_cases holds : condition
  · simpa only [if_pos holds]
  · simpa only [if_neg holds]

/-- An early return, and the rest behind it. -/
theorem exposes_early {condition : Prop} [Decidable condition] {reply : Result}
    {rest : Kernel -> Kernel × Result} (exposed : Exposes env authorised operations rest) :
    Exposes env authorised (if condition then [] else operations)
      (fun kernel => if condition then (kernel, reply) else rest kernel) :=
  exposes_ite condition (exposes_return env reply) exposed

/-- The operation of code outside the repository that follows. -/
theorem exposes_then {body : Kernel -> Kernel × Result} (operation : Extern)
    (exposed : Exposes env authorised operations body) :
    Exposes env authorised (operations ++ [operation])
      (fun kernel => callExtern env operation (body kernel).1) := by
  intro kernel bare
  rcases exposed kernel bare with ⟨accepts, level⟩
  constructor
  · have both : (Quiet env operations ∧ env.targets operation = []) ↔
        Quiet env (operations ++ [operation]) := by
      unfold Quiet
      rw [List.forall_mem_append, List.forall_mem_singleton]
    exact (accepts_changes_iff level.withoutAccess (env.targets operation)).trans
      ((and_congr_left' accepts).trans both)
  · exact (level_changes (body kernel).1 (env.targets operation)).symm ▸ level

theorem exposes_callExtern (operation : Extern) :
    Exposes env authorised [operation] (callExtern env operation) :=
  exposes_then operation (exposes_return env ())

theorem exposes_checkAuthority {authority : Ext4.Authority} {test : Test} {refusal : Errno}
    {body : Kernel -> Kernel × Int} (exposed : Exposes env true operations body) :
    Exposes env authorised (if env.test test then operations else [])
      (checkAuthority env authority test refusal body) := by
  intro kernel bare
  have logged : forall passed, discipline.Reaches
      (Guard.Bare (authorised || passed)) (kernel.log (.check authority passed)).trace := by
    intro passed
    refine bare.snoc (fun guard _ => harmless_of_changes rfl guard) (fun guard level => ?_)
    cases passed with
    | true => exact ⟨level.withoutAccess, fun _ => rfl⟩
    | false => exact ⟨level.withoutAccess, by rw [Bool.or_false]; exact level.checked⟩
  unfold checkAuthority
  cases env.test test with
  | false =>
      have kept := logged false
      rw [Bool.or_false] at kept
      exact ⟨iff_of_true kept.1 (quiet_nil env), kept.2⟩
  | true =>
      have raised := logged true
      rw [Bool.or_true] at raised
      have outcome := exposed _ raised
      exact ⟨outcome.1, outcome.2.withoutAccess, fun _ => outcome.2.checked rfl⟩

/-- What stands under write access is not exposed. -/
theorem exposes_underWriteAccess {body : Kernel -> Kernel × Int}
    (kept : Keeps ⟨true, authorised⟩ body) :
    Exposes env authorised [] (underWriteAccess env body) := by
  intro kernel bare
  rcases keeps_underWriteAccess env kept kernel ⟨bare.1, bare.2.covers⟩ with ⟨accepts, level⟩
  refine ⟨iff_of_true accepts (quiet_nil env), ?_, level.authorised⟩
  unfold underWriteAccess
  cases env.err .mntWantWriteFile with
  | some err =>
      rw [show kernel.log (.mntWantWriteFile (some err)) =
        { kernel with trace := kernel.trace ++ [.mntWantWriteFile (some err)] } from rfl,
        discipline.level_snoc]
      exact bare.2.withoutAccess
  | none =>
      exact congrArg Guard.writeAccess (discipline.level_snoc _ Op.mntDropWriteFile)

end Exposures

end Authority
end Evfs
