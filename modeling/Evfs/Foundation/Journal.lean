import Evfs.Foundation.Runs
import Mathlib.Data.List.Basic
import Mathlib.Logic.Function.Basic

namespace Evfs
namespace Foundation

/-!
# Redo journals

A store assigns contents to every block.  A committed transaction is a list of
blocks with an image of their contents, and recovery replays the committed
transactions over the home locations in their order.  Blocks of different
kinds may have different types of contents.

The machine below has home locations, a log, and a volatile state that caches
the blocks and collects the blocks of the running transaction.  A crash is the
end of a run: whatever the volatile state was, recovery sees only the home
locations and the log.  The main rule says that a property of stores survives
every crash when every call keeps it in the cache and adds each block that it
modifies to the running transaction.
-/

namespace Journal

variable {Key : Type*} [DecidableEq Key] {Value : Key -> Type*}

/-- The contents of every block. -/
abbrev Store (Value : Key -> Type*) := forall key, Value key

/-- The blocks of a committed transaction, and what they contained. -/
structure Transaction (Value : Key -> Type*) where
  keys : List Key
  image : Store Value

/-- Write the blocks of one transaction over a store. -/
def replay (home : Store Value) (transaction : Transaction Value) : Store Value :=
  fun key => if key ∈ transaction.keys then transaction.image key else home key

/-- Replay a log, oldest transaction first. -/
def recover (home : Store Value) (log : List (Transaction Value)) : Store Value :=
  log.foldl replay home

theorem replay_of_mem (home : Store Value) {transaction : Transaction Value} {key : Key}
    (member : key ∈ transaction.keys) : replay home transaction key = transaction.image key :=
  if_pos member

theorem replay_of_not_mem (home : Store Value) {transaction : Transaction Value} {key : Key}
    (absent : key ∉ transaction.keys) : replay home transaction key = home key :=
  if_neg absent

@[simp] theorem recover_nil (home : Store Value) : recover home [] = home := rfl

@[simp] theorem recover_cons (home : Store Value) (oldest : Transaction Value)
    (log : List (Transaction Value)) :
    recover home (oldest :: log) = recover (replay home oldest) log := rfl

theorem recover_snoc (home : Store Value) (log : List (Transaction Value))
    (newest : Transaction Value) :
    recover home (log ++ [newest]) = replay (recover home log) newest :=
  List.foldl_append

/-- A home location matters only for a block that the log does not hold. -/
theorem recover_congr {first second : Store Value} (log : List (Transaction Value)) {key : Key}
    (same : (forall transaction, transaction ∈ log -> key ∉ transaction.keys) ->
      first key = second key) :
    recover first log key = recover second log key := by
  induction log generalizing first second with
  | nil => exact same (by simp only [List.not_mem_nil, false_imp_iff, implies_true])
  | cons oldest log inductionHypothesis =>
      rw [recover_cons, recover_cons]
      apply inductionHypothesis
      intro absentLater
      by_cases member : key ∈ oldest.keys
      · rw [replay_of_mem first member, replay_of_mem second member]
      · rw [replay_of_not_mem first member, replay_of_not_mem second member]
        apply same
        intro transaction listed
        rcases List.mem_cons.mp listed with here | later
        · rw [here]
          exact member
        · exact absentLater transaction later

theorem recover_of_not_mem (home : Store Value) {log : List (Transaction Value)} {key : Key}
    (absent : forall transaction, transaction ∈ log -> key ∉ transaction.keys) :
    recover home log key = home key := by
  induction log generalizing home with
  | nil => rfl
  | cons oldest log inductionHypothesis =>
      rw [recover_cons, inductionHypothesis (replay home oldest)
        (fun transaction listed => absent transaction (List.mem_cons_of_mem oldest listed))]
      exact replay_of_not_mem home (absent oldest List.mem_cons_self)

/-- Writing a block home early, with the contents that recovery would give it,
does not change what recovery gives. -/
theorem recover_writeHome (home : Store Value) (log : List (Transaction Value)) (key : Key) :
    recover (Function.update home key (recover home log key)) log = recover home log := by
  funext other
  apply recover_congr
  intro absent
  by_cases same : other = key
  · subst same
    rw [Function.update_self, recover_of_not_mem home absent]
  · rw [Function.update_of_ne same]

/-! ## Crash and recovery -/

/-- How a volatile state caches the blocks and collects a transaction. -/
structure Cache (State : Type*) (Value : Key -> Type*) where
  image : State -> Store Value
  running : State -> List Key
  /-- Begin an empty transaction. -/
  restart : State -> State
  image_restart : forall state, image (restart state) = image state
  running_restart : forall state, running (restart state) = []

/-- Home locations, committed transactions, and what a crash loses. -/
structure Machine (State : Type*) (Value : Key -> Type*) where
  home : Store Value
  log : List (Transaction Value)
  state : State

/-- What can happen to a machine between two calls, apart from a crash. -/
inductive Event (Key Call : Type*) where
  | call (call : Call)
  | commit
  | checkpoint
  | writeHome (key : Key)

/-- The calls among some events. -/
def callsOf {Key Call : Type*} (events : List (Event Key Call)) : List Call :=
  events.filterMap fun event =>
    match event with
    | .call call => some call
    | _ => none

theorem mem_callsOf {Key Call : Type*} {events : List (Event Key Call)} {call : Call}
    (member : Event.call call ∈ events) : call ∈ callsOf events :=
  List.mem_filterMap.mpr ⟨.call call, member, rfl⟩

namespace Machine

variable {State Call : Type*}

/-- The store after a crash and recovery. -/
def recovered (machine : Machine State Value) : Store Value := recover machine.home machine.log

variable (cache : Cache State Value) (step : State -> Call -> State)

/-- Commit is all or nothing, with the contents of the blocks at that moment.
A checkpoint retires the oldest transaction after writing it home. -/
def next (machine : Machine State Value) : Event Key Call -> Machine State Value
  | .call call => { machine with state := step machine.state call }
  | .commit =>
      { machine with
        log := machine.log ++ [⟨cache.running machine.state, cache.image machine.state⟩]
        state := cache.restart machine.state }
  | .checkpoint =>
      match machine.log with
      | [] => machine
      | oldest :: log => { machine with home := replay machine.home oldest, log := log }
  | .writeHome key =>
      { machine with home := Function.update machine.home key (machine.recovered key) }

/-- Every block outside the running transaction is cached as it would be recovered. -/
def Covered (machine : Machine State Value) : Prop :=
  forall key, key ∉ cache.running machine.state ->
    cache.image machine.state key = machine.recovered key

theorem recovered_commit (machine : Machine State Value) :
    (next cache step machine .commit).recovered =
      replay machine.recovered ⟨cache.running machine.state, cache.image machine.state⟩ :=
  recover_snoc machine.home machine.log _

/-- The commit of a covered machine makes the whole cache durable. -/
theorem recovered_commit_of_covered {machine : Machine State Value}
    (covered : machine.Covered cache) :
    (next cache step machine .commit).recovered = cache.image machine.state := by
  rw [recovered_commit]
  funext key
  by_cases member : key ∈ cache.running machine.state
  · exact replay_of_mem machine.recovered member
  · rw [replay_of_not_mem machine.recovered member, covered key member]

theorem recovered_checkpoint (machine : Machine State Value) :
    (next cache step machine .checkpoint).recovered = machine.recovered := by
  unfold next recovered
  cases pending : machine.log with
  | nil => simp only [pending]
  | cons oldest log => simp only [recover_cons]

theorem recovered_next_writeHome (machine : Machine State Value) (key : Key) :
    (next cache step machine (.writeHome key)).recovered = machine.recovered :=
  recover_writeHome machine.home machine.log key

theorem state_checkpoint (machine : Machine State Value) :
    (next cache step machine .checkpoint).state = machine.state := by
  unfold next
  cases machine.log <;> rfl

/-- The crash invariant of a property of stores. -/
structure Safe (good : Store Value -> Prop) (machine : Machine State Value) : Prop where
  cached : good (cache.image machine.state)
  durable : good machine.recovered
  covered : machine.Covered cache

variable {cache step}

/-- One event: a call moves the cache, a commit makes it durable, and the two
kinds of write-back move nothing that recovery can see. -/
theorem Safe.next {good : Store Value -> Prop} {admitted : Call -> Prop}
    (kept : forall state call, admitted call -> good (cache.image state) ->
      good (cache.image (step state call)))
    (covers : forall state call, admitted call -> forall key,
      key ∉ cache.running (step state call) ->
        key ∉ cache.running state ∧
          cache.image (step state call) key = cache.image state key)
    {machine : Machine State Value} (safe : machine.Safe cache good)
    (event : Event Key Call) (permitted : forall call, event = .call call -> admitted call) :
    (machine.next cache step event).Safe cache good := by
  cases event with
  | call call =>
      have allowed := permitted call rfl
      refine ⟨kept machine.state call allowed safe.cached, safe.durable, ?_⟩
      intro key absent
      have before := covers machine.state call allowed key absent
      exact before.2.trans (safe.covered key before.1)
  | commit =>
      have snapshot := recovered_commit_of_covered cache step safe.covered
      refine ⟨?_, snapshot.symm ▸ safe.cached, ?_⟩
      · exact (cache.image_restart machine.state).symm ▸ safe.cached
      · intro key _
        rw [snapshot]
        exact congrFun (cache.image_restart machine.state) key
  | checkpoint =>
      refine ⟨?_, ?_, ?_⟩
      · rw [state_checkpoint]
        exact safe.cached
      · rw [recovered_checkpoint]
        exact safe.durable
      · unfold Covered
        rw [recovered_checkpoint, state_checkpoint]
        exact safe.covered
  | writeHome key =>
      refine ⟨safe.cached, ?_, ?_⟩
      · rw [recovered_next_writeHome]
        exact safe.durable
      · unfold Covered
        rw [recovered_next_writeHome]
        exact safe.covered

/-- The crash rule: a safe machine recovers to a good store at every prefix. -/
theorem recovered_always (good : Store Value -> Prop) {admitted : Call -> Prop}
    (kept : forall state call, admitted call -> good (cache.image state) ->
      good (cache.image (step state call)))
    (covers : forall state call, admitted call -> forall key,
      key ∉ cache.running (step state call) ->
        key ∉ cache.running state ∧
          cache.image (step state call) key = cache.image state key)
    {start : Machine State Value} (safe : start.Safe cache good)
    (events : List (Event Key Call))
    (all : forall call, call ∈ callsOf events -> admitted call) :
    Run.Always (next cache step) start events fun machine => good machine.recovered := by
  have invariant : Run.Always (next cache step) start events fun machine =>
      machine.Safe cache good := by
    have permitted : forall event, event ∈ events ->
        forall call : Call, event = .call call -> admitted call := by
      intro event member call same
      exact all call (mem_callsOf (same ▸ member))
    refine Run.always_of_step (fun machine : Machine State Value => machine.Safe cache good)
      ?_ safe events permitted
    intro machine event allowed before
    exact before.next kept covers event allowed
  intro visited short
  exact (invariant visited short).durable

end Machine

end Journal

end Foundation
end Evfs
