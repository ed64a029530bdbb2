import Mathlib.Algebra.BigOperators.Group.Finset.Basic
import Mathlib.Algebra.Group.End
import Mathlib.Data.List.Infix

namespace Evfs
namespace Foundation

/-!
# Runs of a deterministic transition system

A run is a finite list of calls executed from a supplied state.  The visited
states are the results of its prefixes, the start included.  Safety is stated
about every visited state, not only about the last one, because a client may
stop after any call.

`Always` speaks about visited states and `AtEachCall` about the state in
which each call is issued.  Both have a step rule, and both have an exact rule
that turns a property of the whole run into a condition on its calls.

A run can be observed through an abstraction of its states.  Where each step is
invisible or one abstract step, what the run leads to is the result of an abstract
run, and where each abstract step is performed by some run, every abstract result
is reached.  Steps that permute what some keys hold permute by their product, so
no contents are lost or doubled on the way.
-/

namespace Run

variable {State Call : Type*} {step : State -> Call -> State}

/-- The state after all calls. -/
def exec (step : State -> Call -> State) (start : State) (calls : List Call) : State :=
  calls.foldl step start

@[simp] theorem exec_nil (start : State) : exec step start [] = start := rfl

@[simp] theorem exec_cons (start : State) (call : Call) (rest : List Call) :
    exec step start (call :: rest) = exec step (step start call) rest := rfl

theorem exec_append (start : State) (first second : List Call) :
    exec step start (first ++ second) = exec step (exec step start first) second :=
  List.foldl_append

theorem exec_snoc (start : State) (calls : List Call) (call : Call) :
    exec step start (calls ++ [call]) = step (exec step start calls) call := by
  rw [exec_append, exec_cons, exec_nil]

/-- Every visited state satisfies `good`. -/
def Always (step : State -> Call -> State) (start : State) (calls : List Call)
    (good : State -> Prop) : Prop :=
  forall visited, visited <+: calls -> good (exec step start visited)

/-- Every call is issued in a state that stands in `holds` with it. -/
def AtEachCall (step : State -> Call -> State) (start : State) (calls : List Call)
    (holds : State -> Call -> Prop) : Prop :=
  forall visited call, visited ++ [call] <+: calls -> holds (exec step start visited) call

theorem always_nil (start : State) (good : State -> Prop) :
    Always step start [] good ↔ good start := by
  constructor
  · intro always
    exact always [] (List.prefix_refl [])
  · intro initial visited short
    rw [List.prefix_nil.mp short]
    exact initial

theorem always_cons (start : State) (call : Call) (rest : List Call) (good : State -> Prop) :
    Always step start (call :: rest) good ↔
      good start ∧ Always step (step start call) rest good := by
  constructor
  · intro always
    refine ⟨always [] List.nil_prefix, ?_⟩
    intro visited short
    exact always (call :: visited) (List.prefix_cons_inj call |>.mpr short)
  · rintro ⟨initial, later⟩ visited short
    rcases List.prefix_cons_iff.mp short with empty | ⟨tail, same, tailShort⟩
    · subst empty
      exact initial
    · subst same
      exact later tail tailShort

theorem atEachCall_nil (start : State) (holds : State -> Call -> Prop) :
    AtEachCall step start [] holds := by
  intro visited call short
  have empty := List.prefix_nil.mp short
  exact absurd empty (List.append_ne_nil_of_right_ne_nil visited (List.cons_ne_nil call []))

theorem atEachCall_cons (start : State) (call : Call) (rest : List Call)
    (holds : State -> Call -> Prop) :
    AtEachCall step start (call :: rest) holds ↔
      holds start call ∧ AtEachCall step (step start call) rest holds := by
  constructor
  · intro each
    refine ⟨each [] call (by simp), ?_⟩
    intro visited next short
    exact each (call :: visited) next (List.prefix_cons_inj call |>.mpr short)
  · rintro ⟨first, later⟩ visited next short
    rcases List.prefix_cons_iff.mp short with empty | ⟨tail, same, tailShort⟩
    · exact absurd empty (List.append_ne_nil_of_right_ne_nil visited (List.cons_ne_nil next []))
    · cases visited with
      | nil =>
          rw [List.nil_append, List.cons.injEq] at same
          rw [same.1]
          exact first
      | cons head visited =>
          rw [List.cons_append, List.cons.injEq] at same
          rw [same.1]
          exact later visited next (same.2 ▸ tailShort)

theorem atEachCall_append (start : State) (first second : List Call)
    (holds : State -> Call -> Prop) :
    AtEachCall step start (first ++ second) holds ↔
      AtEachCall step start first holds ∧ AtEachCall step (exec step start first) second holds := by
  induction first generalizing start with
  | nil =>
      rw [List.nil_append, exec_nil]
      exact (and_iff_right (atEachCall_nil start holds)).symm
  | cons call rest inductionHypothesis =>
      rw [List.cons_append, atEachCall_cons, atEachCall_cons, inductionHypothesis, exec_cons,
        and_assoc]

theorem always_start {start : State} {calls : List Call} {good : State -> Prop}
    (always : Always step start calls good) : good start :=
  always [] List.nil_prefix

theorem always_exec {start : State} {calls : List Call} {good : State -> Prop}
    (always : Always step start calls good) : good (exec step start calls) :=
  always calls (List.prefix_refl calls)

/-! ## Step rules -/

/-- The invariant rule: `good` is kept by every admitted call. -/
theorem always_of_step (good : State -> Prop) {admitted : Call -> Prop}
    (kept : forall state call, admitted call -> good state -> good (step state call))
    {start : State} (initial : good start) (calls : List Call)
    (all : forall call, call ∈ calls -> admitted call) :
    Always step start calls good := by
  induction calls generalizing start with
  | nil => exact (always_nil start good).mpr initial
  | cons call rest inductionHypothesis =>
      refine (always_cons start call rest good).mpr ⟨initial, ?_⟩
      exact inductionHypothesis (kept start call (all call List.mem_cons_self) initial)
        (fun later member => all later (List.mem_cons_of_mem call member))

/-- The invariant rule where a call is admitted by the state in which it is issued. -/
theorem always_of_atEachCall (good : State -> Prop) {holds : State -> Call -> Prop}
    (kept : forall state call, holds state call -> good state -> good (step state call))
    {start : State} (initial : good start) {calls : List Call}
    (each : AtEachCall step start calls holds) : Always step start calls good := by
  induction calls generalizing start with
  | nil => exact (always_nil start good).mpr initial
  | cons call rest inductionHypothesis =>
      rcases (atEachCall_cons start call rest holds).mp each with ⟨first, later⟩
      exact (always_cons start call rest good).mpr
        ⟨initial, inductionHypothesis (kept start call first initial) later⟩

/-- The exact rule: where one step keeps `good` if and only if its call is
issued in a state that stands in `holds` with it, a run stays good if and only
if all its calls are.  The steps may use an invariant of the admitted calls. -/
theorem always_iff_atEachCall_under (invariant good : State -> Prop) {admitted : Call -> Prop}
    {holds : State -> Call -> Prop}
    (kept : forall state call, admitted call -> invariant state -> invariant (step state call))
    (exact_step : forall state call, admitted call -> invariant state -> good state ->
      (good (step state call) ↔ holds state call))
    {start : State} (invariantStart : invariant start) (initial : good start) (calls : List Call)
    (all : forall call, call ∈ calls -> admitted call) :
    Always step start calls good ↔ AtEachCall step start calls holds := by
  induction calls generalizing start with
  | nil =>
      rw [always_nil]
      exact iff_of_true initial (atEachCall_nil start holds)
  | cons call rest inductionHypothesis =>
      have allowed := all call List.mem_cons_self
      have firstCall := exact_step start call allowed invariantStart initial
      have laterCalls : good (step start call) ->
          (Always step (step start call) rest good ↔
            AtEachCall step (step start call) rest holds) := fun next =>
        inductionHypothesis (kept start call allowed invariantStart) next
          fun later member => all later (List.mem_cons_of_mem call member)
      rw [always_cons, atEachCall_cons]
      constructor
      · rintro ⟨_, later⟩
        have next := always_start later
        exact ⟨firstCall.mp next, (laterCalls next).mp later⟩
      · rintro ⟨first, others⟩
        have next := firstCall.mpr first
        exact ⟨initial, (laterCalls next).mpr others⟩

/-- The exact rule without an invariant. -/
theorem always_iff_atEachCall (good : State -> Prop) {holds : State -> Call -> Prop}
    (exact_step : forall state call, good state -> (good (step state call) ↔ holds state call))
    {start : State} (initial : good start) (calls : List Call) :
    Always step start calls good ↔ AtEachCall step start calls holds :=
  @always_iff_atEachCall_under _ _ step (fun _ => True) good (fun _ => True) holds
    (fun _ _ _ _ => trivial) (fun state call _ _ => exact_step state call) start trivial initial
    calls (fun _ _ => trivial)

/-- The exact rule for a property of the issuing states, under an invariant
that holds whatever is called. -/
theorem atEachCall_iff_forall (invariant : State -> Prop) {holds : State -> Call -> Prop}
    {admitted : Call -> Prop}
    (kept : forall state call, invariant state -> invariant (step state call))
    (exact_call : forall state call, invariant state -> (holds state call ↔ admitted call))
    {start : State} (initial : invariant start) (calls : List Call) :
    AtEachCall step start calls holds ↔ forall call, call ∈ calls -> admitted call := by
  induction calls generalizing start with
  | nil =>
      simp only [List.not_mem_nil, false_imp_iff, implies_true, iff_true]
      exact atEachCall_nil start holds
  | cons call rest inductionHypothesis =>
      rw [atEachCall_cons, List.forall_mem_cons, exact_call start call initial,
        inductionHypothesis (kept start call initial)]

/-- The exact rule where the condition is on the calls alone. -/
theorem always_iff_forall (good : State -> Prop) {admitted : Call -> Prop}
    (exact_step : forall state call, good state -> (good (step state call) ↔ admitted call))
    {start : State} (initial : good start) (calls : List Call) :
    Always step start calls good ↔ forall call, call ∈ calls -> admitted call := by
  rw [always_iff_atEachCall good exact_step initial]
  exact atEachCall_iff_forall (fun _ : State => True) (fun _ _ _ => trivial)
    (fun _ call _ => Iff.refl (admitted call)) trivial calls

/-! ## Simulation -/

section Simulation

variable {State Call AbstractState AbstractCall : Type*}
  {step : State -> Call -> State}
  {abstractStep : AbstractState -> AbstractCall -> AbstractState}
  {abstraction : State -> AbstractState} {invariant : State -> Prop}

/-- Forward simulation: the calls that are visible make up the abstract run. -/
theorem exec_simulated
    (kept : forall state call, invariant state -> invariant (step state call))
    (simulates : forall state call, invariant state ->
      abstraction (step state call) = abstraction state ∨
        exists abstractCall,
          abstraction (step state call) = abstractStep (abstraction state) abstractCall)
    {start : State} (initial : invariant start) (calls : List Call) :
    exists abstractCalls : List AbstractCall,
      abstraction (exec step start calls) =
        exec abstractStep (abstraction start) abstractCalls := by
  induction calls generalizing start with
  | nil => exact ⟨[], rfl⟩
  | cons call rest inductionHypothesis =>
      rcases inductionHypothesis (kept start call initial) with ⟨later, agrees⟩
      rw [exec_cons]
      rcases simulates start call initial with invisible | ⟨abstractCall, visible⟩
      · rw [invisible] at agrees
        exact ⟨later, agrees⟩
      · rw [visible] at agrees
        exact ⟨abstractCall :: later, agrees⟩

/-- Realization: the runs that perform the abstract calls one by one make up
a run that performs them all. -/
theorem exec_realized {admitted : AbstractCall -> Prop}
    (performs : forall state abstractCall, admitted abstractCall -> invariant state ->
      exists calls : List Call,
        invariant (exec step state calls) ∧
          abstraction (exec step state calls) = abstractStep (abstraction state) abstractCall)
    {start : State} (initial : invariant start) {abstractCalls : List AbstractCall}
    (all : forall abstractCall, abstractCall ∈ abstractCalls -> admitted abstractCall) :
    exists calls : List Call,
      invariant (exec step start calls) ∧
        abstraction (exec step start calls) =
          exec abstractStep (abstraction start) abstractCalls := by
  induction abstractCalls generalizing start with
  | nil => exact ⟨[], initial, rfl⟩
  | cons abstractCall rest inductionHypothesis =>
      rcases performs start abstractCall (all abstractCall List.mem_cons_self) initial with
        ⟨first, reached, agrees⟩
      rcases inductionHypothesis reached
        (fun later member => all later (List.mem_cons_of_mem abstractCall member)) with
        ⟨second, finished, follows⟩
      refine ⟨first ++ second, ?_, ?_⟩
      · rwa [exec_append]
      · rw [exec_append, follows, agrees, exec_cons]

end Simulation

end Run

/-! ## Runs that move contents between keys -/

namespace Exchange

variable {State Call Key Value : Type*} {step : State -> Call -> State}
  {moves : State -> Call -> Equiv.Perm Key} {contents : State -> Key -> Value}

/-- The permutation of a run, step by step. -/
def product (step : State -> Call -> State) (moves : State -> Call -> Equiv.Perm Key) :
    State -> List Call -> Equiv.Perm Key
  | _, [] => 1
  | state, call :: rest => moves state call * product step moves (step state call) rest

@[simp] theorem product_nil (state : State) : product step moves state [] = 1 := rfl

@[simp] theorem product_cons (state : State) (call : Call) (rest : List Call) :
    product step moves state (call :: rest) =
      moves state call * product step moves (step state call) rest := rfl

/-- The step permutes the contents by its move. -/
def Permutes (step : State -> Call -> State) (moves : State -> Call -> Equiv.Perm Key)
    (contents : State -> Key -> Value) (state : State) (call : Call) : Prop :=
  forall key, contents (step state call) key = contents state (moves state call key)

/-- The run lemma. -/
theorem contents_exec {start : State} {calls : List Call}
    (each : Run.AtEachCall step start calls (Permutes step moves contents)) (key : Key) :
    contents (Run.exec step start calls) key =
      contents start (product step moves start calls key) := by
  induction calls generalizing start with
  | nil => rfl
  | cons call rest inductionHypothesis =>
      rcases (Run.atEachCall_cons start call rest _).mp each with ⟨first, later⟩
      rw [Run.exec_cons, inductionHypothesis later, first, product_cons, Equiv.Perm.mul_apply]

/-- A key that no step moves stays where it is. -/
theorem product_apply_of_fixed {start : State} {calls : List Call} {key : Key}
    (fixed : Run.AtEachCall step start calls fun state call => moves state call key = key) :
    product step moves start calls key = key := by
  induction calls generalizing start with
  | nil => rfl
  | cons call rest inductionHypothesis =>
      rcases (Run.atEachCall_cons start call rest _).mp fixed with ⟨first, later⟩
      rw [product_cons, Equiv.Perm.mul_apply, inductionHypothesis later, first]

/-- What the contents of a set of keys add up to, if no step moves others. -/
theorem sum_exec {Amount : Type*} [AddCommMonoid Amount] (measure : Value -> Amount)
    {keys : Finset Key} {start : State} {calls : List Call}
    (each : Run.AtEachCall step start calls (Permutes step moves contents))
    (fixed : forall key, key ∉ keys ->
      Run.AtEachCall step start calls fun state call => moves state call key = key) :
    (keys.sum fun key => measure (contents (Run.exec step start calls) key)) =
      keys.sum fun key => measure (contents start key) := by
  have moved : { key | product step moves start calls key ≠ key } ⊆ (keys : Set Key) := by
    intro key different
    apply of_not_not
    intro outside
    exact different (product_apply_of_fixed (fixed key outside))
  rw [← Equiv.Perm.sum_comp _ keys (fun key => measure (contents start key)) moved]
  apply Finset.sum_congr rfl
  intro key _
  rw [contents_exec each]

end Exchange

end Foundation
end Evfs
