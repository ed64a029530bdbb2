import Evfs.Foundation.Runs
import Mathlib.Algebra.BigOperators.Group.Finset.Basic

namespace Evfs
namespace Foundation

/-!
# Updates of a shared register without a lock

Each thread loads a register, adds an amount of its own, and stores the sum.  A
store overwrites what other threads have stored since the load, so their
updates are lost.

Whatever the interleaving, the register holds its first value with the updates
of some of the threads that have stored, and once one thread has stored this
is not the empty selection.  Nothing more can be said: every nonempty selection
is the outcome of some schedule in which all threads finish.
-/

namespace LostUpdates

/-- How far a thread is, with the value that it has loaded. -/
inductive Stage (Value : Type*) where
  | idle
  | loaded (value : Value)
  | stored

@[ext]
structure State (Thread Value : Type*) where
  register : Value
  stage : Thread -> Stage Value

section Outcomes

variable {Thread Value : Type*} [DecidableEq Thread] [AddCommMonoid Value]
  (delta : Thread -> Value)

/-- The next step of a thread: its load, then its store. -/
def next (state : State Thread Value) (thread : Thread) : State Thread Value :=
  match state.stage thread with
  | .idle =>
      { state with stage := Function.update state.stage thread (.loaded state.register) }
  | .loaded value =>
      { register := value + delta thread, stage := Function.update state.stage thread .stored }
  | .stored => state

/-- A value consists of the first one and the updates of `kept`, all of which
have been stored. -/
structure Includes (start : Value) (state : State Thread Value) (kept : Finset Thread)
    (value : Value) : Prop where
  stored : forall thread, thread ∈ kept -> state.stage thread = .stored
  total : value = start + kept.sum delta

/-- The register and every loaded value are accounted for by stored updates. -/
structure Accounted (start : Value) (state : State Thread Value) : Prop where
  register : exists kept, Includes delta start state kept state.register ∧
    (kept = ∅ -> forall thread, state.stage thread ≠ .stored)
  loaded : forall thread value, state.stage thread = .loaded value ->
    exists kept, Includes delta start state kept value

variable {delta} {start : Value}

/-! ## One step -/

theorem next_of_idle {state : State Thread Value} {thread : Thread}
    (idle : state.stage thread = .idle) :
    next delta state thread =
      { state with stage := Function.update state.stage thread (.loaded state.register) } := by
  simp only [next, idle]

theorem next_of_loaded {state : State Thread Value} {thread : Thread} {value : Value}
    (loaded : state.stage thread = .loaded value) :
    next delta state thread =
      { register := value + delta thread
        stage := Function.update state.stage thread .stored } := by
  simp only [next, loaded]

theorem next_of_stored {state : State Thread Value} {thread : Thread}
    (stored : state.stage thread = .stored) : next delta state thread = state := by
  simp only [next, stored]

theorem stage_next_of_ne {other thread : Thread} (different : other ≠ thread)
    (state : State Thread Value) :
    (next delta state thread).stage other = state.stage other := by
  cases stage : state.stage thread with
  | idle =>
      rw [next_of_idle stage]
      exact Function.update_of_ne different _ _
  | loaded value =>
      rw [next_of_loaded stage]
      exact Function.update_of_ne different _ _
  | stored => rw [next_of_stored stage]

theorem stage_next_of_idle {state : State Thread Value} {thread : Thread}
    (idle : state.stage thread = .idle) :
    (next delta state thread).stage thread = .loaded state.register := by
  rw [next_of_idle idle]
  exact Function.update_self _ _ _

theorem stage_next_of_loaded {state : State Thread Value} {thread : Thread} {value : Value}
    (loaded : state.stage thread = .loaded value) :
    (next delta state thread).stage thread = .stored := by
  rw [next_of_loaded loaded]
  exact Function.update_self _ _ _

/-- What has been stored stays stored. -/
theorem stored_next {state : State Thread Value} {other : Thread}
    (stored : state.stage other = .stored) (thread : Thread) :
    (next delta state thread).stage other = .stored := by
  by_cases same : other = thread
  · subst same
    rwa [next_of_stored stored]
  · rwa [stage_next_of_ne same]

theorem Includes.next {state : State Thread Value} {kept : Finset Thread} {value : Value}
    (includes : Includes delta start state kept value) (thread : Thread) :
    Includes delta start (next delta state thread) kept value :=
  ⟨fun other member => stored_next (includes.stored other member) thread, includes.total⟩

/-- A thread that stores has not stored before, so its own update is new. -/
theorem Includes.store {state : State Thread Value} {kept : Finset Thread} {value : Value}
    (includes : Includes delta start state kept value) {thread : Thread}
    (loaded : state.stage thread = .loaded value) :
    Includes delta start (LostUpdates.next delta state thread) (insert thread kept)
      (value + delta thread) := by
  have fresh : thread ∉ kept := by
    intro member
    rw [includes.stored thread member] at loaded
    cases loaded
  constructor
  · intro other member
    rcases Finset.mem_insert.mp member with same | earlier
    · rw [same, stage_next_of_loaded loaded]
    · exact stored_next (includes.stored other earlier) thread
  · rw [Finset.sum_insert fresh, includes.total, add_assoc, add_comm (kept.sum delta)]

/-- The step lemma. -/
theorem Accounted.next {state : State Thread Value} (accounted : Accounted delta start state)
    (thread : Thread) : Accounted delta start (LostUpdates.next delta state thread) := by
  rcases accounted.register with ⟨kept, includes, nonempty⟩
  have others : forall other value, other ≠ thread ->
      (LostUpdates.next delta state thread).stage other = .loaded value ->
        exists kept, Includes delta start (LostUpdates.next delta state thread) kept value := by
    intro other value different loaded
    rw [stage_next_of_ne different] at loaded
    rcases accounted.loaded other value loaded with ⟨earlier, accountedFor⟩
    exact ⟨earlier, accountedFor.next thread⟩
  cases stage : state.stage thread with
  | idle =>
      have unchanged : (LostUpdates.next delta state thread).register = state.register := by
        rw [next_of_idle stage]
      refine ⟨⟨kept, unchanged ▸ includes.next thread, ?_⟩, ?_⟩
      · intro empty other stored
        by_cases same : other = thread
        · rw [same, stage_next_of_idle stage] at stored
          cases stored
        · rw [stage_next_of_ne same] at stored
          exact nonempty empty other stored
      · intro other value loaded
        by_cases same : other = thread
        · -- the new load is of the register
          rw [same, stage_next_of_idle stage, Stage.loaded.injEq] at loaded
          rw [← loaded]
          exact ⟨kept, includes.next thread⟩
        · exact others other value same loaded
  | loaded value =>
      rcases accounted.loaded thread value stage with ⟨earlier, accountedFor⟩
      have written : (LostUpdates.next delta state thread).register = value + delta thread := by
        rw [next_of_loaded stage]
      refine ⟨⟨insert thread earlier, written ▸ accountedFor.store stage, ?_⟩, ?_⟩
      · intro empty
        exact absurd empty (Finset.insert_ne_empty thread earlier)
      · intro other later loaded
        by_cases same : other = thread
        · rw [same, stage_next_of_loaded stage] at loaded
          cases loaded
        · exact others other later same loaded
  | stored =>
      rwa [next_of_stored stage]

omit [DecidableEq Thread] in
theorem accounted_of_idle {state : State Thread Value}
    (idle : forall thread, state.stage thread = .idle) :
    Accounted delta state.register state := by
  constructor
  · refine ⟨∅, ⟨?_, ?_⟩, ?_⟩
    · intro thread member
      exact absurd member (Finset.notMem_empty thread)
    · rw [Finset.sum_empty, add_zero]
    · intro _ thread stored
      rw [idle thread] at stored
      cases stored
  · intro thread value loaded
    rw [idle thread] at loaded
    cases loaded

/-! ## All interleavings -/

/-- The run lemma: after any schedule the register is accounted for. -/
theorem exec_accounted {state : State Thread Value}
    (idle : forall thread, state.stage thread = .idle) (schedule : List Thread) :
    Accounted delta state.register (Run.exec (next delta) state schedule) :=
  Run.always_exec (Run.always_of_step (Accounted delta state.register)
    (fun _ thread _ accounted => Accounted.next accounted thread) (accounted_of_idle idle)
    schedule (fun _ _ => True.intro))

/-- A system each of whose steps is invisible in the register and the stages,
or is one step of a thread, has an accountable register. -/
theorem accounted_of_simulated {Detailed Call : Type*} {step : Detailed -> Call -> Detailed}
    {view : Detailed -> State Thread Value} {invariant : Detailed -> Prop}
    (kept : forall state call, invariant state -> invariant (step state call))
    (simulates : forall state call, invariant state ->
      view (step state call) = view state ∨
        exists thread, view (step state call) = next delta (view state) thread)
    {initial : Detailed} (holds : invariant initial)
    (idle : forall thread, (view initial).stage thread = .idle) (calls : List Call) :
    Accounted delta (view initial).register (view (Run.exec step initial calls)) := by
  rcases Run.exec_simulated kept simulates holds calls with ⟨schedule, agrees⟩
  rw [agrees]
  exact exec_accounted idle schedule

/-- Loads one after another all find the same value. -/
theorem exec_loads {order : List Thread} (distinct : order.Nodup) (state : State Thread Value)
    (idle : forall thread, thread ∈ order -> state.stage thread = .idle) :
    Run.exec (next delta) state order =
      { register := state.register
        stage := fun thread =>
          if thread ∈ order then .loaded state.register else state.stage thread } := by
  induction order generalizing state with
  | nil => simp
  | cons first order inductionHypothesis =>
      have parts := List.nodup_cons.mp distinct
      rw [Run.exec_cons, next_of_idle (idle first List.mem_cons_self), inductionHypothesis parts.2]
      · apply State.ext
        · rfl
        · funext thread
          by_cases same : thread = first
          · subst same
            simp [parts.1]
          · simp [same]
      · intro thread member
        have different : thread ≠ first := fun same => parts.1 (same ▸ member)
        exact (Function.update_of_ne different _ _).trans
          (idle thread (List.mem_cons_of_mem first member))

/-- Stores one after another: the stages, whatever the register ends as. -/
theorem exec_stores_stage {order : List Thread} (distinct : order.Nodup) {value : Value}
    (state : State Thread Value)
    (loaded : forall thread, thread ∈ order -> state.stage thread = .loaded value) :
    (Run.exec (next delta) state order).stage =
      fun thread => if thread ∈ order then .stored else state.stage thread := by
  induction order generalizing state with
  | nil => simp
  | cons first order inductionHypothesis =>
      have parts := List.nodup_cons.mp distinct
      rw [Run.exec_cons, next_of_loaded (loaded first List.mem_cons_self),
        inductionHypothesis parts.2]
      · funext thread
        by_cases same : thread = first
        · subst same
          simp [parts.1]
        · simp [same]
      · intro thread member
        have different : thread ≠ first := fun same => parts.1 (same ▸ member)
        exact (Function.update_of_ne different _ _).trans
          (loaded thread (List.mem_cons_of_mem first member))

/-- Undisturbed threads keep all their updates. -/
theorem exec_pairs {order : List Thread} (distinct : order.Nodup) (state : State Thread Value)
    (idle : forall thread, thread ∈ order -> state.stage thread = .idle) :
    Run.exec (next delta) state (order.flatMap fun thread => [thread, thread]) =
      { register := state.register + order.toFinset.sum delta
        stage := fun thread =>
          if thread ∈ order then .stored else state.stage thread } := by
  induction order generalizing state with
  | nil => simp
  | cons first order inductionHypothesis =>
      have parts := List.nodup_cons.mp distinct
      have fresh : first ∉ order.toFinset := fun member => parts.1 (List.mem_toFinset.mp member)
      have loads := @next_of_idle _ _ _ _ delta _ _ (idle first List.mem_cons_self)
      have stores : next delta (next delta state first) first =
          { register := state.register + delta first
            stage := Function.update state.stage first .stored } := by
        rw [loads, next_of_loaded (Function.update_self _ _ _), Function.update_idem]
      rw [List.flatMap_cons, Run.exec_append, Run.exec_cons, Run.exec_cons, Run.exec_nil, stores,
        inductionHypothesis parts.2]
      · apply State.ext
        · rw [List.toFinset_cons, Finset.sum_insert fresh, add_assoc]
        · funext thread
          by_cases same : thread = first
          · subst same
            simp [parts.1]
          · simp [same]
      · intro thread member
        have different : thread ≠ first := fun same => parts.1 (same ▸ member)
        exact (Function.update_of_ne different _ _).trans
          (idle thread (List.mem_cons_of_mem first member))

/-- The schedule that loses the updates of `lost` and keeps the others: the
threads of `lost` and the first of the others load, and that one stores last. -/
def losing (first : Thread) (rest lost : List Thread) : List Thread :=
  (lost ++ [first]) ++ (lost ++ ([first] ++ rest.flatMap fun thread => [thread, thread]))

theorem exec_losing {first : Thread} {rest lost : List Thread}
    (distinct : (first :: rest ++ lost).Nodup) {state : State Thread Value}
    (idle : forall thread, thread ∈ first :: rest ++ lost -> state.stage thread = .idle) :
    (Run.exec (next delta) state (losing first rest lost)).register =
        state.register + (first :: rest).toFinset.sum delta ∧
      forall thread, (Run.exec (next delta) state (losing first rest lost)).stage thread =
        if thread ∈ first :: rest ++ lost then .stored else state.stage thread := by
  rcases List.nodup_append.mp distinct with ⟨keptDistinct, lostDistinct, apart⟩
  have parts := List.nodup_cons.mp keptDistinct
  have firstLost : first ∉ lost := fun member => apart first List.mem_cons_self first member rfl
  have restLost : forall thread, thread ∈ rest -> thread ∉ lost :=
    fun thread kept member => apart thread (List.mem_cons_of_mem first kept) thread member rfl
  have loaders : (lost ++ [first]).Nodup := by
    rw [List.nodup_append]
    refine ⟨lostDistinct, List.nodup_singleton first, ?_⟩
    intro thread member other single same
    rw [List.mem_singleton.mp single] at same
    exact firstLost (same ▸ member)
  have loads := @exec_loads _ _ _ _ delta _ loaders state
    (fun thread member => idle thread (by
      rcases List.mem_append.mp member with inLost | single
      · exact List.mem_append_right _ inLost
      · rw [List.mem_singleton.mp single]
        exact List.mem_append_left _ List.mem_cons_self))
  obtain ⟨overwritten, overwrittenEq⟩ : exists overwritten, overwritten =
      Run.exec (next delta) (Run.exec (next delta) state (lost ++ [first])) lost := ⟨_, rfl⟩
  have overwrittenStage : overwritten.stage = fun thread =>
      if thread ∈ lost then .stored
      else if thread = first then .loaded state.register else state.stage thread := by
    rw [overwrittenEq, @exec_stores_stage _ _ _ _ _ _ lostDistinct state.register]
    · funext thread
      rw [loads]
      by_cases member : thread ∈ lost <;> simp [member]
    · intro thread member
      rw [loads]
      simp [member]
  have firstStores : next delta overwritten first =
      { register := state.register + delta first
        stage := Function.update overwritten.stage first .stored } :=
    next_of_loaded (by rw [overwrittenStage]; simp [firstLost])
  have finished : Run.exec (next delta) state (losing first rest lost) =
      Run.exec (next delta) (next delta overwritten first)
        (rest.flatMap fun thread => [thread, thread]) := by
    rw [losing, Run.exec_append, Run.exec_append, ← overwrittenEq, Run.exec_append, Run.exec_cons,
      Run.exec_nil]
  rw [finished, firstStores, exec_pairs parts.2]
  · constructor
    · have fresh : first ∉ rest.toFinset := fun member => parts.1 (List.mem_toFinset.mp member)
      rw [List.toFinset_cons, Finset.sum_insert fresh, add_assoc]
    · intro thread
      rw [overwrittenStage]
      by_cases same : thread = first
      · subst same
        simp
      · by_cases inRest : thread ∈ rest
        · simp [inRest]
        · by_cases inLost : thread ∈ lost <;> simp [same, inRest, inLost]
  · intro thread member
    have different : thread ≠ first := fun same => parts.1 (same ▸ member)
    rw [overwrittenStage]
    simp only [Function.update_of_ne different, if_neg (restLost thread member), if_neg different]
    exact idle thread (List.mem_append_left _ (List.mem_cons_of_mem first member))

/-- Every nonempty selection of the updates is the outcome of a schedule in
which exactly the given threads finish. -/
theorem exists_schedule {members kept : Finset Thread} (selected : kept ⊆ members)
    (nonempty : kept = ∅ -> members = ∅) {state : State Thread Value}
    (idle : forall thread, state.stage thread = .idle) :
    exists schedule : List Thread, (forall thread, thread ∈ schedule -> thread ∈ members) ∧
      (Run.exec (next delta) state schedule).register = state.register + kept.sum delta ∧
      forall thread, (Run.exec (next delta) state schedule).stage thread =
        if thread ∈ members then .stored else .idle := by
  cases listed : kept.toList with
  | nil =>
      have empty := Finset.toList_eq_nil.mp listed
      refine ⟨[], ?_, ?_, ?_⟩
      · intro thread member
        exact absurd member List.not_mem_nil
      · rw [empty, Finset.sum_empty, add_zero, Run.exec_nil]
      · intro thread
        rw [nonempty empty, if_neg (Finset.notMem_empty thread), Run.exec_nil, idle thread]
  | cons first rest =>
      have lost : forall thread, thread ∈ (members \ kept).toList ↔
          thread ∈ members ∧ thread ∉ kept := by
        intro thread
        rw [Finset.mem_toList, Finset.mem_sdiff]
      have keeps : forall thread, thread ∈ first :: rest ↔ thread ∈ kept := by
        intro thread
        rw [← listed, Finset.mem_toList]
      have everyone : forall thread,
          thread ∈ first :: rest ++ (members \ kept).toList ↔ thread ∈ members := by
        intro thread
        rw [List.mem_append, keeps, lost]
        by_cases inKept : thread ∈ kept
        · exact iff_of_true (Or.inl inKept) (selected inKept)
        · simp [inKept]
      have distinct : (first :: rest ++ (members \ kept).toList).Nodup := by
        rw [List.nodup_append]
        refine ⟨listed ▸ kept.nodup_toList, (members \ kept).nodup_toList, ?_⟩
        intro thread inKept other inLost same
        rw [← same] at inLost
        exact ((lost thread).mp inLost).2 ((keeps thread).mp inKept)
      have outcome := @exec_losing _ _ _ _ delta _ _ _ distinct _ (fun thread _ => idle thread)
      refine ⟨losing first rest (members \ kept).toList, ?_, ?_, ?_⟩
      · intro thread member
        apply (everyone thread).mp
        simp only [losing, List.mem_append, List.mem_flatMap, List.mem_cons, List.not_mem_nil,
          or_false, or_self] at member ⊢
        grind
      · rw [outcome.1]
        congr 2
        ext thread
        rw [List.mem_toFinset, keeps]
      · intro thread
        rw [outcome.2 thread, idle thread]
        simp only [everyone]

end Outcomes

end LostUpdates

end Foundation
end Evfs
