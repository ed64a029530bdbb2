import Evfs.Concurrency.RacingStores
import Evfs.Foundation.LostUpdates

namespace Evfs
namespace Concurrency

open Foundation Ext4

/-!
# Registers that racing calls share

A shared register is a part of memory that some of the calls load and store
without a lock.  Its view of a state forgets everything but the value of the
register and, for each of these calls, whether it is before its load, between
load and store, or past its store.

`Races` says how one step looks in that view.  It suffices for the exact set of
outcomes: what complete interleavings leave in the register is what the threads
of the lost-update library leave in theirs.
-/

section

variable {code : Ext4Code} {n : Nat} {calls : Fin n -> FlipCall} {Value : Type*}
  [AddCommMonoid Value]

structure SharedRegister (n : Nat) (Value : Type*) where
  /-- The calls that update the register. -/
  members : Finset (Fin n)
  read : Memory -> Value
  stageOf : Progress -> LostUpdates.Stage Value

namespace SharedRegister

/-- What is left of a state. -/
def view (register : SharedRegister n Value) (state : FlipState n) :
    LostUpdates.State (Fin n) Value where
  register := register.read state.mem
  stage := fun thread =>
    if thread ∈ register.members then register.stageOf (state.progress thread) else .idle

/-- One step in the view: other calls keep the register, and a step of a member
is its load, its store, or invisible.  `delta` is what each member adds. -/
structure Races (register : SharedRegister n Value) (code : Ext4Code)
    (calls : Fin n -> FlipCall) (mem : Memory) (delta : Fin n -> Value) : Prop where
  start : register.stageOf .start = .idle
  done : register.stageOf .done = .stored
  frame : forall state thread, thread ∉ register.members ->
    register.read ((flipThreads code calls).next state thread).mem = register.read state.mem
  step : forall state thread, Remembers code calls mem state -> thread ∈ register.members ->
    let after := (flipThreads code calls).next state thread
    (register.read after.mem = register.read state.mem ∧
        register.stageOf (after.progress thread) = register.stageOf (state.progress thread)) ∨
      (register.stageOf (state.progress thread) = .idle ∧
        register.read after.mem = register.read state.mem ∧
        register.stageOf (after.progress thread) = .loaded (register.read state.mem)) ∨
      exists value, register.stageOf (state.progress thread) = .loaded value ∧
        register.read after.mem = value + delta thread ∧
        register.stageOf (after.progress thread) = .stored

variable {register : SharedRegister n Value} {mem : Memory} {delta : Fin n -> Value}

omit [AddCommMonoid Value] in
theorem stage_view {thread : Fin n} (member : thread ∈ register.members) (state : FlipState n) :
    (register.view state).stage thread = register.stageOf (state.progress thread) :=
  if_pos member

omit [AddCommMonoid Value] in
/-- The view after a step, from the register and the stage of the call. -/
theorem view_next {thread : Fin n} (member : thread ∈ register.members) (state : FlipState n) :
    register.view ((flipThreads code calls).next state thread) =
      { register := register.read ((flipThreads code calls).next state thread).mem
        stage := Function.update (register.view state).stage thread
          (register.stageOf (((flipThreads code calls).next state thread).progress thread)) } := by
  apply LostUpdates.State.ext
  · rfl
  · funext other
    by_cases same : other = thread
    · rw [same]
      simp only [view, if_pos member, Function.update_self]
    · simp only [view, Function.update_of_ne same, next_progress_of_ne same]

/-- A step of another call is invisible. -/
theorem Races.view_next_of_not_mem (races : register.Races code calls mem delta) {thread : Fin n}
    (outside : thread ∉ register.members) (state : FlipState n) :
    register.view ((flipThreads code calls).next state thread) = register.view state := by
  apply LostUpdates.State.ext
  · exact races.frame state thread outside
  · funext other
    by_cases same : other = thread
    · rw [same]
      simp only [view, if_neg outside]
    · simp only [view, next_progress_of_ne same]

/-- A step of a member is invisible, or it is the next step of a thread of the library. -/
theorem Races.view_next_of_mem (races : register.Races code calls mem delta) {state : FlipState n}
    (remembers : Remembers code calls mem state) {thread : Fin n}
    (member : thread ∈ register.members) :
    register.view ((flipThreads code calls).next state thread) = register.view state ∨
      register.view ((flipThreads code calls).next state thread) =
        LostUpdates.next delta (register.view state) thread := by
  have own := stage_view member state
  rcases races.step state thread remembers member with
    ⟨kept, same⟩ | ⟨idle, kept, loads⟩ | ⟨value, loaded, stores, stored⟩
  · left
    apply LostUpdates.State.ext
    · exact kept
    · rw [view_next member, same, ← own, Function.update_eq_self]
  · right
    rw [view_next member, LostUpdates.next_of_idle (own.trans idle), kept, loads]
    rfl
  · right
    rw [view_next member, LostUpdates.next_of_loaded (own.trans loaded), stores, stored]

theorem Races.simulates (races : register.Races code calls mem delta) (state : FlipState n)
    (thread : Fin n) (remembers : Remembers code calls mem state) :
    register.view ((flipThreads code calls).next state thread) = register.view state ∨
      exists other, register.view ((flipThreads code calls).next state thread) =
        LostUpdates.next delta (register.view state) other := by
  by_cases member : thread ∈ register.members
  · exact (races.view_next_of_mem remembers member).imp id fun step => ⟨thread, step⟩
  · exact Or.inl (races.view_next_of_not_mem member state)

/-! ## Running a member up to its next visible step -/

/-- A call that has not finished moves on. -/
theorem rank_next {state : FlipState n} {thread : Fin n}
    (unfinished : state.progress thread ≠ .done) :
    (((flipThreads code calls).next state thread).progress thread).rank =
      (state.progress thread).rank + 1 := by
  rw [next_progress_self]
  cases progress : state.progress thread
  case done => exact absurd progress unfinished
  all_goals rfl

theorem rank_le_eight (progress : Progress) : progress.rank ≤ 8 := by
  cases progress <;> simp only [Progress.rank] <;> omega

theorem eq_done_of_rank {progress : Progress} (last : 8 ≤ progress.rank) : progress = .done := by
  cases progress with
  | done => rfl
  | _ => exact absurd last (by simp only [Progress.rank]; omega)

/-- A member that runs alone reaches its next visible step: by induction on the
number of steps that it has left. -/
theorem Races.exists_visible (races : register.Races code calls mem delta)
    (distinct : DistinctClusters code calls) {thread : Fin n}
    (member : thread ∈ register.members) :
    forall (left : Nat) (state : FlipState n), Remembers code calls mem state ->
      (state.progress thread).rank + left = 8 ->
      exists steps : Nat,
        register.view (Run.exec (flipThreads code calls).next state
          (List.replicate steps thread)) =
            LostUpdates.next delta (register.view state) thread := by
  intro left
  induction left with
  | zero =>
      intro state remembers finished
      have progress : state.progress thread = .done := eq_done_of_rank (Nat.le_of_eq finished.symm)
      refine ⟨0, ?_⟩
      rw [List.replicate_zero, Run.exec_nil, LostUpdates.next_of_stored]
      rw [stage_view member, progress, races.done]
  | succ left inductionHypothesis =>
      intro state remembers remaining
      rcases races.view_next_of_mem remembers member with invisible | visible
      · have moved : (((flipThreads code calls).next state thread).progress thread).rank + left =
            8 := by
          rw [rank_next]
          · omega
          · intro progress
            rw [progress] at remaining
            simp only [Progress.rank] at remaining
            omega
        rcases inductionHypothesis _ (remembers.next distinct thread) moved with ⟨steps, reached⟩
        rw [invisible] at reached
        exact ⟨steps + 1, reached⟩
      · exact ⟨1, visible⟩

theorem Races.realizes (races : register.Races code calls mem delta)
    (distinct : DistinctClusters code calls) (state : FlipState n) (thread : Fin n)
    (member : thread ∈ register.members) (remembers : Remembers code calls mem state) :
    exists steps : List (Fin n),
      Remembers code calls mem (Run.exec (flipThreads code calls).next state steps) ∧
        register.view (Run.exec (flipThreads code calls).next state steps) =
          LostUpdates.next delta (register.view state) thread := by
  have remaining : (state.progress thread).rank + (8 - (state.progress thread).rank) = 8 :=
    Nat.add_sub_cancel' (rank_le_eight _)
  rcases races.exists_visible distinct member _ state remembers remaining with ⟨steps, reached⟩
  exact ⟨List.replicate steps thread, remembers.exec distinct _, reached⟩

/-! ## Finishing all calls -/

/-- Once all members have stored, the register is final. -/
theorem Races.exec_of_stored (races : register.Races code calls mem delta)
    (distinct : DistinctClusters code calls) {state : FlipState n}
    (remembers : Remembers code calls mem state)
    (stored : forall thread, thread ∈ register.members ->
      (register.view state).stage thread = .stored) (schedule : List (Fin n)) :
    register.view (Run.exec (flipThreads code calls).next state schedule) =
      register.view state := by
  have always : Run.Always (flipThreads code calls).next state schedule fun reached =>
      Remembers code calls mem reached ∧ register.view reached = register.view state :=
    Run.always_of_step _ (fun reached thread (_ : True) holds => by
      refine ⟨holds.1.next distinct thread, ?_⟩
      by_cases member : thread ∈ register.members
      · rcases races.view_next_of_mem holds.1 member with invisible | visible
        · exact invisible.trans holds.2
        · rw [visible, LostUpdates.next_of_stored, holds.2]
          rw [holds.2]
          exact stored thread member
      · exact (races.view_next_of_not_mem member reached).trans holds.2)
    ⟨remembers, rfl⟩ schedule (fun _ _ => True.intro)
  exact (Run.always_exec always).2

/-- Each step that a schedule gives to a call takes it on, up to its end. -/
theorem count_le_rank_exec (state : FlipState n) (schedule : List (Fin n)) (thread : Fin n) :
    min 8 ((state.progress thread).rank + schedule.count thread) ≤
      ((Run.exec (flipThreads code calls).next state schedule).progress thread).rank := by
  induction schedule generalizing state with
  | nil => exact Nat.min_le_right _ _
  | cons head rest inductionHypothesis =>
      have later := inductionHypothesis ((flipThreads code calls).next state head)
      rw [Run.exec_cons]
      refine Nat.le_trans ?_ later
      rw [List.count_cons]
      by_cases same : head = thread
      · subst same
        rw [beq_self_eq_true, if_pos rfl]
        by_cases finished : state.progress head = .done
        · rw [next_progress_self, finished]
          simp only [Progress.rank]
          omega
        · rw [rank_next finished]
          omega
      · rw [next_progress_of_ne (Ne.symm same), beq_eq_false_iff_ne.mpr same]
        simp

/-- Eight steps for each call finish all of them. -/
theorem done_of_enough {state : FlipState n} {schedule : List (Fin n)} {thread : Fin n}
    (enough : 8 ≤ schedule.count thread) :
    (Run.exec (flipThreads code calls).next state schedule).progress thread = .done := by
  have reached := @count_le_rank_exec code n calls state schedule thread
  apply eq_done_of_rank
  omega

/-- Eight steps for each call, one call after another. -/
def finishing (n : Nat) : List (Fin n) :=
  Interleaving.Threads.serial (fun _ => 8) (List.finRange n)

theorem eight_le_count_finishing (thread : Fin n) : 8 ≤ (finishing n).count thread := by
  rw [finishing, Interleaving.Threads.count_serial _ (List.nodup_finRange n),
    if_pos (List.mem_finRange thread)]

/-! ## The outcomes -/

theorem Races.idle_initial (races : register.Races code calls mem delta) (thread : Fin n) :
    (register.view (FlipState.initial n mem)).stage thread = .idle := by
  by_cases member : thread ∈ register.members
  · rw [stage_view member]
    exact races.start
  · exact if_neg member

/-- What every interleaving leaves in the register, finished or not: the
updates of some members that have stored. -/
theorem Races.accounted (races : register.Races code calls mem delta)
    (distinct : DistinctClusters code calls) (schedule : List (Fin n)) :
    LostUpdates.Accounted delta (register.read mem)
      (register.view (runSchedule code calls mem schedule)) :=
  LostUpdates.accounted_of_simulated
    (fun _ thread remembers => Remembers.next remembers distinct thread)
    (fun state thread remembers => races.simulates state thread remembers)
    (Remembers.initial mem) races.idle_initial schedule

/-- The values that complete interleavings leave in the register are exactly
the first value with the updates of a selection of the members, which is empty
only if there are no members. -/
theorem Races.outcomes (races : register.Races code calls mem delta)
    (distinct : DistinctClusters code calls) (value : Value) :
    (exists schedule, Complete code calls mem schedule ∧
      register.read (runSchedule code calls mem schedule).mem = value) ↔
    exists kept : Finset (Fin n), kept ⊆ register.members ∧
      (kept = ∅ -> register.members = ∅) ∧ value = register.read mem + kept.sum delta := by
  constructor
  · rintro ⟨schedule, complete, rfl⟩
    rcases (races.accounted distinct schedule).register with ⟨kept, includes, nonempty⟩
    refine ⟨kept, ?_, ?_, includes.total⟩
    · intro thread inKept
      refine Decidable.byContradiction fun outside => ?_
      have stored := includes.stored thread inKept
      rw [show (register.view _).stage thread = .idle from if_neg outside] at stored
      cases stored
    · intro empty
      apply Finset.eq_empty_of_forall_notMem
      intro thread member
      apply nonempty empty thread
      rw [stage_view member, complete thread, races.done]
  · rintro ⟨kept, selected, nonempty, rfl⟩
    rcases @LostUpdates.exists_schedule _ _ _ _ delta _ _ selected nonempty _
      races.idle_initial with ⟨abstractSchedule, members, reads, stages⟩
    rcases Run.exec_realized (fun state thread member remembers =>
        races.realizes distinct state thread member remembers)
      (Remembers.initial mem) members with ⟨steps, remembers, agrees⟩
    rw [← agrees] at reads stages
    have final := races.exec_of_stored distinct remembers
      (fun thread member => by rw [stages thread, if_pos member]) (finishing n)
    have split : runSchedule code calls mem (steps ++ finishing n) =
        Run.exec (flipThreads code calls).next (runSchedule code calls mem steps) (finishing n) :=
      Run.exec_append _ _ _
    refine ⟨steps ++ finishing n, ?_, ?_⟩
    · intro thread
      rw [split]
      exact done_of_enough (eight_le_count_finishing thread)
    · rw [split]
      exact (congrArg LostUpdates.State.register final).trans reads

end SharedRegister

end

end Concurrency
end Evfs
