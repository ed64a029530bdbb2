import Evfs.Foundation.Runs
import Mathlib.Data.List.Basic
import Mathlib.Logic.Function.Iterate

namespace Evfs
namespace Foundation

/-!
# Interleaved threads

Each thread acts on a shared state through a view of its own, and a schedule
is the list of the threads in the order in which they take their steps.  A
thread that runs alone iterates its step on its view.

Where the steps of different threads commute, the order of a schedule is
immaterial, and every schedule has the result of a serial one: the threads
run one after another, each with as many steps as the schedule gave it.
-/

namespace Interleaving

/-- Threads with one step function each.  A view can be read out and put back. -/
structure Threads (State Thread View : Type*) where
  view : Thread -> State -> View
  install : Thread -> View -> State -> State
  step : Thread -> View -> View
  view_install : forall thread value state, view thread (install thread value state) = value
  install_install : forall thread first second state,
    install thread second (install thread first state) = install thread second state
  install_view : forall thread state, install thread (view thread state) state = state

namespace Threads

variable {State Thread View : Type*} (threads : Threads State Thread View)

/-- One step of one thread. -/
def next (state : State) (thread : Thread) : State :=
  threads.install thread (threads.step thread (threads.view thread state)) state

/-- A thread that runs alone iterates its step. -/
theorem exec_replicate (state : State) (thread : Thread) (steps : Nat) :
    Run.exec threads.next state (List.replicate steps thread) =
      threads.install thread
        (Nat.iterate (threads.step thread) steps (threads.view thread state)) state := by
  induction steps generalizing state with
  | zero =>
      rw [List.replicate_zero, Run.exec_nil, Function.iterate_zero_apply, threads.install_view]
  | succ steps inductionHypothesis =>
      rw [List.replicate_succ, Run.exec_cons, inductionHypothesis, Function.iterate_succ_apply]
      unfold next
      rw [threads.view_install, threads.install_install]

/-- The threads of `order` one after another. -/
def serial (steps : Thread -> Nat) (order : List Thread) : List Thread :=
  order.flatMap fun thread => List.replicate (steps thread) thread

theorem serial_cons (steps : Thread -> Nat) (first : Thread) (order : List Thread) :
    serial steps (first :: order) = List.replicate (steps first) first ++ serial steps order :=
  List.flatMap_cons

theorem count_serial [DecidableEq Thread] (steps : Thread -> Nat) {order : List Thread}
    (distinct : order.Nodup) (thread : Thread) :
    (serial steps order).count thread = if thread ∈ order then steps thread else 0 := by
  induction order with
  | nil => rfl
  | cons first order inductionHypothesis =>
      have parts := List.nodup_cons.mp distinct
      rw [serial_cons, List.count_append, inductionHypothesis parts.2, List.count_replicate]
      by_cases same : first = thread
      · subst same
        simp only [beq_self_eq_true, if_true, List.mem_cons_self, if_neg parts.1, Nat.add_zero]
      · have apart : (first == thread) = false := beq_eq_false_iff_ne.mpr same
        simp only [apart, Bool.false_eq_true, if_false, Nat.zero_add, List.mem_cons,
          Ne.symm same, false_or]

/-- Commuting threads can be run one after another. -/
theorem exec_eq_serial [DecidableEq Thread]
    (commute : forall first second state,
      threads.next (threads.next state first) second =
        threads.next (threads.next state second) first)
    {order : List Thread} (distinct : order.Nodup) {schedule : List Thread}
    (listed : forall thread, thread ∈ schedule -> thread ∈ order) (start : State) :
    Run.exec threads.next start schedule =
      Run.exec threads.next start (serial (fun thread => schedule.count thread) order) := by
  have rearranged : schedule.Perm (serial (fun thread => schedule.count thread) order) := by
    rw [List.perm_iff_count]
    intro thread
    rw [count_serial _ distinct]
    by_cases member : thread ∈ order
    · rw [if_pos member]
    · rw [if_neg member]
      exact List.count_eq_zero_of_not_mem fun scheduled => member (listed thread scheduled)
  exact rearranged.foldl_eq' (fun first _ second _ state => commute first second state) start

end Threads

end Interleaving

end Foundation
end Evfs
