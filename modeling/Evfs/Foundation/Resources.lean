import Evfs.Foundation.Monitor
import Mathlib.Logic.Function.Basic

namespace Evfs
namespace Foundation

/-!
# Disciplines of resources

Code takes resources and gives them back: locks, references, handles, rights of
access.  A discipline says which resource an event takes and which it gives back,
and what must be held for it.  An exclusive resource may not be taken while it is
held, nor given back while it is not.

A discipline is a monitor whose level is what is held.  A body of code is judged by
its passages: from nothing held to nothing held, whatever it does in between.
-/

structure Discipline (Resource Event : Type*) where
  takes : Event -> Option Resource
  gives : Event -> Resource -> Bool
  /-- What the held resources must be like for the event. -/
  requires : Event -> (Resource -> Bool) -> Prop
  exclusive : Resource -> Prop

namespace Discipline

variable {Resource Event : Type*} [DecidableEq Resource] (discipline : Discipline Resource Event)

def nothing : Resource -> Bool := fun _ => false

/-- What is held after an event. -/
def after (held : Resource -> Bool) (event : Event) : Resource -> Bool := fun resource =>
  decide (discipline.takes event = some resource) ||
    held resource && !discipline.gives event resource

structure Permits (held : Resource -> Bool) (event : Event) : Prop where
  required : discipline.requires event held
  free : forall resource, discipline.exclusive resource ->
    discipline.takes event = some resource -> held resource = false
  owned : forall resource, discipline.exclusive resource ->
    discipline.gives event resource = true -> held resource = true
  single : forall resource, discipline.takes event = some resource ->
    discipline.gives event resource = false

def monitor : Monitor (Resource -> Bool) Event where
  start := nothing
  after := discipline.after
  Permits := discipline.Permits

variable {discipline}

/-! ## Passages event by event -/

section Passages

variable {held reached : Resource -> Bool} {event : Event} {rest : List Event}

theorem passes_cons (permitted : discipline.Permits held event)
    (later : discipline.monitor.Passes (discipline.after held event) rest reached) :
    discipline.monitor.Passes held (event :: rest) reached :=
  Monitor.Passes.cons permitted later

/-- At the end of a passage the same must be held. -/
theorem passes_end (same : forall resource, held resource = reached resource) :
    discipline.monitor.Passes held [] reached := by
  rw [funext same]
  exact discipline.monitor.passes_nil reached

/-- One resource is taken. -/
theorem passes_take {resource : Resource} (takes : discipline.takes event = some resource)
    (gives : forall other, discipline.gives event other = false)
    (required : discipline.requires event held)
    (free : discipline.exclusive resource -> held resource = false)
    (later : discipline.monitor.Passes (Function.update held resource true) rest reached) :
    discipline.monitor.Passes held (event :: rest) reached := by
  have left : discipline.after held event = Function.update held resource true := by
    funext other
    by_cases same : other = resource
    · simp [after, takes, gives, same]
    · simp [after, takes, gives, same, Ne.symm same]
  apply passes_cons
  · refine ⟨required, ?_, ?_, fun other _ => gives other⟩
    · intro other exclusive taken
      rw [takes] at taken
      rw [← Option.some.inj taken] at exclusive ⊢
      exact free exclusive
    · intro other _ given
      rw [gives] at given
      cases given
  · rwa [left]

/-- One resource is given back. -/
theorem passes_give {resource : Resource} (takes : discipline.takes event = none)
    (gives : forall other, discipline.gives event other = decide (other = resource))
    (required : discipline.requires event held) (owned : held resource = true)
    (later : discipline.monitor.Passes (Function.update held resource false) rest reached) :
    discipline.monitor.Passes held (event :: rest) reached := by
  have left : discipline.after held event = Function.update held resource false := by
    funext other
    by_cases same : other = resource
    · simp [after, takes, gives, same]
    · simp [after, takes, gives, same]
  apply passes_cons
  · refine ⟨required, ?_, ?_, ?_⟩
    · intro other _ taken
      rw [takes] at taken
      cases taken
    · intro other _ given
      rw [gives, decide_eq_true_iff] at given
      rw [given]
      exact owned
    · intro other taken
      rw [takes] at taken
      cases taken
  · rwa [left]

/-- Nothing is taken or given back. -/
theorem passes_steady (takes : discipline.takes event = none)
    (gives : forall other, discipline.gives event other = false)
    (required : discipline.requires event held)
    (later : discipline.monitor.Passes held rest reached) :
    discipline.monitor.Passes held (event :: rest) reached := by
  have left : discipline.after held event = held := by
    funext other
    simp [after, takes, gives]
  apply passes_cons
  · refine ⟨required, ?_, ?_, fun other _ => gives other⟩
    · intro other _ taken
      rw [takes] at taken
      cases taken
    · intro other _ given
      rw [gives] at given
      cases given
  · rwa [left]

/-- Nothing is taken or given back by any event. -/
theorem passes_all_steady {events : List Event}
    (steady : forall event, event ∈ events -> discipline.takes event = none ∧
      (forall other, discipline.gives event other = false) ∧ discipline.requires event held) :
    discipline.monitor.Passes held events held := by
  induction events with
  | nil => exact discipline.monitor.passes_nil held
  | cons event rest inductionHypothesis =>
      rcases steady event List.mem_cons_self with ⟨takes, gives, required⟩
      exact passes_steady takes gives required
        (inductionHypothesis fun later member => steady later (List.mem_cons_of_mem event member))

/-- Accepted traces that end with nothing held are continued by such passages. -/
theorem idle_append {trace events : List Event}
    (idle : discipline.monitor.Passes nothing trace nothing)
    (passes : discipline.monitor.Passes nothing events nothing) :
    discipline.monitor.Passes nothing (trace ++ events) nothing :=
  Monitor.Passes.append idle passes

end Passages

/-! ## Books -/

/-- The books of one event for one resource. -/
theorem Permits.books {held : Resource -> Bool} {event : Event}
    (permitted : discipline.Permits held event) {resource : Resource}
    (exclusive : discipline.exclusive resource) :
    (discipline.after held event resource).toNat + (discipline.gives event resource).toNat =
      (held resource).toNat + (decide (discipline.takes event = some resource)).toNat := by
  have free := permitted.free resource exclusive
  have owned := permitted.owned resource exclusive
  have single := permitted.single resource
  unfold after
  by_cases taken : discipline.takes event = some resource
  · simp [taken, free taken, single taken]
  · cases given : discipline.gives event resource with
    | false => simp [taken]
    | true => simp [taken, owned given]

/-- An exclusive resource has been given back as often as it was taken, or once
less and is held. -/
theorem balance {trace : List Event} (accepted : discipline.monitor.Accepts trace)
    {resource : Resource} (exclusive : discipline.exclusive resource) :
    (discipline.monitor.level trace resource).toNat +
        trace.countP (fun event => discipline.gives event resource) =
      trace.countP fun event => decide (discipline.takes event = some resource) := by
  have books := accepted.balance (fun held => (held resource).toNat)
    (fun event => decide (discipline.takes event = some resource))
    (fun event => discipline.gives event resource)
    (fun _ _ permitted => Permits.books permitted exclusive)
  rw [books]
  exact Nat.zero_add _

/-- Where nothing is left held, both counts agree. -/
theorem balance_of_idle {trace : List Event}
    (idle : discipline.monitor.Passes nothing trace nothing) {resource : Resource}
    (exclusive : discipline.exclusive resource) :
    trace.countP (fun event => discipline.gives event resource) =
      trace.countP fun event => decide (discipline.takes event = some resource) := by
  have books := balance idle.1 exclusive
  have left : discipline.monitor.level trace resource = false := congrFun idle.2 resource
  rw [left] at books
  exact (Nat.zero_add _).symm.trans books

end Discipline

end Foundation
end Evfs
