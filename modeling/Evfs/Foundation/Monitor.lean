import Evfs.Foundation.Runs

namespace Evfs
namespace Foundation

/-!
# Monitors of traces, and triples over them

A monitor reads a trace event by event.  Its level is what the events so far
have established, and the level decides whether the next event is permitted.
A trace is accepted when every event in it was permitted at its place.  `Passes`
is about a part of a trace and the levels at its two ends, and passages compose.

`Reaches` says that a trace is accepted and that its level satisfies an
assertion.  `Triple` is about code that appends events to a trace kept in its
state: it leads from traces that reach the precondition to traces that reach
the postcondition.  The rules follow the shapes of straight-line code: a return,
a branch, an event before the rest, and a call whose result the rest uses.
-/

structure Monitor (Level Event : Type*) where
  start : Level
  after : Level -> Event -> Level
  Permits : Level -> Event -> Prop

namespace Monitor

variable {Level Event : Type*} (monitor : Monitor Level Event)

/-- The level that a trace reaches. -/
def level (trace : List Event) : Level := Run.exec monitor.after monitor.start trace

def Accepts (trace : List Event) : Prop :=
  Run.AtEachCall monitor.after monitor.start trace monitor.Permits

/-- An event that every level permits. -/
def Harmless (event : Event) : Prop := forall level, monitor.Permits level event

theorem accepts_nil : monitor.Accepts [] := Run.atEachCall_nil monitor.start monitor.Permits

theorem level_snoc (trace : List Event) (event : Event) :
    monitor.level (trace ++ [event]) = monitor.after (monitor.level trace) event :=
  Run.exec_snoc monitor.start trace event

theorem accepts_snoc (trace : List Event) (event : Event) :
    monitor.Accepts (trace ++ [event]) ↔
      monitor.Accepts trace ∧ monitor.Permits (monitor.level trace) event := by
  unfold Accepts
  rw [Run.atEachCall_append, Run.atEachCall_cons]
  exact and_congr_right' (and_iff_left (Run.atEachCall_nil _ _))

/-- The trace is accepted, and the level it reaches satisfies `holds`. -/
def Reaches (holds : Level -> Prop) (trace : List Event) : Prop :=
  monitor.Accepts trace ∧ holds (monitor.level trace)

variable {monitor} in
theorem Reaches.snoc {before after : Level -> Prop} {trace : List Event} {event : Event}
    (reaches : monitor.Reaches before trace)
    (permitted : forall level, before level -> monitor.Permits level event)
    (leads : forall level, before level -> after (monitor.after level event)) :
    monitor.Reaches after (trace ++ [event]) := by
  refine ⟨(monitor.accepts_snoc trace event).mpr ⟨reaches.1, permitted _ reaches.2⟩, ?_⟩
  rw [level_snoc]
  exact leads _ reaches.2

theorem accepts_append_of_harmless {trace events : List Event} (accepted : monitor.Accepts trace)
    (harmless : forall event, event ∈ events -> monitor.Harmless event) :
    monitor.Accepts (trace ++ events) := by
  induction events generalizing trace with
  | nil => rwa [List.append_nil]
  | cons event rest inductionHypothesis =>
      rw [List.append_cons]
      exact inductionHypothesis
        ((monitor.accepts_snoc trace event).mpr
          ⟨accepted, harmless event List.mem_cons_self (monitor.level trace)⟩)
        (fun later member => harmless later (List.mem_cons_of_mem event member))

/-! ## Passages -/

/-- The events are permitted in turn from one level on, and lead to the other. -/
def Passes (before : Level) (events : List Event) (after : Level) : Prop :=
  Run.AtEachCall monitor.after before events monitor.Permits ∧
    Run.exec monitor.after before events = after

theorem accepts_of_passes {trace : List Event} {reached : Level}
    (passes : monitor.Passes monitor.start trace reached) :
    monitor.Accepts trace ∧ monitor.level trace = reached := passes

theorem passes_nil (level : Level) : monitor.Passes level [] level :=
  ⟨Run.atEachCall_nil level monitor.Permits, rfl⟩

section Passages

variable {monitor} {before between after : Level}

theorem Passes.cons {event : Event} {rest : List Event}
    (permitted : monitor.Permits before event)
    (passes : monitor.Passes (monitor.after before event) rest after) :
    monitor.Passes before (event :: rest) after :=
  ⟨(Run.atEachCall_cons before event rest monitor.Permits).mpr ⟨permitted, passes.1⟩, passes.2⟩

theorem Passes.append {first second : List Event} (passes : monitor.Passes before first between)
    (continues : monitor.Passes between second after) :
    monitor.Passes before (first ++ second) after := by
  rcases passes with ⟨permitted, leads⟩
  rcases continues with ⟨laterPermitted, laterLeads⟩
  refine ⟨(Run.atEachCall_append before first second monitor.Permits).mpr ⟨permitted, ?_⟩, ?_⟩
  · rw [leads]
    exact laterPermitted
  · rw [Run.exec_append, leads]
    exact laterLeads

/-- The balance rule: where every permitted event keeps the books, what an
accepted trace has gained is what it has lost or still holds. -/
theorem Accepts.balance (held : Level -> Nat) (gains loses : Event -> Bool)
    (books : forall level event, monitor.Permits level event ->
      held (monitor.after level event) + (loses event).toNat =
        held level + (gains event).toNat)
    {trace : List Event} (accepted : monitor.Accepts trace) :
    held (monitor.level trace) + trace.countP loses =
      held monitor.start + trace.countP gains := by
  induction trace using List.reverseRecOn with
  | nil => rfl
  | append_singleton trace event inductionHypothesis =>
      rcases (monitor.accepts_snoc trace event).mp accepted with ⟨earlier, permitted⟩
      have before := inductionHypothesis earlier
      have step := books (monitor.level trace) event permitted
      have single : forall counts : Event -> Bool,
          [event].countP counts = (counts event).toNat := by
        intro counts
        cases found : counts event <;> simp [found]
      rw [level_snoc, List.countP_append, List.countP_append, single, single]
      omega

end Passages

/-! ## Triples -/

section Triples

variable {State Result Value : Type*} (traceOf : State -> List Event)

def Triple (before : Level -> Prop) (body : State -> State × Result)
    (after : Level -> Prop) : Prop :=
  forall state, monitor.Reaches before (traceOf state) ->
    monitor.Reaches after (traceOf (body state).1)

variable {monitor} {traceOf} {before between after : Level -> Prop}

theorem triple_return (result : Result) :
    monitor.Triple traceOf before (fun state => (state, result)) before :=
  fun _ reaches => reaches

theorem Triple.weaken {body : State -> State × Result} {stronger weaker : Level -> Prop}
    (triple : monitor.Triple traceOf before body after)
    (strengthen : forall level, stronger level -> before level)
    (relax : forall level, after level -> weaker level) :
    monitor.Triple traceOf stronger body weaker := by
  intro state reaches
  have outcome := triple state ⟨reaches.1, strengthen _ reaches.2⟩
  exact ⟨outcome.1, relax _ outcome.2⟩

theorem triple_ite (condition : Prop) [Decidable condition] {first second : State -> State × Result}
    (taken : monitor.Triple traceOf before first after)
    (skipped : monitor.Triple traceOf before second after) :
    monitor.Triple traceOf before
      (fun state => if condition then first state else second state) after := by
  by_cases holds : condition
  · simpa only [if_pos holds]
  · simpa only [if_neg holds]

/-- One event, then the rest. -/
theorem triple_emit {emit : State -> State} {event : Event} {rest : State -> State × Result}
    (appends : forall state, traceOf (emit state) = traceOf state ++ [event])
    (permitted : forall level, before level -> monitor.Permits level event)
    (leads : forall level, before level -> between (monitor.after level event))
    (triple : monitor.Triple traceOf between rest after) :
    monitor.Triple traceOf before (fun state => rest (emit state)) after := by
  intro state reaches
  refine triple (emit state) ?_
  rw [appends]
  exact reaches.snoc permitted leads

/-- A call, then code that uses its result. -/
theorem triple_bind {first : State -> State × Value} {next : Value -> State -> State × Result}
    (called : monitor.Triple traceOf before first between)
    (continued : forall value, monitor.Triple traceOf between (next value) after) :
    monitor.Triple traceOf before
      (fun state => next (first state).2 (first state).1) after :=
  fun state reaches => continued (first state).2 (first state).1 (called state reaches)

end Triples

end Monitor

end Foundation
end Evfs
