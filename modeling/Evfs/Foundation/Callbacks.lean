import Evfs.Foundation.Runs

namespace Evfs
namespace Foundation

/-!
# Callbacks

A function that takes a callback is a client of it: it asks the callback some
arguments, one after the other, and may choose each of them, and when to stop, by the
answers so far.  A client is given here by all that it can do and not by its code, so
results about the callback hold for every function that it may be passed to.

What the callback's state becomes depends only on the arguments that were asked.  A
client that relays failures stops at the first one and reports it.
-/

inductive Client (Argument Answer Result : Type*) where
  | done (result : Result)
  | ask (argument : Argument) (next : Answer -> Client Argument Answer Result)

namespace Client

variable {State Argument Answer Result : Type*}

section

variable (callback : State -> Argument -> State × Answer)

/-- Run a client against a callback with a state. -/
def run : Client Argument Answer Result -> State -> State × Result
  | .done result, state => (state, result)
  | .ask argument next, state =>
      (next (callback state argument).2).run (callback state argument).1

/-- The arguments that are asked, in their order. -/
def asked : Client Argument Answer Result -> State -> List Argument
  | .done _, _ => []
  | .ask argument next, state =>
      argument :: (next (callback state argument).2).asked (callback state argument).1

/-- The callback as a transition of its state. -/
def move (state : State) (argument : Argument) : State := (callback state argument).1

theorem run_state (client : Client Argument Answer Result) (start : State) :
    (client.run callback start).1 =
      Run.exec (move callback) start (client.asked callback start) := by
  induction client generalizing start with
  | done result => rfl
  | ask argument next inductionHypothesis =>
      rw [run, asked, Run.exec_cons]
      exact inductionHypothesis _ _

end

/-- The client asks at most so many times, whatever it is answered. -/
def AtMost : Client Argument Answer Result -> Nat -> Prop
  | .done _, _ => True
  | .ask _ next, bound => 0 < bound ∧ forall answer, (next answer).AtMost (bound - 1)

theorem AtMost.length_asked {client : Client Argument Answer Result} {bound : Nat}
    (atMost : client.AtMost bound) (callback : State -> Argument -> State × Answer)
    (start : State) : (client.asked callback start).length ≤ bound := by
  induction client generalizing bound start with
  | done result => exact Nat.zero_le bound
  | ask argument next inductionHypothesis =>
      have later := inductionHypothesis _ (atMost.2 (callback start argument).2)
        (callback start argument).1
      rw [asked, List.length_cons]
      have positive := atMost.1
      omega

/-- After a failure the client asks no more and reports it. -/
def Relays (failed : Answer -> Prop) (reported : Answer -> Result -> Prop) :
    Client Argument Answer Result -> Prop
  | .done _ => True
  | .ask _ next => forall answer,
      (failed answer -> exists result, next answer = .done result ∧ reported answer result) ∧
        (next answer).Relays failed reported

/-- Either nothing fails, or the result reports what failed. -/
theorem Relays.answers {failed : Answer -> Prop} {reported : Answer -> Result -> Prop}
    {client : Client Argument Answer Result} (relays : client.Relays failed reported)
    (callback : State -> Argument -> State × Answer) (start : State) :
    Run.AtEachCall (move callback) start (client.asked callback start)
        (fun state argument => ¬ failed (callback state argument).2) ∨
      exists state argument, failed (callback state argument).2 ∧
        reported (callback state argument).2 (client.run callback start).2 := by
  induction client generalizing start with
  | done result => exact Or.inl (Run.atEachCall_nil start _)
  | ask argument next inductionHypothesis =>
      have here := relays (callback start argument).2
      by_cases failing : failed (callback start argument).2
      · obtain ⟨result, stopped, report⟩ := here.1 failing
        refine Or.inr ⟨start, argument, failing, ?_⟩
        rw [run, stopped]
        exact report
      · refine (inductionHypothesis _ here.2 (callback start argument).1).imp (fun later => ?_) id
        rw [asked, Run.atEachCall_cons]
        exact ⟨failing, later⟩

end Client

end Foundation
end Evfs
