import Evfs.Ext4.FlipBlockBit
import Evfs.Protocol.Holdings

namespace Evfs
namespace Protocol

open Foundation Ext4

/-!
# The flip handler obeys the protocol

The handler returns at once while it holds nothing, and otherwise through one
of four clean-up sequences: two early ones, the label `out_journal` to which
four operations jump, and the successful end.  Each path is a passage of the
protocol from the idle level back to it, so the calls of a run compose whatever
fails in them.

The events of a run are read off the trace that the handler itself appends.
Its operations and replies are then accepted in turn, and the books of the
protocol give the counts: nothing is held after a run that was not held before.
-/

section

variable (code : Ext4Code) (geo : Geometry)

/-- The operations that a call appends to the trace, then its reply. -/
def callEvents (kernel : Kernel) (call : FlipCall) : List Event :=
  ((flipBlockBit code geo call kernel).1.trace.drop kernel.trace.length).map .operation ++
    [.returns (flipBlockBit code geo call kernel).2]

def runEvents (kernel : Kernel) : List FlipCall -> List Event
  | [] => []
  | call :: rest =>
      callEvents code geo kernel call ++ runEvents (flipStep code geo kernel call) rest

/-- The operation of an event, if it is one. -/
def Event.operation? : Event -> Option Op
  | .operation op => some op
  | .returns _ => none

variable {code geo}

theorem callEvents_eq (kernel : Kernel) (call : FlipCall) :
    callEvents code geo kernel call =
      (call.operations code geo kernel.mem).map .operation ++
        [.returns (flipBlockBit code geo call kernel).2] := by
  rw [callEvents, flipBlockBit_trace, List.drop_left]

/-- The events contain the trace of a run, operation by operation. -/
theorem exec_trace (kernel : Kernel) (calls : List FlipCall) :
    (Run.exec (flipStep code geo) kernel calls).trace =
      kernel.trace ++ (runEvents code geo kernel calls).filterMap Event.operation? := by
  induction calls generalizing kernel with
  | nil => exact (List.append_nil _).symm
  | cons call rest inductionHypothesis =>
      have operations : (callEvents code geo kernel call).filterMap Event.operation? =
          call.operations code geo kernel.mem := by
        rw [callEvents_eq, List.filterMap_append, List.filterMap_map]
        have same : Event.operation? ∘ Event.operation = some := rfl
        rw [same, List.filterMap_some]
        exact List.append_nil _
      rw [Run.exec_cons, inductionHypothesis, runEvents, List.filterMap_append, operations,
        ← List.append_assoc]
      congr 1
      exact flipBlockBit_trace code geo call kernel

/-! ## Passages of the protocol -/

/-- A call that holds the bitmap of its group. -/
def reading (group : Nat) : Holdings := ⟨some group, none, []⟩

/-- A call that holds the bitmap of its group and has a handle open. -/
def journalling (group : Nat) (handle : Handle) : Holdings := ⟨some group, some handle, []⟩

theorem passes_return (ret : Int) :
    (journalProtocol geo 3).Passes Holdings.idle [.returns ret] Holdings.idle := by
  refine .cons ⟨rfl, rfl, ?_⟩ (Monitor.passes_nil _ _)
  intro _ handle member
  cases member

/-- The early exits, which release the buffer and never had a handle. -/
theorem passes_release (group : Nat) (ret : Int) :
    (journalProtocol geo 3).Passes (reading group)
      [.operation (.brelse (.bitmap group)), .returns ret] Holdings.idle :=
  .cons rfl (passes_return ret)

/-- The late exits.  Only success asks for complete handles. -/
theorem passes_stop (group : Nat) {handle : Handle} (err : Option Errno) {ret : Int}
    (complete : ret = 0 -> handle.Complete) :
    (journalProtocol geo 3).Passes (journalling group handle)
      [.operation (.journalStop err), .operation (.brelse (.bitmap group)), .returns ret]
      Holdings.idle := by
  refine .cons (Option.some_ne_none handle) (.cons rfl (.cons ⟨rfl, rfl, ?_⟩
    (Monitor.passes_nil _ _)))
  intro success other member
  rw [List.mem_singleton.mp member]
  exact complete success

/-- A request for write access, granted or not. -/
theorem passes_access {group : Nat} {handle : Handle} {buffer : Buffer} {err : Option Errno}
    {rest : List Event} {after : Holdings} (holds : (journalling group handle).Holds buffer)
    (room : handle.Room buffer)
    (granted : err = none ->
      (journalProtocol geo 3).Passes (journalling group (handle.grant buffer)) rest after)
    (denied : err ≠ none ->
      (journalProtocol geo 3).Passes (journalling group handle) rest after) :
    (journalProtocol geo 3).Passes (journalling group handle)
      (.operation (.getWriteAccess buffer err) :: rest) after := by
  refine .cons ⟨holds, handle, rfl, fun _ => room⟩ ?_
  cases err with
  | none => exact granted rfl
  | some err => exact denied (Option.some_ne_none err)

/-! ## One call -/

/-- The handle of a call once both buffers of the group have write access. -/
def grantedHandle (geo : Geometry) (group : Nat) : Handle :=
  ((Handle.fresh 3).grant (.bitmap group)).grant (.descriptor (geo.descBlock group))

theorem fresh_room (group : Nat) : (Handle.fresh 3).Room (.bitmap group) :=
  Handle.room_of_card_lt _ (by decide)

theorem fresh_grant_access (group : Nat) :
    ((Handle.fresh 3).grant (.bitmap group)).access = {.bitmap group} := by
  rw [Handle.grant_access (fresh_room group)]
  rfl

theorem fresh_grant_room (group block : Nat) :
    ((Handle.fresh 3).grant (.bitmap group)).Room (.descriptor block) := by
  apply Handle.room_of_card_lt
  rw [fresh_grant_access, Finset.card_singleton, Handle.grant_credits]
  decide

theorem grantedHandle_access (group : Nat) :
    (grantedHandle geo group).access =
      {.descriptor (geo.descBlock group), .bitmap group} := by
  rw [grantedHandle, Handle.grant_access (fresh_grant_room group _), fresh_grant_access]

/-- A refused call, by its first failure.  The last case has none. -/
theorem refused_passes {call : FlipCall} (refused : ¬ call.Granted code geo) {ret : Int}
    (failed : ret ≠ 0) :
    (journalProtocol geo 3).Passes Holdings.idle
      ((call.beforeStores code geo).map .operation ++ [.returns ret]) Holdings.idle := by
  have dishonest : forall handle : Handle, ret = 0 -> handle.Complete :=
    fun _ success => absurd success failed
  unfold FlipCall.beforeStores
  dsimp only
  cases copied : call.faults.copyFromUser with
  | true => exact .cons trivial (passes_return ret)
  | false =>
  cases read : ext4ReadBlockBitmap geo call.faults (call.group code) with
  | some err => exact .cons trivial (.cons rfl (passes_return ret))
  | none =>
  cases descNull : ext4GetGroupDescFails geo call.faults (call.group code) with
  | true => exact .cons trivial (.cons rfl (.cons trivial (passes_release _ ret)))
  | false =>
  cases started : call.faults.journalStart with
  | some err =>
      exact .cons trivial (.cons rfl (.cons trivial (.cons ⟨rfl, rfl⟩ (passes_release _ ret))))
  | none =>
  refine .cons trivial (.cons rfl (.cons trivial (.cons ⟨rfl, rfl⟩ ?_)))
  refine passes_access rfl (fresh_room _) ?_ ?_
  · intro bitmapAccess
    rw [bitmapAccess]
    refine passes_access trivial (fresh_grant_room _ _) ?_ ?_
    · intro descAccess
      have granted : call.Granted code geo := (FlipCall.granted_iff_operations code geo call).mpr
        ⟨copied, read, descNull, started, bitmapAccess, descAccess⟩
      exact absurd granted refused
    · intro descAccess
      rcases Option.ne_none_iff_exists'.mp descAccess with ⟨err, same⟩
      rw [same]
      exact passes_stop _ _ (dishonest _)
  · intro bitmapAccess
    rcases Option.ne_none_iff_exists'.mp bitmapAccess with ⟨err, same⟩
    rw [same]
    exact passes_stop _ _ (dishonest _)

/-- A granted call up to its stores. -/
theorem opening_passes {call : FlipCall} (granted : call.Granted code geo) :
    (journalProtocol geo 3).Passes Holdings.idle ((call.beforeStores code geo).map .operation)
      (journalling (call.group code) (grantedHandle geo (call.group code))) := by
  rw [FlipCall.beforeStores_of_granted granted]
  refine .cons trivial (.cons rfl (.cons trivial (.cons ⟨rfl, rfl⟩ ?_)))
  refine passes_access rfl (fresh_room _) ?_ fun denied => absurd rfl denied
  intro _
  refine passes_access trivial (fresh_grant_room _ _) ?_ fun denied => absurd rfl denied
  intro _
  exact Monitor.passes_nil _ _

/-- The handle after the stores of the handler. -/
def storedHandle (geo : Geometry) (group : Nat) : Handle :=
  let descriptor := Buffer.descriptor (geo.descBlock group)
  ((((grantedHandle geo group).modify (.bitmap group)).modify descriptor).modify
    descriptor).modify descriptor

theorem storedHandle_modified (group : Nat) :
    (storedHandle geo group).modified =
      {.descriptor (geo.descBlock group), .bitmap group} := by
  simp [storedHandle, grantedHandle, Handle.modify, Handle.fresh]

/-- The stores themselves, every one of them with access to both buffers. -/
theorem stores_pass (group offset : Nat) (wasSet : Bool) :
    (journalProtocol geo 3).Passes (journalling group (grantedHandle geo group))
      ((storeOps group offset wasSet).map .operation)
      (journalling group (storedHandle geo group)) := by
  have bitmap : Buffer.bitmap group ∈ (grantedHandle geo group).access := by
    rw [grantedHandle_access]
    simp
  have descriptor :
      Buffer.descriptor (geo.descBlock group) ∈ (grantedHandle geo group).access := by
    rw [grantedHandle_access]
    simp
  -- a modification keeps the access of the handle
  have writable := And.intro bitmap descriptor
  exact .cons rfl (.cons ⟨rfl, _, rfl, writable⟩ (.cons ⟨_, rfl, writable⟩ (.cons trivial
    (.cons ⟨rfl, _, rfl, writable⟩ (.cons ⟨_, rfl, writable⟩ (Monitor.passes_nil _ _))))))

/-- The end of a granted call.  Where a failure leaves a modified buffer out,
the reply is an error. -/
theorem closing_passes (call : FlipCall) {ret : Int} (honest : ret = 0 -> call.lateError = none) :
    (journalProtocol geo 3).Passes
      (journalling (call.group code) (storedHandle geo (call.group code)))
      ((call.afterStores code geo).map .operation ++ [.returns ret]) Holdings.idle := by
  rw [call.lateError_eq_none_iff] at honest
  unfold FlipCall.afterStores
  dsimp only
  cases dirtyBitmap : call.faults.dirtyBitmap with
  | some err =>
      refine .cons ⟨rfl, Option.some_ne_none _⟩ (passes_stop _ _ ?_)
      intro success
      rcases honest success with ⟨bitmapAdded, -, -⟩
      rw [dirtyBitmap] at bitmapAdded
      cases bitmapAdded
  | none =>
  refine .cons ⟨rfl, Option.some_ne_none _⟩ (.cons ⟨trivial, Option.some_ne_none _⟩ ?_)
  cases dirtyDesc : call.faults.dirtyDesc with
  | some err =>
      refine passes_stop _ _ ?_
      intro success
      rcases honest success with ⟨-, descAdded, -⟩
      rw [dirtyDesc] at descAdded
      cases descAdded
  | none =>
      refine passes_stop _ _ ?_
      intro _
      change (storedHandle geo (call.group code)).modified ⊆ insert _ (insert _ _)
      rw [storedHandle_modified]
      simp [Finset.insert_subset_iff]

/-- Every call is a passage from the idle level to itself. -/
theorem call_passes (kernel : Kernel) (call : FlipCall) :
    (journalProtocol geo 3).Passes Holdings.idle (callEvents code geo kernel call)
      Holdings.idle := by
  rw [callEvents_eq, FlipCall.operations]
  by_cases granted : call.Granted code geo
  · rw [if_pos granted, List.map_append, List.map_append, List.append_assoc, List.append_assoc]
    refine (opening_passes granted).append ((stores_pass _ _ _).append (closing_passes call ?_))
    intro success
    exact ((flipBlockBit_ret_eq_zero_iff code geo call kernel).mp success).2
  · rw [if_neg granted]
    exact refused_passes granted (flipBlockBit_ret_of_refused code geo granted kernel)

/-! ## Runs -/

theorem run_passes (kernel : Kernel) (calls : List FlipCall) :
    (journalProtocol geo 3).Passes Holdings.idle (runEvents code geo kernel calls)
      Holdings.idle := by
  induction calls generalizing kernel with
  | nil => exact Monitor.passes_nil _ _
  | cons call rest inductionHypothesis =>
      rw [runEvents]
      exact (call_passes kernel call).append (inductionHypothesis _)

/-- Every run is accepted by the protocol, for every block number and every
fault schedule.  Its events are the trace of the run with the replies between.
It ends with nothing held, and each reference obtained and each handle started
has been given back. -/
theorem flips_obey_protocol (kernel : Kernel) (calls : List FlipCall) :
    (Run.exec (flipStep code geo) kernel calls).trace =
        kernel.trace ++ (runEvents code geo kernel calls).filterMap Event.operation? ∧
      (journalProtocol geo 3).Accepts (runEvents code geo kernel calls) ∧
      (journalProtocol geo 3).level (runEvents code geo kernel calls) = Holdings.idle ∧
      (forall group, (runEvents code geo kernel calls).countP (releases group) =
        (runEvents code geo kernel calls).countP (acquires group)) ∧
      (runEvents code geo kernel calls).countP stops =
        (runEvents code geo kernel calls).countP starts := by
  rcases Monitor.accepts_of_passes _ (run_passes kernel calls) with ⟨accepted, reached⟩
  refine ⟨exec_trace kernel calls, accepted, reached, ?_, ?_⟩
  · intro group
    rw [← references_balance accepted group, reached]
    exact (Nat.zero_add _).symm
  · rw [← handles_balance accepted, reached]
    exact (Nat.zero_add _).symm

end

end Protocol
end Evfs
