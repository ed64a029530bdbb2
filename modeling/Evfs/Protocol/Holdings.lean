import Evfs.Ext4.Kernel
import Evfs.Ext4.Geometry
import Evfs.Foundation.Monitor
import Mathlib.Data.Finset.Card
import Mathlib.Data.Finset.Insert

namespace Evfs
namespace Protocol

open Foundation Ext4

/-!
# The journal and buffer protocol

What a handler of the journal must respect, whatever it computes.  A bitmap
buffer is used while a reference to it is held, and the descriptor buffer is
borrowed.  A journal handle is used between its start and its stop.  Stores
need write access to both buffers of the group on the open handle, and a call
that reports success has passed every modified buffer on before the stop.

The protocol is a monitor of operations and replies.  Its level records what
the running call holds.  A second reference or a second open handle is not
permitted, so that a release and a stop are about a known one.  The credits
that a handle has to reserve are a parameter.
-/

/-- One operation, or the reply that ends a call. -/
inductive Event where
  | operation (op : Op)
  | returns (ret : Int)
deriving DecidableEq, Repr

/-- What one journal handle has been used for.  It cannot have given access to
more buffers than it reserved credits for. -/
structure Handle where
  credits : Nat
  access : Finset Buffer
  modified : Finset Buffer
  dirtied : Finset Buffer
  within : access.card ≤ credits

namespace Handle

variable (handle : Handle) (buffer : Buffer)

def fresh (credits : Nat) : Handle where
  credits := credits
  access := ∅
  modified := ∅
  dirtied := ∅
  within := Nat.zero_le credits

/-- The handle can give access to the buffer: it has before, or a credit is left. -/
def Room : Prop := (insert buffer handle.access).card ≤ handle.credits

instance : Decidable (handle.Room buffer) :=
  inferInstanceAs (Decidable ((insert buffer handle.access).card ≤ handle.credits))

def grant : Handle :=
  if room : handle.Room buffer then
    { handle with access := insert buffer handle.access, within := room }
  else handle

def modify : Handle := { handle with modified := insert buffer handle.modified }

def dirty : Handle := { handle with dirtied := insert buffer handle.dirtied }

theorem grant_access {handle : Handle} {buffer : Buffer} (room : handle.Room buffer) :
    (handle.grant buffer).access = insert buffer handle.access := by
  rw [grant, dif_pos room]

@[simp] theorem grant_credits : (handle.grant buffer).credits = handle.credits := by
  rw [grant]
  split <;> rfl

@[simp] theorem grant_modified : (handle.grant buffer).modified = handle.modified := by
  rw [grant]
  split <;> rfl

theorem room_of_card_lt {handle : Handle} (buffer : Buffer)
    (left : handle.access.card < handle.credits) : handle.Room buffer :=
  Nat.le_trans (Finset.card_insert_le buffer handle.access) left

/-- Every buffer that was modified has been passed on. -/
def Complete : Prop := handle.modified ⊆ handle.dirtied

instance : Decidable handle.Complete :=
  inferInstanceAs (Decidable (handle.modified ⊆ handle.dirtied))

end Handle

/-- What the running call holds: the group of its bitmap reference, its open
handle, and the handles that it has stopped. -/
structure Holdings where
  reference : Option Nat
  handle : Option Handle
  stopped : List Handle

namespace Holdings

def idle : Holdings := ⟨none, none, []⟩

variable (geo : Geometry) (reserve : Nat) (holdings : Holdings)

/-- The buffer may be used.  No reference is taken to a descriptor buffer. -/
def Holds : Buffer -> Prop
  | .bitmap group => holdings.reference = some group
  | .descriptor _ => True

/-- The open handle has given access to both buffers of the group. -/
def Writable (group : Nat) : Prop :=
  exists handle, holdings.handle = some handle ∧ Buffer.bitmap group ∈ handle.access ∧
    Buffer.descriptor (geo.descBlock group) ∈ handle.access

def onHandle (update : Handle -> Handle) : Holdings :=
  { holdings with handle := holdings.handle.map update }

/-- The change of the holdings by one operation. -/
def perform : Op -> Holdings
  | .readBlockBitmap group none => { holdings with reference := some group }
  | .brelse _ => { holdings with reference := none }
  | .journalStart credits none => { holdings with handle := some (Handle.fresh credits) }
  | .getWriteAccess buffer none => holdings.onHandle fun handle => handle.grant buffer
  | .writeBit group _ _ => holdings.onHandle fun handle => handle.modify (.bitmap group)
  | .freeGroupClustersSet group | .blockBitmapCsumSet group | .groupDescCsumSet group =>
      holdings.onHandle fun handle => handle.modify (.descriptor (geo.descBlock group))
  | .handleDirtyMetadata buffer none => holdings.onHandle fun handle => handle.dirty buffer
  -- the handle is gone whatever the stop reports
  | .journalStop _ =>
      { holdings with
        handle := none
        stopped := holdings.handle.toList ++ holdings.stopped }
  | _ => holdings

/-- The operations that the protocol permits. -/
def PermitsOp : Op -> Prop
  | .readBlockBitmap _ _ => holdings.reference = none
  | .brelse (.bitmap group) => holdings.reference = some group
  | .brelse (.descriptor _) => False
  | .journalStart credits _ => holdings.handle = none ∧ credits = reserve
  | .journalStop _ => holdings.handle ≠ none
  | .getWriteAccess buffer err => holdings.Holds buffer ∧
      exists handle, holdings.handle = some handle ∧ (err = none -> handle.Room buffer)
  | .testBit group _ => holdings.Holds (.bitmap group)
  | .writeBit group _ _ => holdings.Holds (.bitmap group) ∧ holdings.Writable geo group
  | .blockBitmapCsumSet group => holdings.Holds (.bitmap group) ∧ holdings.Writable geo group
  | .freeGroupClustersSet group | .groupDescCsumSet group => holdings.Writable geo group
  | .handleDirtyMetadata buffer _ => holdings.Holds buffer ∧ holdings.handle ≠ none
  | _ => True

/-- A call may return once it holds nothing.  Success needs complete handles. -/
def PermitsReturn (ret : Int) : Prop :=
  holdings.reference = none ∧ holdings.handle = none ∧
    (ret = 0 -> forall handle, handle ∈ holdings.stopped -> handle.Complete)

end Holdings

/-- The protocol of a handler that reserves the given credits. -/
def journalProtocol (geo : Geometry) (reserve : Nat) : Monitor Holdings Event where
  start := Holdings.idle
  after := fun holdings event =>
    match event with
    | .operation op => holdings.perform geo op
    | .returns _ => { holdings with stopped := [] }
  Permits := fun holdings event =>
    match event with
    | .operation op => holdings.PermitsOp geo reserve op
    | .returns ret => holdings.PermitsReturn ret

/-! ## The books of an accepted trace -/

/-- A bitmap reference of the group is obtained. -/
def acquires (group : Nat) : Event -> Bool
  | .operation (.readBlockBitmap other none) => decide (other = group)
  | _ => false

/-- A bitmap reference of the group is given back. -/
def releases (group : Nat) : Event -> Bool
  | .operation (.brelse (.bitmap other)) => decide (other = group)
  | _ => false

/-- A journal handle is started. -/
def starts : Event -> Bool
  | .operation (.journalStart _ none) => true
  | _ => false

/-- A journal handle is stopped. -/
def stops : Event -> Bool
  | .operation (.journalStop _) => true
  | _ => false

/-- The references of a group that are held. -/
def Holdings.references (holdings : Holdings) (group : Nat) : Nat :=
  (decide (holdings.reference = some group)).toNat

def Holdings.handles (holdings : Holdings) : Nat := holdings.handle.isSome.toNat

section

variable {geo : Geometry} {reserve : Nat}

theorem references_perform {holdings : Holdings} (group : Nat) {op : Op}
    (permitted : holdings.PermitsOp geo reserve op) :
    (holdings.perform geo op).references group + (releases group (.operation op)).toNat =
      holdings.references group + (acquires group (.operation op)).toNat := by
  cases op with
  | readBlockBitmap other err =>
      cases err with
      | none =>
          have free : holdings.reference = none := permitted
          simp [Holdings.perform, Holdings.references, releases, acquires, free]
      | some err => rfl
  | brelse buffer =>
      cases buffer with
      | bitmap other =>
          have held : holdings.reference = some other := permitted
          simp [Holdings.perform, Holdings.references, releases, acquires, held]
      | descriptor block => exact permitted.elim
  | journalStart credits err => cases err <;> rfl
  | getWriteAccess buffer err => cases err <;> rfl
  | handleDirtyMetadata buffer err => cases err <;> rfl
  | _ => rfl

theorem handles_perform {holdings : Holdings} {op : Op}
    (permitted : holdings.PermitsOp geo reserve op) :
    (holdings.perform geo op).handles + (stops (.operation op)).toNat =
      holdings.handles + (starts (.operation op)).toNat := by
  have updated : forall update, (holdings.onHandle update).handles = holdings.handles := by
    intro update
    rw [Holdings.handles, Holdings.onHandle, Option.isSome_map]
    rfl
  cases op with
  | readBlockBitmap other err => cases err <;> rfl
  | journalStart credits err =>
      cases err with
      | none =>
          have free : holdings.handle = none := permitted.1
          simp [Holdings.perform, Holdings.handles, starts, stops, free]
      | some err => rfl
  | journalStop err =>
      rcases Option.ne_none_iff_exists'.mp permitted with ⟨handle, opened⟩
      simp [Holdings.perform, Holdings.handles, starts, stops, opened]
  | getWriteAccess buffer err =>
      cases err with
      | none => exact updated _
      | some err => rfl
  | handleDirtyMetadata buffer err =>
      cases err with
      | none => exact updated _
      | some err => rfl
  | writeBit group offset value => exact updated _
  | freeGroupClustersSet group => exact updated _
  | blockBitmapCsumSet group => exact updated _
  | groupDescCsumSet group => exact updated _
  | _ => rfl

/-- Each reference is given back once, or still held. -/
theorem references_balance {events : List Event}
    (accepted : (journalProtocol geo reserve).Accepts events) (group : Nat) :
    ((journalProtocol geo reserve).level events).references group + events.countP (releases group) =
      events.countP (acquires group) := by
  have books := accepted.balance (fun holdings => holdings.references group) (acquires group)
    (releases group) (by
      intro holdings event permitted
      cases event with
      | operation op => exact references_perform group permitted
      | returns ret => rfl)
  rw [books]
  exact Nat.zero_add _

/-- Each started handle is stopped once, or still open. -/
theorem handles_balance {events : List Event}
    (accepted : (journalProtocol geo reserve).Accepts events) :
    ((journalProtocol geo reserve).level events).handles + events.countP stops =
      events.countP starts := by
  have books := accepted.balance Holdings.handles starts stops (by
    intro holdings event permitted
    cases event with
    | operation op => exact handles_perform permitted
    | returns ret => rfl)
  rw [books]
  exact Nat.zero_add _

end

end Protocol
end Evfs
