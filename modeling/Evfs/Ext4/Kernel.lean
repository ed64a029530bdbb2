import Evfs.Ext4.Memory

namespace Evfs
namespace Ext4

/-!
# The kernel state of an ioctl

An ioctl works on the free-space memory and on the running journal
transaction.  It also leaves a trace of the operations that it performed, in
order, with their results.  The trace is a record only: no operation reads it.

Fallible operations take their result as an argument.  Who decides the result
is left to the caller of the model, so every fault schedule is a value.
-/

/-- A nonzero return value.  `ERR_PTR` values and `int` errors are not
distinguished, since the handlers pass both on unchanged. -/
structure Errno where
  code : Int
  nonzero : code ≠ 0
deriving DecidableEq, Repr

namespace Errno

def eperm : Errno := ⟨-1, by decide⟩
def eio : Errno := ⟨-5, by decide⟩
def ebadf : Errno := ⟨-9, by decide⟩
def eacces : Errno := ⟨-13, by decide⟩
def efault : Errno := ⟨-14, by decide⟩
def ebusy : Errno := ⟨-16, by decide⟩
def enodev : Errno := ⟨-19, by decide⟩
def einval : Errno := ⟨-22, by decide⟩
def enotty : Errno := ⟨-25, by decide⟩
def erofs : Errno := ⟨-30, by decide⟩
def eopnotsupp : Errno := ⟨-95, by decide⟩
/-- `EFSCORRUPTED`, which `ext4.h` defines as `EUCLEAN`. -/
def efscorrupted : Errno := ⟨-117, by decide⟩

/-- The `int` result of a fallible operation. -/
def result : Option Errno -> Int
  | none => 0
  | some err => err.code

@[simp] theorem result_none : result none = 0 := rfl

@[simp] theorem result_some (err : Errno) : result (some err) = err.code := rfl

/-- An error is its code. -/
theorem eq_of_code_eq {first second : Errno} (same : first.code = second.code) :
    first = second := by
  rcases first with ⟨code, nonzero⟩
  rcases second with ⟨other, otherNonzero⟩
  cases same
  rfl

theorem result_eq_zero_iff (outcome : Option Errno) : result outcome = 0 ↔ outcome = none := by
  cases outcome with
  | none => simp only [result_none]
  | some err => simp only [result_some, err.nonzero, reduceCtorEq]

end Errno

/-- A journalled buffer.  A descriptor buffer holds the descriptors of all
groups with the same `Geometry.descBlock`. -/
inductive Buffer where
  | bitmap (group : Nat)
  | descriptor (block : Nat)
deriving DecidableEq, Repr

/-- The checks by which a caller can show authority. -/
inductive Authority where
  | capable
  | inodeOwnerOrCapable
  | fmodeWrite
deriving DecidableEq, Repr

/-- Persistent state that code other than the flip handler changes. -/
inductive Target where
  | inode
  | label
  | uuid
  | allocation
deriving DecidableEq, Repr

/-- One operation of an ioctl, with its result where it can fail. -/
inductive Op where
  | copyFromUser (failed : Bool)
  | readBlockBitmap (group : Nat) (err : Option Errno)
  | getGroupDesc (group : Nat) (failed : Bool)
  | journalStart (credits : Nat) (err : Option Errno)
  | getWriteAccess (buffer : Buffer) (err : Option Errno)
  | testBit (group offset : Nat)
  | writeBit (group offset : Nat) (value : Bool)
  | freeGroupClustersSet (group : Nat)
  | percpuCounterAdd (amount : Int)
  | blockBitmapCsumSet (group : Nat)
  | groupDescCsumSet (group : Nat)
  | handleDirtyMetadata (buffer : Buffer) (err : Option Errno)
  | journalStop (err : Option Errno)
  | brelse (buffer : Buffer)
  | mntWantWriteFile (err : Option Errno)
  | mntDropWriteFile
  | check (authority : Authority) (passed : Bool)
  | change (target : Target)
deriving DecidableEq, Repr

/-- Memory, the buffers that handles of the running transaction have passed to
`ext4_handle_dirty_metadata`, and the trace. -/
structure Kernel where
  mem : Memory
  dirtied : List Buffer
  trace : List Op

namespace Kernel

def log (op : Op) (kernel : Kernel) : Kernel :=
  { kernel with trace := kernel.trace ++ [op] }

/-- Perform one memory operation. -/
def perform (op : Op) (effect : Memory -> Memory) (kernel : Kernel) : Kernel :=
  { kernel with mem := effect kernel.mem, trace := kernel.trace ++ [op] }

/-- `ext4_handle_dirty_metadata`: a failed call adds nothing to the transaction. -/
def handleDirtyMetadata (buffer : Buffer) (err : Option Errno) (kernel : Kernel) : Kernel :=
  { kernel with
    dirtied := if err.isNone then buffer :: kernel.dirtied else kernel.dirtied
    trace := kernel.trace ++ [.handleDirtyMetadata buffer err] }

@[simp] theorem log_mem (op : Op) (kernel : Kernel) : (kernel.log op).mem = kernel.mem := rfl

@[simp] theorem log_dirtied (op : Op) (kernel : Kernel) :
    (kernel.log op).dirtied = kernel.dirtied := rfl

@[simp] theorem log_trace (op : Op) (kernel : Kernel) :
    (kernel.log op).trace = kernel.trace ++ [op] := rfl

@[simp] theorem perform_mem (op : Op) (effect : Memory -> Memory) (kernel : Kernel) :
    (kernel.perform op effect).mem = effect kernel.mem := rfl

@[simp] theorem perform_dirtied (op : Op) (effect : Memory -> Memory) (kernel : Kernel) :
    (kernel.perform op effect).dirtied = kernel.dirtied := rfl

@[simp] theorem perform_trace (op : Op) (effect : Memory -> Memory) (kernel : Kernel) :
    (kernel.perform op effect).trace = kernel.trace ++ [op] := rfl

@[simp] theorem handleDirtyMetadata_mem (buffer : Buffer) (err : Option Errno) (kernel : Kernel) :
    (kernel.handleDirtyMetadata buffer err).mem = kernel.mem := rfl

@[simp] theorem handleDirtyMetadata_dirtied_none (buffer : Buffer) (kernel : Kernel) :
    (kernel.handleDirtyMetadata buffer none).dirtied = buffer :: kernel.dirtied := rfl

@[simp] theorem handleDirtyMetadata_dirtied_some (buffer : Buffer) (err : Errno)
    (kernel : Kernel) :
    (kernel.handleDirtyMetadata buffer (some err)).dirtied = kernel.dirtied := rfl

@[simp] theorem handleDirtyMetadata_trace (buffer : Buffer) (err : Option Errno)
    (kernel : Kernel) :
    (kernel.handleDirtyMetadata buffer err).trace =
      kernel.trace ++ [.handleDirtyMetadata buffer err] := rfl

end Kernel

end Ext4
end Evfs
