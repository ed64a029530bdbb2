import Evfs.Ext4.Kernel
import Evfs.Foundation.Callbacks
import Mathlib.Logic.Function.Basic

namespace Evfs
namespace Ext4

open Foundation

/-!
# Space maps for the user

`FS_IOC_GETFSMAP` hands a callback to `ext4_getfsmap`, which walks the volume and is
outside the repository.  It is a parameter: any function that may call the callback.
So are the conversions between its mappings and the records of the user.

A copy to the user that fails may have copied a part, which is a parameter as well.
-/

/-- `struct fsmap`. -/
structure Fsmap where
  fmrDevice : UInt32
  fmrFlags : UInt32
  fmrPhysical : UInt64
  fmrOwner : UInt64
  fmrOffset : UInt64
  fmrLength : UInt64
  fmrReserved : List UInt64
deriving DecidableEq, Repr

/-- `struct fsmap_head` without its records.  The keys are `fmh_keys`. -/
structure FsmapHead where
  fmhIflags : UInt32
  fmhOflags : UInt32
  fmhCount : UInt32
  fmhEntries : UInt32
  fmhReserved : List UInt64
  lowKey : Fsmap
  highKey : Fsmap
deriving DecidableEq, Repr

/-- What lies at the argument of the call. -/
structure UserFsmap where
  head : FsmapHead
  recs : Nat -> Fsmap

/-- The part of `struct ext4_fsmap_head` that the caller fills in. -/
structure Ext4FsmapHead (Mapping : Type) where
  fmhIflags : UInt32
  fmhCount : UInt32
  lowKey : Mapping
  highKey : Mapping

/-- What `ext4_getfsmap` returns and leaves in the head. -/
structure FsmapResult where
  error : Int
  fmhEntries : UInt32
  fmhOflags : UInt32

/-- The places of user memory that are copied from or to. -/
inductive FsmapPlace where
  | headRead
  | record (index : UInt32)
  | flags (index : UInt32)
  | headWrite
deriving DecidableEq, Repr

structure FsmapEnv (Mapping : Type) where
  faults : FsmapPlace -> Bool
  /-- What a copy that failed leaves of the old record and the new one. -/
  tornRecord : Fsmap -> Fsmap -> Fsmap
  tornHead : FsmapHead -> FsmapHead -> FsmapHead
  fmrFlags : Mapping -> UInt32
  /-- `ext4_fsmap_from_internal`. -/
  fromInternal : Mapping -> Fsmap
  /-- `ext4_fsmap_to_internal`. -/
  toInternal : Fsmap -> Mapping
  /-- `ext4_getfsmap`. -/
  getfsmap : Ext4FsmapHead Mapping -> Client Mapping Int FsmapResult

/-- `FMR_OF_LAST`. -/
def fmrOfLast : UInt32 := 0x20

/-- `EXT4_QUERY_RANGE_ABORT`. -/
def ext4QueryRangeAbort : Int := 1

/-- `struct getfsmap_info`, with the records at `gi_data`. -/
structure GetfsmapInfo where
  recs : Nat -> Fsmap
  giIdx : UInt32
  giLastFlags : UInt32

variable {Mapping : Type} (env : FsmapEnv Mapping)

/-- Copy a record to the user. -/
def copyRecord (place : FsmapPlace) (index : UInt32) (record : Fsmap) (recs : Nat -> Fsmap) :
    (Nat -> Fsmap) × Bool :=
  if env.faults place then
    (Function.update recs index.toNat (env.tornRecord (recs index.toNat) record), false)
  else (Function.update recs index.toNat record, true)

/-- `ext4_getfsmap_format`. -/
def ext4GetfsmapFormat (info : GetfsmapInfo) (xfm : Mapping) : GetfsmapInfo × Int :=
  let index := info.giIdx
  let (recs, copied) := copyRecord env (.record index) index (env.fromInternal xfm) info.recs
  (⟨recs, index + 1, env.fmrFlags xfm⟩, if copied then 0 else Errno.efault.code)

/-- What `ext4_ioc_getfsmap` requires of the head. -/
def FsmapHead.Valid (head : FsmapHead) : Prop :=
  (forall word, word ∈ head.fmhReserved ++ head.lowKey.fmrReserved ++ head.highKey.fmrReserved ->
    word = 0) ∧
    head.lowKey.fmrOffset = 0 ∧ (head.highKey.fmrOffset = 0 ∨ head.highKey.fmrOffset = -1)

-- The instance goes through the list and not through all 64-bit words.
instance (head : FsmapHead) : Decidable head.Valid :=
  @instDecidableAnd _ _ (List.decidableBAll (fun word => word = 0) _) inferInstance

/-- The head that is passed on. -/
def FsmapHead.internal (head : FsmapHead) : Ext4FsmapHead Mapping :=
  ⟨head.fmhIflags, head.fmhCount, env.toInternal head.lowKey, env.toInternal head.highKey⟩

/-- Set the flag of the last record, unless the walk was aborted or gave none. -/
def markLast (aborted : Bool) (info : GetfsmapInfo) : (Nat -> Fsmap) × Bool :=
  if !aborted && info.giIdx != 0 then
    let index := info.giIdx - 1
    copyRecord env (.flags index) index
      { info.recs index.toNat with fmrFlags := info.giLastFlags ||| fmrOfLast } info.recs
  else (info.recs, true)

/-- `ext4_ioc_getfsmap` once the walk has returned. -/
def finishGetfsmap (user : UserFsmap) (info : GetfsmapInfo) (result : FsmapResult) :
    UserFsmap × Int :=
  let aborted := decide (result.error = ext4QueryRangeAbort)
  if aborted = false ∧ result.error ≠ 0 then ({ user with recs := info.recs }, result.error)
  else
    let (recs, marked) := markLast env aborted info
    if marked = false then ({ user with recs := recs }, Errno.efault.code)
    else
      let head := { user.head with fmhEntries := result.fmhEntries, fmhOflags := result.fmhOflags }
      if env.faults .headWrite then
        ({ head := env.tornHead user.head head, recs := recs }, Errno.efault.code)
      else ({ head := head, recs := recs }, 0)

/-- `ext4_ioc_getfsmap`. -/
def iocGetfsmap (user : UserFsmap) : UserFsmap × Int :=
  if env.faults .headRead then (user, Errno.efault.code)
  else if ¬ user.head.Valid then (user, Errno.einval.code)
  else
    let (info, result) :=
      (env.getfsmap (user.head.internal env)).run (ext4GetfsmapFormat env) ⟨user.recs, 0, 0⟩
    finishGetfsmap env user info result

end Ext4
end Evfs
