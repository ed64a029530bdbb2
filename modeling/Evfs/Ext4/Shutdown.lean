import Evfs.Ext4.Disk
import Evfs.Ext4.Ioctl

namespace Evfs
namespace Ext4

open Foundation

/-!
# Shutting a volume down

`EXT4_IOC_SHUTDOWN` over a volume with its journal.  The request finds the volume as
the calls before it have left it, and decides what a crash or a remount will find.

The journal and the block layer are outside the repository.  A commit that succeeds
appends the running transaction, as in the journal of the volume; `bdev_freeze` brings
the volume into a consistent state, so it commits; an aborted journal commits nothing.
-/

/-- What a request meets. -/
structure ShutdownRequest where
  capableSysAdmin : Bool
  getUser : Option Errno
  flags : UInt32
  bdevFreeze : Option Errno
  forceCommit : Option Errno

/-- `EXT4_GOING_FLAGS_DEFAULT`. -/
def goingFlagsDefault : UInt32 := 0

/-- `EXT4_GOING_FLAGS_LOGFLUSH`. -/
def goingFlagsLogflush : UInt32 := 1

/-- `EXT4_GOING_FLAGS_NOLOGFLUSH`. -/
def goingFlagsNologflush : UInt32 := 2

/-- A mounted volume, with the flags that a shutdown reads and changes. -/
structure Mount (geo : Geometry) where
  volume : Volume geo
  /-- Whether there is a journal at `s_journal`. -/
  journal : Bool
  journalAborted : Bool
  /-- `EXT4_FLAGS_SHUTDOWN` in `s_ext4_flags`. -/
  shutdown : Bool
  /-- The mount option `DISCARD`. -/
  discard : Bool

namespace Mount

variable (code : Ext4Code) {geo : Geometry}

/-- A commit, which an aborted journal does not make. -/
def commit (mount : Mount geo) : Mount geo :=
  if mount.journal && !mount.journalAborted then
    { mount with volume := Volume.next code geo mount.volume .commit }
  else mount

def setShutdown (mount : Mount geo) : Mount geo := { mount with shutdown := true }

def clearDiscard (mount : Mount geo) : Mount geo := { mount with discard := false }

/-- `jbd2_journal_abort`. -/
def abort (mount : Mount geo) : Mount geo := { mount with journalAborted := true }

/-- `ext4_force_commit`, whose result the shutdown ignores. -/
def forceCommit (request : ShutdownRequest) (mount : Mount geo) : Mount geo :=
  match request.forceCommit with
  | some _ => mount
  | none => mount.commit code

/-- `ext4_force_shutdown`. -/
def forceShutdown (request : ShutdownRequest) (mount : Mount geo) : Mount geo × Int :=
  if goingFlagsNologflush < request.flags then (mount, Errno.einval.code)
  else if mount.shutdown then (mount, 0)
  else if request.flags = goingFlagsDefault then
    match request.bdevFreeze with
    | some err => (mount, err.code)
    | none => ((mount.commit code).setShutdown.clearDiscard, 0)
  else if request.flags = goingFlagsLogflush then
    let mount := mount.setShutdown
    let mount :=
      if mount.journal && !mount.journalAborted then (mount.forceCommit code request).abort
      else mount
    (mount.clearDiscard, 0)
  else
    let mount := mount.setShutdown
    let mount := if mount.journal && !mount.journalAborted then mount.abort else mount
    (mount.clearDiscard, 0)

/-- `ext4_ioctl_shutdown`. -/
def ioctlShutdown (request : ShutdownRequest) (mount : Mount geo) : Mount geo × Int :=
  if request.capableSysAdmin = false then (mount, Errno.eperm.code) else
  match request.getUser with
  | some _ => (mount, Errno.efault.code)
  | none => mount.forceShutdown code request

/-- What can happen to a mounted volume.  The journal may abort itself. -/
inductive Event where
  | journal (event : Journal.Event Buffer FlipCall)
  | abort
  | shutdown (request : ShutdownRequest)

def next (mount : Mount geo) : Event -> Mount geo
  | .journal .commit => mount.commit code
  | .journal event => { mount with volume := Volume.next code geo mount.volume event }
  | .abort => mount.abort
  | .shutdown request => (mount.ioctlShutdown code request).1

end Mount

end Ext4
end Evfs
