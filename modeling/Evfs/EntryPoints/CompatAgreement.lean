import Evfs.Authority.WriteAccess
import Evfs.Ext4.CompatIoctl

namespace Evfs
namespace EntryPoints

open Ext4 FreeSpace

/-!
# Native and 32-bit callers

The native switch ends in the evfs switch and the compat switch does not, so
a command that only the evfs switch knows reaches it from one of the two entry
points.  For the words that nobody knows the entry points agree, up to the two
spellings of that fact.

Agreement is about one call: its reply and what it leaves in memory and in the
running transaction.  The theorem says for which of the words that the native
switch does not list, and for which calls, it holds.
-/

/-- Two states with the same free-space memory and the same transaction. -/
def SameEffect (first second : Kernel) : Prop :=
  first.mem = second.mem ∧ first.dirtied = second.dirtied

/-- The outcomes of a compat call and of a native one from the same state.
`-ENOIOCTLCMD` stands for the `-ENOTTY` of a call that has done nothing. -/
def SameOutcome (before : Kernel) (compat native : Kernel × Int) : Prop :=
  SameEffect compat.1 native.1 ∧
    (compat.2 = native.2 ∨
      compat.2 = Errno.enoioctlcmd.code ∧ native.2 = Errno.enotty.code ∧
        SameEffect native.1 before)

/-- The errors that a compat refusal agrees with. -/
def UnknownCommand (err : Errno) : Prop := err = Errno.enotty ∨ err = Errno.enoioctlcmd

section

variable (env : UInt64 -> IoctlEnv) (compatPtr : UInt64 -> UInt64)
variable (code : Ext4Code) (geo : Geometry)

/-- The 32-bit entry point agrees with the native one on the converted pointer. -/
def EntryPointsAgree (cmd : Command) (arg : UInt64) (kernel : Kernel) : Prop :=
  SameOutcome kernel (ext4CompatIoctl env compatPtr code geo cmd arg kernel)
    (ext4Ioctl env code geo cmd (compatPtr arg) kernel)

variable {env compatPtr code geo}

/-- A compat refusal agrees with an untouched state and an unknown command. -/
theorem sameOutcome_refusal_iff (before : Kernel) (native : Kernel × Int) :
    SameOutcome before (before, Errno.enoioctlcmd.code) native ↔
      SameEffect before native.1 ∧
        (native.2 = Errno.enotty.code ∨ native.2 = Errno.enoioctlcmd.code) := by
  constructor
  · rintro ⟨effect, same | ⟨-, unknown, -⟩⟩
    · exact ⟨effect, Or.inr same.symm⟩
    · exact ⟨effect, Or.inl unknown⟩
  · rintro ⟨effect, unknown | same⟩
    · exact ⟨effect, Or.inr ⟨rfl, unknown, effect.1.symm, effect.2.symm⟩⟩
    · exact ⟨effect, Or.inl same.symm⟩

/-- A flip looks like an unknown command exactly when it is refused with one
of the two errors.  A granted flip shows in the bitmaps. -/
theorem flip_looks_unknown_iff (call : FlipCall) (kernel : Kernel) :
    (SameEffect kernel (flipBlockBit code geo call kernel).1 ∧
      ((flipBlockBit code geo call kernel).2 = Errno.enotty.code ∨
        (flipBlockBit code geo call kernel).2 = Errno.enoioctlcmd.code)) ↔
      exists err, call.refusal code geo = some err ∧ UnknownCommand err := by
  by_cases granted : call.Granted code geo
  · constructor
    · rintro ⟨⟨kept, -⟩, -⟩
      exact absurd (congrArg Memory.bitmap kept).symm (bitmap_ne_of_granted granted kernel)
    · rintro ⟨err, refused, -⟩
      rw [show call.refusal code geo = none from granted] at refused
      cases refused
  · rcases Option.ne_none_iff_exists'.mp granted with ⟨err, refused⟩
    rw [flipBlockBit_of_refused code geo granted, refused]
    constructor
    · rintro ⟨-, unknown⟩
      refine ⟨err, rfl, ?_⟩
      rcases unknown with notty | noioctlcmd
      · exact Or.inl (Errno.eq_of_code_eq notty)
      · exact Or.inr (Errno.eq_of_code_eq noioctlcmd)
    · rintro ⟨other, same, unknown⟩
      cases same
      refine ⟨⟨rfl, rfl⟩, ?_⟩
      rcases unknown with notty | noioctlcmd
      · exact Or.inl (congrArg Errno.code notty)
      · exact Or.inr (congrArg Errno.code noioctlcmd)

/-- Where `__ext4_ioctl` does not list a word and the compat switch does
nothing special with it, the entry points agree unless the evfs switch knows
the word.  A flip that fails as an unknown command is the one exception. -/
theorem entryPointsAgree_iff {cmd : Command} (unlisted : cmd.fallsThrough = true)
    (plain : cmd.compatSpecial = false) (arg : UInt64) (kernel : Kernel) :
    EntryPointsAgree env compatPtr code geo cmd arg kernel ↔
      cmd ≠ .printhello ∧
        (cmd = .flipBlockBit -> exists err,
          (env (compatPtr arg)).flip.refusal code geo = some err ∧ UnknownCommand err) := by
  rw [EntryPointsAgree, ext4CompatIoctl_of_fallsThrough unlisted plain,
    ext4Ioctl_of_fallsThrough unlisted, sameOutcome_refusal_iff]
  cases cmd with
  | printhello =>
      constructor
      · rintro ⟨-, reply⟩
        have known : ¬ ((0 : Int) = Errno.enotty.code ∨ (0 : Int) = Errno.enoioctlcmd.code) := by
          decide
        exact absurd reply known
      · rintro ⟨other, -⟩
        exact absurd rfl other
  | flipBlockBit =>
      rw [ext4EvfsIoctl, flip_looks_unknown_iff]
      constructor
      · intro refused
        exact ⟨Command.noConfusion, fun _ => refused⟩
      · rintro ⟨-, refused⟩
        exact refused rfl
  | other word unknown =>
      refine iff_of_true ⟨⟨rfl, rfl⟩, Or.inl rfl⟩ ⟨Command.noConfusion, ?_⟩
      intro flips
      cases flips
  | _ => exact absurd unlisted Bool.false_ne_true

/-- `compat_ptr` on x86: the pointer of a 32-bit process, zero-extended. -/
def zeroExtend (arg : UInt64) : UInt64 := arg &&& 0xffffffff

/-- The word `_IOW('f', 101, uint64_t)`, next to that of the flip and unknown
to every switch. -/
theorem entryPointsAgree_iff_sample :
    EntryPointsAgree (fun _ => Authority.sampleEnv) zeroExtend GdtCsum.volumeCode GdtCsum.volume
      (.other (ioW 0x66 101 8) (by decide)) 0 sampleKernel := by
  refine (entryPointsAgree_iff (by decide) (by decide) 0 sampleKernel).mpr
    ⟨Command.noConfusion, ?_⟩
  intro flips
  cases flips

/-- A 32-bit process is refused where a native one flips block 1000, and where
a native one is greeted. -/
theorem compat_refuses_evfs :
    (Command.fallsThrough .flipBlockBit = true ∧ Command.compatSpecial .flipBlockBit = false) ∧
      (ext4CompatIoctl (fun _ => Authority.sampleEnv) zeroExtend GdtCsum.volumeCode
        GdtCsum.volume .flipBlockBit 0 sampleKernel).2 = Errno.enoioctlcmd.code ∧
      (ext4Ioctl (fun _ => Authority.sampleEnv) GdtCsum.volumeCode GdtCsum.volume
        .flipBlockBit (zeroExtend 0) sampleKernel).2 = 0 ∧
      ¬ EntryPointsAgree (fun _ => Authority.sampleEnv) zeroExtend GdtCsum.volumeCode
        GdtCsum.volume .flipBlockBit 0 sampleKernel ∧
      ¬ EntryPointsAgree (fun _ => Authority.sampleEnv) zeroExtend GdtCsum.volumeCode
        GdtCsum.volume .printhello 0 sampleKernel := by
  have granted : Authority.sampleEnv.flip.Granted GdtCsum.volumeCode GdtCsum.volume := by decide
  have flipped : (flipBlockBit GdtCsum.volumeCode GdtCsum.volume Authority.sampleEnv.flip
      sampleKernel).2 = 0 :=
    (flipBlockBit_ret_eq_zero_iff _ _ _ _).mpr ⟨granted, rfl⟩
  refine ⟨⟨rfl, rfl⟩, rfl, flipped, ?_, ?_⟩
  · rintro ⟨-, reply | ⟨-, reply, -⟩⟩
    · exact absurd (reply.trans flipped) (by decide)
    · exact absurd (reply.symm.trans flipped) (by decide)
  · rintro ⟨-, reply | ⟨-, reply, -⟩⟩
    · exact absurd reply (by decide)
    · exact absurd reply (by decide)

end

end EntryPoints
end Evfs
