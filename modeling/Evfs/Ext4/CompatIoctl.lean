import Evfs.Ext4.Ioctl

namespace Evfs
namespace Ext4

/-!
# The two ioctl entry points

`ext4Ioctl` serves native processes and `ext4CompatIoctl` 32-bit ones.  The
second has a switch of its own.  Some 32-bit words stand for a native word
with another argument size and are rewritten, one command has a structure of
another layout and is read member by member, the listed words are passed on
with the converted pointer, and every other word is refused.

What a call meets depends on its argument, so the environment is a function
of the user pointer.  The conversion `compat_ptr` belongs to the architecture
and is a parameter.
-/

namespace Errno

/-- The error for which the caller of a compat handler tries other handlers. -/
def enoioctlcmd : Errno := ⟨-515, by decide⟩

end Errno

/-! ## Command words -/

-- an `int` has 4 bytes
def ext4Ioc32Getversion : UInt32 := ioR 0x66 3 4
def ext4Ioc32Setversion : UInt32 := ioW 0x66 4 4
def ext4Ioc32Getrsvsz : UInt32 := ioR 0x66 5 4
def ext4Ioc32Setrsvsz : UInt32 := ioW 0x66 6 4
def ext4Ioc32GroupExtend : UInt32 := ioW 0x66 7 4
/-- The size is that of `struct compat_ext4_new_group_input`, whose 64-bit
members are aligned to 4 bytes on x86. -/
def ext4Ioc32GroupAdd : UInt32 := ioW 0x66 8 (4 + 3 * 8 + 4 + 2 + 2)
def ext4Ioc32GetversionOld : UInt32 := ioR 0x76 1 4
def ext4Ioc32SetversionOld : UInt32 := ioW 0x76 2 4

-- the native switch lists neither of these; a `long` has 8 bytes
def ext4IocGetrsvsz : UInt32 := ioR 0x66 5 8
def ext4IocSetrsvsz : UInt32 := ioW 0x66 6 8

theorem rsvsz_unlisted : ext4IocGetrsvsz ∉ listedWords ∧ ext4IocSetrsvsz ∉ listedWords := by
  decide

/-! ## The entry points -/

/-- The cases of `ext4_compat_ioctl` that assign a new value to `cmd`. -/
def compatRewrite (word : UInt32) : Option Command :=
  if word = ext4Ioc32Getversion then some .getversion
  else if word = ext4Ioc32Setversion then some .setversion
  else if word = ext4Ioc32GroupExtend then some .groupExtend
  else if word = ext4Ioc32GetversionOld then some .getversionOld
  else if word = ext4Ioc32SetversionOld then some .setversionOld
  else if word = ext4Ioc32Getrsvsz then some (.other ext4IocGetrsvsz rsvsz_unlisted.1)
  else if word = ext4Ioc32Setrsvsz then some (.other ext4IocSetrsvsz rsvsz_unlisted.2)
  else none

section

variable (env : UInt64 -> IoctlEnv) (compatPtr : UInt64 -> UInt64)
variable (code : Ext4Code) (geo : Geometry)

/-- `ext4_ioctl`. -/
def ext4Ioctl (cmd : Command) (arg : UInt64) (kernel : Kernel) : Kernel × Int :=
  dispatchIoctl (env arg) code geo cmd kernel

/-- `ext4_compat_ioctl`. -/
def ext4CompatIoctl (cmd : Command) (arg : UInt64) (kernel : Kernel) : Kernel × Int :=
  match cmd with
  | .other word _ =>
      match compatRewrite word with
      | some rewritten => ext4Ioctl env code geo rewritten (compatPtr arg) kernel
      | none =>
          if word = ext4Ioc32GroupAdd then
            -- one result for the six `get_user` calls, whose errors are joined
            if (env (compatPtr arg)).fails .getUser then (kernel, Errno.efault.code)
            else ext4IoctlGroupAdd (env (compatPtr arg)) kernel
          else (kernel, Errno.enoioctlcmd.code)
  | .moveExt | .resizeFs | .fitrim | .precacheExtents | .setEncryptionPolicy
  | .getEncryptionPwsalt | .getEncryptionPolicy | .getEncryptionPolicyEx | .addEncryptionKey
  | .removeEncryptionKey | .removeEncryptionKeyAllUsers | .getEncryptionKeyStatus
  | .getEncryptionNonce | .shutdown | .getfsmap | .enableVerity | .measureVerity
  | .readVerityMetadata | .clearEsCache | .getstate | .getEsCache | .checkpoint | .getfslabel
  | .setfslabel | .getfsuuid | .setfsuuid =>
      ext4Ioctl env code geo cmd (compatPtr arg) kernel
  | _ => (kernel, Errno.enoioctlcmd.code)

end

/-! ## What the two switches list -/

namespace Command

/-- `__ext4_ioctl` has no case for the command. -/
def fallsThrough : Command -> Bool
  | .printhello | .flipBlockBit | .other _ _ => true
  | _ => false

/-- `ext4_compat_ioctl` rewrites the command or handles it itself. -/
def compatSpecial : Command -> Bool
  | .other word _ => (compatRewrite word).isSome || word == ext4Ioc32GroupAdd
  | _ => false

end Command

section

variable {env : UInt64 -> IoctlEnv} {compatPtr : UInt64 -> UInt64}
variable {code : Ext4Code} {geo : Geometry}

theorem ext4Ioctl_of_fallsThrough {cmd : Command} (unlisted : cmd.fallsThrough = true)
    (arg : UInt64) (kernel : Kernel) :
    ext4Ioctl env code geo cmd arg kernel = ext4EvfsIoctl (env arg) code geo cmd kernel := by
  cases cmd with
  | printhello => rfl
  | flipBlockBit => rfl
  | other word unlisted => rfl
  | _ => exact absurd unlisted Bool.false_ne_true

/-- The default of the compat switch does not lead to the evfs switch. -/
theorem ext4CompatIoctl_of_fallsThrough {cmd : Command} (unlisted : cmd.fallsThrough = true)
    (plain : cmd.compatSpecial = false) (arg : UInt64) (kernel : Kernel) :
    ext4CompatIoctl env compatPtr code geo cmd arg kernel = (kernel, Errno.enoioctlcmd.code) := by
  cases cmd with
  | printhello => rfl
  | flipBlockBit => rfl
  | other word unlisted =>
      rcases Bool.or_eq_false_iff.mp plain with ⟨kept, apart⟩
      have unchanged : compatRewrite word = none :=
        Option.isNone_iff_eq_none.mp (by rw [← Option.not_isSome, kept]; rfl)
      rw [ext4CompatIoctl]
      simp only [unchanged, if_neg (beq_eq_false_iff_ne.mp apart)]
  | _ => exact absurd unlisted Bool.false_ne_true

end

end Ext4
end Evfs
