import Evfs.Ext4.Geometry

namespace Evfs
namespace Ext4

/-!
# Group descriptors and the code that reads and writes them

The bodies of the descriptor accessors and of the checksum code are in files
of ext4 that this repository does not carry; it has their declarations and the
on-disk structure.  They are therefore supplied as an `Ext4Code`, and
`Ext4Code.Lawful` collects what they are documented to do.  Every law is about
one accessor on its own fields, or about two accessors of different fields.
No law mentions a flip or a run of flips.

The flip handler applies the three setters in one fixed order.  `updateDesc` names
that composite, and the section on it derives the facts that the rest of the
development uses instead of the laws.
-/

/-- A block bitmap buffer, read through `ext4_test_bit`. -/
abbrev Bitmap := Nat -> Bool

/-- `struct ext4_group_desc`, without the `bg_` prefix of its fields. -/
structure GroupDesc where
  blockBitmapLo : UInt32
  inodeBitmapLo : UInt32
  inodeTableLo : UInt32
  freeBlocksCountLo : UInt16
  freeInodesCountLo : UInt16
  usedDirsCountLo : UInt16
  flags : UInt16
  excludeBitmapLo : UInt32
  blockBitmapCsumLo : UInt16
  inodeBitmapCsumLo : UInt16
  itableUnusedLo : UInt16
  checksum : UInt16
  blockBitmapHi : UInt32
  inodeBitmapHi : UInt32
  inodeTableHi : UInt32
  freeBlocksCountHi : UInt16
  freeInodesCountHi : UInt16
  usedDirsCountHi : UInt16
  itableUnusedHi : UInt16
  excludeBitmapHi : UInt32
  blockBitmapCsumHi : UInt16
  inodeBitmapCsumHi : UInt16
  reserved : UInt32
deriving DecidableEq, Repr

namespace GroupDesc

/-- A descriptor whose fields are all zero. -/
def zero : GroupDesc :=
  ⟨0, 0, 0, 0, 0, 0, 0, 0, 0, 0, 0, 0, 0, 0, 0, 0, 0, 0, 0, 0, 0, 0, 0⟩

/-- The fields other than the free count and the two checksums. -/
def others (desc : GroupDesc) : GroupDesc :=
  { desc with
    freeBlocksCountLo := 0
    freeBlocksCountHi := 0
    blockBitmapCsumLo := 0
    blockBitmapCsumHi := 0
    checksum := 0 }

/-- `EXT4_BG_BLOCK_UNINIT`: the block bitmap is not in use. -/
def bgBlockUninit : UInt16 := 0x0002

/-- `bg_flags & EXT4_BG_BLOCK_UNINIT`. -/
def blockUninit (desc : GroupDesc) : Bool := desc.flags &&& bgBlockUninit != 0

theorem blockUninit_eq_of_others {first second : GroupDesc}
    (same : first.others = second.others) : first.blockUninit = second.blockUninit := by
  have flags : first.others.flags = second.others.flags := congrArg GroupDesc.flags same
  exact congrArg (fun value => value &&& bgBlockUninit != 0) flags

end GroupDesc

/-- The declarations of `ext4.h` that locate a block and that read and write
one descriptor, for a fixed mounted volume. -/
structure Ext4Code where
  ext4GetGroupNoAndOffset : UInt64 -> Nat × Nat
  ext4FreeGroupClusters : GroupDesc -> UInt32
  ext4FreeGroupClustersSet : GroupDesc -> UInt32 -> GroupDesc
  ext4BlockBitmapCsumSet : GroupDesc -> Bitmap -> GroupDesc
  ext4BlockBitmapCsumVerify : GroupDesc -> Bitmap -> Bool
  ext4GroupDescCsumSet : Nat -> GroupDesc -> GroupDesc
  ext4GroupDescCsumVerify : Nat -> GroupDesc -> Bool

namespace Ext4Code

/-- The documented behaviour of the code that is not in the repository.  Where
a checksum feature is off its setter writes nothing and its verifier accepts,
so the checksum laws need no case distinction. -/
structure Lawful (code : Ext4Code) (geo : Geometry) : Prop where
  locate : forall blockNumber,
    code.ext4GetGroupNoAndOffset blockNumber = geo.groupNoAndOffset blockNumber
  free_lt : forall desc, (code.ext4FreeGroupClusters desc).toNat < 2 ^ geo.freeCountBits
  free_set : forall desc count,
    (code.ext4FreeGroupClusters (code.ext4FreeGroupClustersSet desc count)).toNat =
      count.toNat % 2 ^ geo.freeCountBits
  set_free : forall desc,
    code.ext4FreeGroupClustersSet desc (code.ext4FreeGroupClusters desc) = desc
  set_set : forall desc first second,
    code.ext4FreeGroupClustersSet (code.ext4FreeGroupClustersSet desc first) second =
      code.ext4FreeGroupClustersSet desc second
  /-- Neither checksum setter touches the count. -/
  free_bitmapCsum : forall desc bits,
    code.ext4FreeGroupClusters (code.ext4BlockBitmapCsumSet desc bits) =
      code.ext4FreeGroupClusters desc
  free_descCsum : forall group desc,
    code.ext4FreeGroupClusters (code.ext4GroupDescCsumSet group desc) =
      code.ext4FreeGroupClusters desc
  /-- The bitmap checksum is computed from the bitmap alone and overwrites the old one. -/
  bitmapCsum_bitmapCsum : forall desc first second,
    code.ext4BlockBitmapCsumSet (code.ext4BlockBitmapCsumSet desc first) second =
      code.ext4BlockBitmapCsumSet desc second
  bitmapCsum_set : forall desc count bits,
    code.ext4BlockBitmapCsumSet (code.ext4FreeGroupClustersSet desc count) bits =
      code.ext4FreeGroupClustersSet (code.ext4BlockBitmapCsumSet desc bits) count
  bitmapVerify_bitmapCsum : forall desc bits,
    code.ext4BlockBitmapCsumVerify (code.ext4BlockBitmapCsumSet desc bits) bits = true
  bitmapCsum_of_verify : forall desc bits,
    code.ext4BlockBitmapCsumVerify desc bits = true ->
      code.ext4BlockBitmapCsumSet desc bits = desc
  bitmapVerify_descCsum : forall group desc bits,
    code.ext4BlockBitmapCsumVerify (code.ext4GroupDescCsumSet group desc) bits =
      code.ext4BlockBitmapCsumVerify desc bits
  descVerify_descCsum : forall group desc,
    code.ext4GroupDescCsumVerify group (code.ext4GroupDescCsumSet group desc) = true
  descCsum_of_verify : forall group desc,
    code.ext4GroupDescCsumVerify group desc = true ->
      code.ext4GroupDescCsumSet group desc = desc
  /-- The descriptor checksum skips its own field. -/
  descCsum_set : forall group desc count,
    code.ext4GroupDescCsumSet group
        (code.ext4FreeGroupClustersSet (code.ext4GroupDescCsumSet group desc) count) =
      code.ext4GroupDescCsumSet group (code.ext4FreeGroupClustersSet desc count)
  descCsum_bitmapCsum : forall group desc bits,
    code.ext4GroupDescCsumSet group
        (code.ext4BlockBitmapCsumSet (code.ext4GroupDescCsumSet group desc) bits) =
      code.ext4GroupDescCsumSet group (code.ext4BlockBitmapCsumSet desc bits)
  /-- No setter writes any other field. -/
  others_set : forall desc count,
    (code.ext4FreeGroupClustersSet desc count).others = desc.others
  others_bitmapCsum : forall desc bits,
    (code.ext4BlockBitmapCsumSet desc bits).others = desc.others
  others_descCsum : forall group desc,
    (code.ext4GroupDescCsumSet group desc).others = desc.others

/-! ## The composite that the handler applies -/

/-- Store a count, then the bitmap checksum, then the descriptor checksum. -/
def updateDesc (code : Ext4Code) (group : Nat) (count : UInt32) (bits : Bitmap)
    (desc : GroupDesc) : GroupDesc :=
  code.ext4GroupDescCsumSet group
    (code.ext4BlockBitmapCsumSet (code.ext4FreeGroupClustersSet desc count) bits)

section Lawful

variable {code : Ext4Code} {geo : Geometry} (lawful : code.Lawful geo)
include lawful

theorem freeGroupClusters_updateDesc (group : Nat) (count : UInt32) (bits : Bitmap)
    (desc : GroupDesc) :
    (code.ext4FreeGroupClusters (code.updateDesc group count bits desc)).toNat =
      count.toNat % 2 ^ geo.freeCountBits := by
  unfold updateDesc
  rw [lawful.free_descCsum, lawful.free_bitmapCsum, lawful.free_set]

/-- A count that some set of clusters of the group can have is stored exactly. -/
theorem freeGroupClusters_updateDesc_of_le (fits : geo.CountsFit) {count : UInt32}
    (small : count.toNat ≤ geo.clustersPerGroup) (group : Nat) (bits : Bitmap) (desc : GroupDesc) :
    code.ext4FreeGroupClusters (code.updateDesc group count bits desc) = count := by
  apply UInt32.toNat_inj.mp
  rw [freeGroupClusters_updateDesc lawful]
  exact Nat.mod_eq_of_lt (Nat.lt_of_le_of_lt small fits)

theorem bitmapVerify_updateDesc (group : Nat) (count : UInt32) (bits : Bitmap) (desc : GroupDesc) :
    code.ext4BlockBitmapCsumVerify (code.updateDesc group count bits desc) bits = true := by
  unfold updateDesc
  rw [lawful.bitmapVerify_descCsum, lawful.bitmapVerify_bitmapCsum]

theorem descVerify_updateDesc (group : Nat) (count : UInt32) (bits : Bitmap) (desc : GroupDesc) :
    code.ext4GroupDescCsumVerify group (code.updateDesc group count bits desc) = true :=
  lawful.descVerify_descCsum group _

theorem others_updateDesc (group : Nat) (count : UInt32) (bits : Bitmap) (desc : GroupDesc) :
    (code.updateDesc group count bits desc).others = desc.others := by
  unfold updateDesc
  rw [lawful.others_descCsum, lawful.others_bitmapCsum, lawful.others_set]

/-- A later update leaves no trace of an earlier one. -/
theorem updateDesc_updateDesc (group : Nat) (first second : UInt32) (firstBits secondBits : Bitmap)
    (desc : GroupDesc) :
    code.updateDesc group second secondBits (code.updateDesc group first firstBits desc) =
      code.updateDesc group second secondBits desc := by
  have absorbed : forall inner : GroupDesc,
      code.ext4GroupDescCsumSet group (code.ext4BlockBitmapCsumSet
          (code.ext4FreeGroupClustersSet (code.ext4GroupDescCsumSet group inner) second)
          secondBits) =
        code.ext4GroupDescCsumSet group (code.ext4BlockBitmapCsumSet
          (code.ext4FreeGroupClustersSet inner second) secondBits) := by
    intro inner
    rw [← lawful.descCsum_bitmapCsum group (code.ext4FreeGroupClustersSet
      (code.ext4GroupDescCsumSet group inner) second), lawful.descCsum_set,
      lawful.descCsum_bitmapCsum]
  unfold updateDesc
  rw [absorbed, lawful.bitmapCsum_set _ second, lawful.bitmapCsum_bitmapCsum,
    lawful.bitmapCsum_set desc first, lawful.set_set, ← lawful.bitmapCsum_set]

/-- Updating a descriptor that is already right changes nothing. -/
theorem updateDesc_self {group : Nat} {bits : Bitmap} {desc : GroupDesc}
    (bitmapValid : code.ext4BlockBitmapCsumVerify desc bits = true)
    (descValid : code.ext4GroupDescCsumVerify group desc = true) :
    code.updateDesc group (code.ext4FreeGroupClusters desc) bits desc = desc := by
  unfold updateDesc
  rw [lawful.set_free, lawful.bitmapCsum_of_verify desc bits bitmapValid,
    lawful.descCsum_of_verify group desc descValid]

end Lawful

end Ext4Code

end Ext4
end Evfs
