import Evfs.FreeSpace.Accounting

namespace Evfs
namespace FreeSpace

open Foundation Ext4

/-!
# The other in-memory counts of free space

The buddy allocator keeps `bb_free` for each group whose buddy data is
initialised.  With flex groups, `free_clusters` is kept for each of them.  The
handler and the helpers that it calls update neither.  The distance of a
mirror from the descriptor counts is therefore kept by a call exactly when the
call stores nothing, or when no mirror of its group is live.
-/

section

variable (code : Ext4Code) (geo : Geometry)

/-- Flex groups are in use. -/
def flexInUse : Prop := 0 < geo.logGroupsPerFlex

instance : Decidable (flexInUse geo) := inferInstanceAs (Decidable (_ < _))

/-- Distance of the buddy count of a group from its descriptor count. -/
def buddyDistance (mem : Memory) (group : Nat) : Int :=
  mem.freeCount code group - (mem.groupInfo group).bbFree

/-- Distance of the count of a group's flex group from the descriptor counts
of its members. -/
def flexDistance (mem : Memory) (group : Nat) : Int :=
  mem.flexFreeClusters (geo.ext4FlexGroup group) -
    ((Finset.range geo.groupsCount).filter fun member =>
      geo.ext4FlexGroup member = geo.ext4FlexGroup group).sum
        fun member => (mem.freeCount code member : Int)

/-- Every live mirror keeps its distance from one memory to the next. -/
def MirrorsFollow (before after : Memory) : Prop :=
  forall group, group < geo.groupsCount ->
    ((before.groupInfo group).needInit = false ->
      buddyDistance code after group = buddyDistance code before group) ∧
    (flexInUse geo -> flexDistance code geo after group = flexDistance code geo before group)

/-- No mirror of the call's group is live. -/
def NoLiveMirror (groupInfo : Nat -> GroupInfo) (call : FlipCall) : Prop :=
  (groupInfo (call.group code)).needInit = true ∧ ¬ flexInUse geo

instance (groupInfo : Nat -> GroupInfo) (call : FlipCall) :
    Decidable (NoLiveMirror code geo groupInfo call) := inferInstanceAs (Decidable (_ ∧ _))

variable {code geo}

theorem flipStep_groupInfo (kernel : Kernel) (call : FlipCall) :
    (flipStep code geo kernel call).mem.groupInfo = kernel.mem.groupInfo := by
  exact (flipStep_mem_iff code geo (fun mem : Memory => mem.groupInfo = kernel.mem.groupInfo)
    rfl call).mpr fun _ => rfl

theorem buddyDistance_flipMemory_of_ne (mem : Memory) {group other : Nat} (offset : Nat)
    (different : other ≠ group) :
    buddyDistance code (flipMemory code group offset mem) other = buddyDistance code mem other := by
  unfold buddyDistance
  rw [freeCount_flipMemory_of_ne offset different]
  rfl

/-- The descriptor count moves and the buddy count does not. -/
theorem buddyDistance_flipMemory_ne (lawful : code.Lawful geo) (mem : Memory)
    (group offset : Nat) :
    buddyDistance code (flipMemory code group offset mem) group ≠
      buddyDistance code mem group := by
  intro same
  have moved := freeCount_flipMemory_ne lawful mem group offset
  have info : ((flipMemory code group offset mem).groupInfo group).bbFree =
      (mem.groupInfo group).bbFree := rfl
  unfold buddyDistance at same
  rw [info] at same
  omega

theorem flexDistance_flipMemory_ne (lawful : code.Lawful geo) (mem : Memory) {group : Nat}
    (present : group < geo.groupsCount) (offset : Nat) :
    flexDistance code geo (flipMemory code group offset mem) group ≠
      flexDistance code geo mem group := by
  intro same
  have member : group ∈ (Finset.range geo.groupsCount).filter
      (fun other => geo.ext4FlexGroup other = geo.ext4FlexGroup group) :=
    Finset.mem_filter.mpr ⟨Finset.mem_range.mpr present, rfl⟩
  have others : (((Finset.range geo.groupsCount).filter fun other =>
        geo.ext4FlexGroup other = geo.ext4FlexGroup group).erase group).sum
          (fun other => ((flipMemory code group offset mem).freeCount code other : Int)) =
      (((Finset.range geo.groupsCount).filter fun other =>
        geo.ext4FlexGroup other = geo.ext4FlexGroup group).erase group).sum
          (fun other => (mem.freeCount code other : Int)) := by
    apply Finset.sum_congr rfl
    intro other inside
    rw [freeCount_flipMemory_of_ne offset (Finset.ne_of_mem_erase inside)]
  have moved := freeCount_flipMemory_ne lawful mem group offset
  have mirror : (flipMemory code group offset mem).flexFreeClusters = mem.flexFreeClusters := rfl
  unfold flexDistance at same
  rw [← Finset.add_sum_erase _ _ member, ← Finset.add_sum_erase _ _ member, others, mirror] at same
  omega

theorem mirrorsFollow_refl (mem : Memory) : MirrorsFollow code geo mem mem :=
  fun _ _ => ⟨fun _ => rfl, fun _ => rfl⟩

/-- One flip.  When nothing of its group is mirrored, the groups that are
mirrored are other ones, and their counts did not move. -/
theorem mirrorsFollow_flipMemory_iff (lawful : code.Lawful geo) (mem : Memory) (call : FlipCall)
    (present : call.group code < geo.groupsCount) :
    MirrorsFollow code geo mem (flipMemory code (call.group code) (call.offset code) mem) ↔
      NoLiveMirror code geo mem.groupInfo call := by
  constructor
  · intro follow
    rcases follow (call.group code) present with ⟨buddy, flexGroup⟩
    constructor
    · cases live : (mem.groupInfo (call.group code)).needInit with
      | true => rfl
      | false => exact absurd (buddy live) (buddyDistance_flipMemory_ne lawful mem _ _)
    · intro flex
      exact flexDistance_flipMemory_ne lawful mem present _ (flexGroup flex)
  · rintro ⟨uninitialised, noFlex⟩ other _
    constructor
    · intro live
      have different : other ≠ call.group code := by
        intro same
        rw [same, uninitialised] at live
        exact absurd live.symm Bool.false_ne_true
      exact buddyDistance_flipMemory_of_ne mem _ different
    · intro flex
      exact absurd flex noFlex

/-- The step of the runs below. -/
theorem mirrorsFollow_step_iff (lawful : code.Lawful geo) (kernel : Kernel) (call : FlipCall) :
    MirrorsFollow code geo kernel.mem (flipStep code geo kernel call).mem ↔
      (call.Granted code geo -> NoLiveMirror code geo kernel.mem.groupInfo call) := by
  rw [flipStep_mem_iff code geo (MirrorsFollow code geo kernel.mem) (mirrorsFollow_refl _) call]
  exact forall_congr' fun granted =>
    mirrorsFollow_flipMemory_iff lawful kernel.mem call granted.group_lt

/-- Whole runs: the mirrors keep their distance at every call if and only if
every call that reaches the stores has no live mirror. -/
theorem mirrors_follow_iff (lawful : code.Lawful geo) (kernel : Kernel)
    (calls : List FlipCall) :
    Run.AtEachCall (flipStep code geo) kernel calls
        (fun state call => MirrorsFollow code geo state.mem (flipStep code geo state call).mem) ↔
      forall call, call ∈ calls -> call.Granted code geo ->
        NoLiveMirror code geo kernel.mem.groupInfo call := by
  refine Run.atEachCall_iff_forall
    (fun state : Kernel => state.mem.groupInfo = kernel.mem.groupInfo) ?_ ?_ rfl calls
  · intro state call kept
    rw [flipStep_groupInfo, kept]
  · intro state call kept
    rw [mirrorsFollow_step_iff lawful, kept]

/-- The sample volume without flex groups. -/
def plainVolume : Geometry := { GdtCsum.volume with logGroupsPerFlex := 0 }

/-- The first group has not been touched by the block allocator, the second has. -/
def untouchedKernel : Kernel :=
  { sampleKernel with
    mem := { sampleKernel.mem with
      groupInfo := fun group => { bbFree := 6632, needInit := group == 0 } } }

/-- Two flips in the first group reach their stores, and a third one in the second
group is refused. -/
theorem mirrors_follow_iff_sample :
    Run.AtEachCall (flipStep (GdtCsum.code plainVolume []) plainVolume) untouchedKernel
      [{ blockNumber := 1000 }, { blockNumber := 7, faults := { dirtyDesc := some .eio } },
        { blockNumber := 39999, faults := { journalStart := some .erofs } }]
      (fun state call => MirrorsFollow (GdtCsum.code plainVolume []) plainVolume state.mem
        (flipStep (GdtCsum.code plainVolume []) plainVolume state call).mem) :=
  (mirrors_follow_iff (GdtCsum.lawful plainVolume []) untouchedKernel _).mpr (by decide)

/-- A successful flip of a free block: the descriptor count of group 0 moves,
`bb_free` of the initialised group and the flex group's count stay. -/
theorem mirrors_left_behind :
    ¬ Run.AtEachCall (flipStep GdtCsum.volumeCode GdtCsum.volume) sampleKernel
      [{ blockNumber := 1000 }]
      (fun state call => MirrorsFollow GdtCsum.volumeCode GdtCsum.volume state.mem
        (flipStep GdtCsum.volumeCode GdtCsum.volume state call).mem) := by
  intro follow
  have first := ((Run.atEachCall_cons _ _ _ _).mp follow).1
  have quiet := (mirrorsFollow_step_iff GdtCsum.volumeCode_lawful _ _).mp first (by decide)
  exact absurd quiet.1 (by decide)

end

end FreeSpace
end Evfs
