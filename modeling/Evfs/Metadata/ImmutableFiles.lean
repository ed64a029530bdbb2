import Evfs.Metadata.VolumeCalls

namespace Evfs
namespace Metadata

open Foundation Ext4

/-!
# Immutable files

A file that is immutable keeps its contents, its flags and its project in every
run of swaps and requests in which no request for it clears the flag.  The swap
tests the flag of the generic layer and the attribute requests test that of ext4, so
the two have to agree in all states of the run.  A version request tests neither,
and so the generation of an immutable file can change.

The boot loader inode is not protected in this way: a swap tests the file and not
the inode with which it exchanges the contents.
-/

section

variable {code : InodeCode} {env : AttrEnv}

/-! ## What a request leaves alone -/

/-- Two files that are the same but for what a request stamps. -/
def SameButStamps (before after : Inode) : Prop :=
  exists ctime version vfsFlags generation,
    after =
      { before with
        ctime := ctime
        version := version
        vfsFlags := vfsFlags
        generation := generation }

theorem SameButStamps.trans {before between after : Inode} (earlier : SameButStamps before between)
    (later : SameButStamps between after) : SameButStamps before after := by
  rcases earlier with ⟨_, _, _, _, rfl⟩
  rcases later with ⟨ctime, version, vfsFlags, generation, rfl⟩
  exact ⟨ctime, version, vfsFlags, generation, rfl⟩

/-- An immutable file that is as it was but for the times of change and the flags of
the generic layer. -/
structure Sealed (start reached : Inode) : Prop where
  flagged : start.flags.Has FlagWord.immutable
  immutable : reached.vfsFlags.immutable = true
  same : SameButStamps start reached

theorem Sealed.flags_eq {start reached : Inode} (untouched : Sealed start reached) :
    reached.flags = start.flags := by
  rcases untouched.same with ⟨_, _, _, _, same⟩
  rw [same]

theorem Sealed.projid_eq {start reached : Inode} (untouched : Sealed start reached) :
    reached.projid = start.projid := by
  rcases untouched.same with ⟨_, _, _, _, same⟩
  rw [same]

/-- Two words that agree outside one flag, and that both have it, are the same. -/
theorem eq_of_agree {first second : FlagWord} (inFirst : first.Has FlagWord.immutable)
    (inSecond : second.Has FlagWord.immutable)
    (agree : first &&& ~~~FlagWord.immutable = second &&& ~~~FlagWord.immutable) :
    first = second := by
  have immutableBit : forall word : FlagWord, word.Has FlagWord.immutable -> word[4] = true := by
    intro word has
    refine (has_ofBit_iff word (by decide)).mp ?_
    unfold FlagWord.Has at has ⊢
    rwa [BitVec.and_comm]
  ext position inside
  by_cases isImmutable : position = 4
  · subst isImmutable
    rw [immutableBit first inFirst, immutableBit second inSecond]
  · have bit : FlagWord.immutable[position] = false := by
      rw [show FlagWord.immutable = BitVec.twoPow 32 4 from rfl, BitVec.getElem_twoPow]
      exact decide_eq_false isImmutable
    have same := congrArg (fun word => word.getLsbD position) agree
    simpa [BitVec.getLsbD_eq_getElem inside, bit] using same

/-- A request that is passed on for an immutable file, and that leaves it so, asks
for the flags and the project that the file has. -/
theorem asked_of_checked {fa : Fileattr} {inode : Inode} (checked : Checked env fa inode)
    (flagged : inode.flags.Has FlagWord.immutable) (kept : fa.flags.Has FlagWord.immutable) :
    requested fa = inode.flags ∧
      (env.test .featureProject = true -> fa.fsxProjid = inode.projid) := by
  have asked : (requested fa).Has FlagWord.immutable := by
    unfold FlagWord.Has requested
    rw [BitVec.and_assoc]
    exact kept
  have mutable := checked.mutable
  unfold ext4IoctlCheckImmutable at mutable
  simp only [flagged, asked, not_true_eq_false, or_self, if_false] at mutable
  split at mutable
  · exact absurd mutable (Option.some_ne_none _)
  rename_i agree
  split at mutable
  · exact absurd mutable (Option.some_ne_none _)
  rename_i project
  refine ⟨eq_of_agree asked flagged (not_not.mp agree).symm, fun supported => ?_⟩
  by_contra other
  exact project ⟨supported, fun same => other same.symm⟩

theorem not_asked (flags mask : FlagWord) : ¬ (flags ^^^ flags).Has mask := by
  unfold FlagWord.Has
  rw [BitVec.xor_self]
  exact not_not.mpr BitVec.zero_and

/-- Setting the flags that an inode has does no more than the loop. -/
theorem setflags_same (inode : Inode) :
    (ext4IoctlSetflags code env inode.flags inode).1 = inode ∨
      (ext4IoctlSetflags code env inode.flags inode).1 =
        storeFlags code env inode.flags inode := by
  have outcome := @setflags_outcome code env inode.flags inode
  have journal : followJournalData env inode.flags inode.flags
      (storeFlags code env inode.flags inode) =
        (storeFlags code env inode.flags inode, none) := by
    rw [followJournalData, if_neg (not_asked inode.flags _)]
  generalize ext4IoctlSetflags code env inode.flags inode = result at outcome ⊢
  cases outcome with
  | refused err => exact Or.inl rfl
  | unmarked err admitted => exact Or.inr rfl
  | unfollowed between err admitted followed =>
      rw [journal] at followed
      exact absurd (congrArg Prod.snd followed).symm (Option.some_ne_none err)
  | followed between admitted followed =>
      rw [journal] at followed
      rw [followExtents, if_neg (not_asked inode.flags _)]
      exact Or.inr (congrArg Prod.fst followed).symm

theorem storeFlags_same (inode : Inode) :
    SameButStamps inode (storeFlags code env inode.flags inode) := by
  unfold storeFlags
  dsimp only
  rw [setFlags_eq, Masked.merge_self]
  exact ⟨_, _, _, _, rfl⟩

theorem projected_same (inode : Inode) :
    SameButStamps inode (projected code env inode.projid inode) := ⟨_, _, _, _, rfl⟩

section Requests

variable (derives : code.DerivesImmutable)
include derives

theorem Sealed.store {start reached : Inode} (untouched : Sealed start reached) :
    Sealed start (storeFlags code env reached.flags reached) := by
  refine ⟨untouched.flagged, ?_, untouched.same.trans (storeFlags_same reached)⟩
  refine (derives.immutable_eq _).trans (decide_eq_true ?_)
  rw [setFlags_eq, Masked.merge_self, untouched.flags_eq]
  exact untouched.flagged

/-- The step lemma for requests, whatever fails in them. -/
theorem Sealed.request {start reached : Inode} (untouched : Sealed start reached) {fa : Fileattr}
    (kept : fa.flags.Has FlagWord.immutable) :
    Sealed start (ext4FileattrSet code env fa reached).1 := by
  have way := @fileattrSet_way code env fa reached
  have flagged : reached.flags.Has FlagWord.immutable := by
    rw [untouched.flags_eq]
    exact untouched.flagged
  have setflags := @setflags_same code env reached
  have stored := @Sealed.store code env derives start reached untouched
  have between : Sealed start (ext4IoctlSetflags code env reached.flags reached).1 := by
    rcases setflags with same | same
    · rwa [same]
    · rwa [same]
  generalize ext4FileattrSet code env fa reached = result at way ⊢
  cases way with
  | refused err => exact untouched
  | unset after err checked outcome =>
      rw [(asked_of_checked checked flagged kept).1] at outcome
      rwa [outcome] at between
  | set after checked outcome =>
      rw [(asked_of_checked checked flagged kept).1] at outcome
      rw [outcome] at between
      have project := @setproject_outcome code env fa.fsxProjid after
      generalize ext4IoctlSetproject code env fa.fsxProjid after = result at project ⊢
      cases project with
      | refused err => exact between
      | idle set unset => exact between
      | given err supported =>
          have same : fa.fsxProjid = after.projid := by
            rw [(asked_of_checked checked flagged kept).2 supported.2, untouched.projid_eq,
              between.projid_eq]
          rw [same]
          exact ⟨between.flagged, between.immutable, between.same.trans (projected_same after)⟩

end Requests

/-! ## Runs -/

/-- A call that does not ask to clear the flag of a file. -/
def LeavesImmutable (number : Nat) : VolumeCall -> Prop
  | .swap _ => True
  | .setVersion _ _ _ _ => True
  | .setAttributes ino call _ => ino = number -> call.fa.flags.Has FlagWord.immutable

/-- The step lemma. -/
theorem Sealed.step (derives : code.DerivesImmutable) {number : Nat}
    (isFile : number ≠ bootLoaderIno) {start : Inode} {inodes : Inodes}
    (untouched : Sealed start (inodes.inode number)) {call : VolumeCall}
    (leaves : LeavesImmutable number call) :
    Sealed start ((volumeStep code inodes call).inode number) := by
  cases call with
  | swap call =>
      show Sealed start ((swapBootLoaderInode code call.env call.ino inodes).1.inode number)
      by_cases same : number = call.ino
      · have forbidden : forbiddenSwap call.env (inodes.inode call.ino) = true := by
          rw [← same, forbiddenSwap, untouched.immutable]
          simp
        rw [swap_refused (Or.inr (Or.inr (Or.inl forbidden)))]
        exact untouched
      · rw [swap_spares same isFile]
        exact untouched
  | setAttributes ino call passedOn =>
      show Sealed start (Function.update inodes.inode ino _ number)
      by_cases same : number = ino
      · subst same
        rw [Function.update_self]
        exact untouched.request derives (leaves rfl)
      · rw [Function.update_of_ne same]
        exact untouched
  | setVersion ino env generation passedOn =>
      show Sealed start (Function.update inodes.inode ino _ number)
      by_cases same : number = ino
      · subst same
        rw [Function.update_self]
        rcases setversion_cases code env generation (inodes.inode number) with kept | ⟨-, set⟩
        · rwa [kept]
        · rw [set]
          exact ⟨untouched.flagged, untouched.immutable, untouched.same.trans ⟨_, _, _, _, rfl⟩⟩
      · rw [Function.update_of_ne same]
        exact untouched

/-- In any run of swaps and requests in which no request for an immutable file
clears the flag, whatever fails in it, the file is what it was in every state: its
contents, its flags, its project and its owner stay. -/
theorem immutable_files_always (derives : code.DerivesImmutable) {number : Nat}
    (isFile : number ≠ bootLoaderIno) {inodes : Inodes}
    (flagged : (inodes.inode number).flags.Has FlagWord.immutable)
    (immutable : (inodes.inode number).vfsFlags.immutable = true) {calls : List VolumeCall}
    (leaves : forall call, call ∈ calls -> LeavesImmutable number call) :
    Run.Always (volumeStep code) inodes calls fun reached =>
      SameButStamps (inodes.inode number) (reached.inode number) := by
  have initial : Sealed (inodes.inode number) (inodes.inode number) :=
    ⟨flagged, immutable, _, _, _, _, rfl⟩
  have untouched : Run.Always (volumeStep code) inodes calls fun reached =>
      Sealed (inodes.inode number) (reached.inode number) := by
    refine Run.always_of_step (fun reached : Inodes => Sealed (inodes.inode number)
      (reached.inode number)) ?_ initial calls leaves
    intro reached call admitted before
    exact before.step derives isFile admitted
  exact fun visited short => (untouched visited short).same

/-- The sample volume, with one file that is immutable. -/
def sealedInodes : Inodes :=
  { sampleInodes with
    inode := Function.update sampleInodes.inode 12
      { sampleFile 96 with
        flags := FlagWord.extents ||| FlagWord.immutable
        vfsFlags := { VfsFlags.none with immutable := true } } }

theorem inodeCode_derivesImmutable : inodeCode.DerivesImmutable where
  immutable_eq := fun _ => rfl

/-- The file is not swapped, then set as it is, and then another file is swapped. -/
theorem immutable_files_always_sample :
    let calls : List VolumeCall :=
      [.swap ⟨swapEnv false, 12, by decide⟩,
        .setAttributes 12
          ⟨attrEnv [], ⟨FlagWord.extents ||| FlagWord.immutable, 0⟩, attrEnv_lawful []⟩
          (sampleFile 96),
        .swap ⟨swapEnv false, 13, by decide⟩]
    (Run.Always (volumeStep inodeCode) sealedInodes calls fun reached =>
        SameButStamps (sealedInodes.inode 12) (reached.inode 12)) ∧
      ((Run.exec (volumeStep inodeCode) sealedInodes calls).inode 12).ctime = ⟨5, 0⟩ ∧
      ((Run.exec (volumeStep inodeCode) sealedInodes calls).inode 13).blocks = 40 := by
  refine ⟨immutable_files_always inodeCode_derivesImmutable (by decide) (by decide) (by decide) ?_,
    by decide, by decide⟩
  simp only [List.forall_mem_cons, List.not_mem_nil, false_imp_iff, implies_true, and_true]
  exact ⟨trivial, fun _ => by decide, trivial⟩

end

end Metadata
end Evfs
