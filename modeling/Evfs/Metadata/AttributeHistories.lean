import Evfs.Metadata.FileAttributes

namespace Evfs
namespace Metadata

open Foundation Ext4

/-!
# Runs of attribute requests

A request reads back as it was set, and what was read can be written back.  DAX
excludes other flags, which `dax_compatible` keeps up as long as no request asks
for DAX and for journalled data at once: it holds new flags against old ones, and
never new flags against one another.
-/

section

variable {code : InodeCode} {env : AttrEnv}

/-! ## Reading and writing -/

/-- The flags that a read shows. -/
def shownFlags (fileType : FileType) : FlagWord :=
  if fileType = .regular then FlagWord.userVisible &&& ~~~FlagWord.projinherit
  else FlagWord.userVisible

theorem fileattrGet_flags (inode : Inode) :
    (ext4FileattrGet env inode).flags = inode.flags &&& shownFlags inode.fileType := by
  unfold ext4FileattrGet shownFlags
  dsimp only
  split
  · rw [BitVec.and_assoc]
  · rfl

/-- A read shows all flags that a request can have set. -/
theorem requested_shown {fileType : FileType} {fa : Fileattr}
    (maskFlags : ext4MaskFlags fileType (requested fa) = requested fa) :
    requested fa &&& ~~~shownFlags fileType = 0 := by
  have visible : FlagWord.userModifiable &&& ~~~FlagWord.userVisible = 0 := by decide
  have hidden : FlagWord.userModifiable &&&
      (FlagWord.regFlmask &&& ~~~(FlagWord.userVisible &&& ~~~FlagWord.projinherit)) = 0 := by
    decide
  cases fileType with
  | regular =>
      rw [← maskFlags]
      show requested fa &&& FlagWord.regFlmask &&& ~~~_ = 0
      rw [requested, BitVec.and_assoc, BitVec.and_assoc]
      exact (congrArg (fa.flags &&& ·) hidden).trans BitVec.and_zero
  | directory =>
      rw [requested, BitVec.and_assoc]
      exact (congrArg (fa.flags &&& ·) visible).trans BitVec.and_zero
  | other =>
      rw [requested, BitVec.and_assoc]
      exact (congrArg (fa.flags &&& ·) visible).trans BitVec.and_zero

/-- A successful request reads back.  The flags of the loop are those of the request,
and so are the data mode and the extents flag where the operations that set them are
effective.  The others are shown as before, and the project is the one requested
unless projects are kept that cannot be set. -/
theorem set_then_get_attributes (lawful : env.Lawful) {fa : Fileattr} {inode : Inode}
    (success : (ext4FileattrSet code env fa inode).2 = none) :
    let result := ext4FileattrGet env (ext4FileattrSet code env fa inode).1
    (exists mask, AdmittedMask mask ∧ (env.Effective -> mask = FlagWord.userModifiable) ∧
        result.flags = Masked.merge mask fa.flags (ext4FileattrGet env inode).flags) ∧
      (Projects env ∨ env.test .featureProject = false -> result.fsxProjid = fa.fsxProjid) := by
  rcases fileattr_success lawful success with
    ⟨mask, checked, admitted, admittedMask, full, flags, fileType, projid_set, projid_unset⟩
  dsimp only
  generalize (ext4FileattrSet code env fa inode).1 = after at flags fileType projid_set projid_unset
  constructor
  · refine ⟨mask, admittedMask, full, ?_⟩
    rw [fileattrGet_flags, fileattrGet_flags, fileType, flags]
    exact Masked.merge_window _ _ _ _ _ admittedMask.within (requested_shown checked.maskFlags)
  · rintro (projects | unsupported)
    · unfold ext4FileattrGet
      rw [projects.2, if_pos rfl]
      exact projid_set projects
    · have none : ¬ Projects env := by
        rintro ⟨-, supported⟩
        exact absurd (unsupported.symm.trans supported) Bool.false_ne_true
      unfold ext4FileattrGet
      rw [unsupported, if_neg Bool.false_ne_true]
      exact (projid_unset none).1.symm

/-- A file becomes append-only, stops mapping extents, and gets a project. -/
theorem set_then_get_attributes_sample :
    let fa : Fileattr := ⟨FlagWord.append ||| FlagWord.journalData, 7⟩
    let result := ext4FileattrGet (attrEnv [])
      (ext4FileattrSet inodeCode (attrEnv []) fa (sampleFile 8)).1
    ((exists mask, AdmittedMask mask ∧
          ((attrEnv []).Effective -> mask = FlagWord.userModifiable) ∧
          result.flags = Masked.merge mask fa.flags
            (ext4FileattrGet (attrEnv []) (sampleFile 8)).flags) ∧
        (Projects (attrEnv []) ∨ (attrEnv []).test .featureProject = false ->
          result.fsxProjid = fa.fsxProjid)) ∧
      (attrEnv []).Effective ∧ result = fa :=
  ⟨set_then_get_attributes (attrEnv_lawful []) (by decide), attrEnv_effective [], by decide⟩

/-- The only flag that an admitted mask reaches and a read does not show. -/
theorem mask_hidden {mask : FlagWord} (admittedMask : AdmittedMask mask) (fileType : FileType) :
    mask &&& ~~~(shownFlags fileType &&& FlagWord.userModifiable) =
      FlagWord.projinherit.onlyIf (decide (fileType = .regular)) := by
  have within := admittedMask.within
  have covers := admittedMask.covers
  by_cases regular : fileType = .regular
  · have window : shownFlags fileType &&& FlagWord.userModifiable =
        FlagWord.userModifiable &&& ~~~FlagWord.projinherit := by
      rw [shownFlags, if_pos regular]
      decide
    have inLoop : FlagWord.projinherit &&& ~~~loopFlags = 0 := by decide
    rw [window, decide_eq_true regular, FlagWord.onlyIf, if_pos rfl]
    ext position inside
    have reaches : (mask &&& ~~~FlagWord.userModifiable)[position] = false := by simp [within]
    have has : (loopFlags &&& ~~~mask)[position] = false := by simp [covers]
    have loops : (FlagWord.projinherit &&& ~~~loopFlags)[position] = false := by simp [inLoop]
    simp only [BitVec.getElem_and, BitVec.getElem_not] at reaches has loops ⊢
    grind
  · have window : shownFlags fileType &&& FlagWord.userModifiable = FlagWord.userModifiable := by
      rw [shownFlags, if_neg regular]
      decide
    rw [window, decide_eq_false regular, FlagWord.onlyIf, if_neg Bool.false_ne_true]
    exact within

/-- Writing back what was read changes no project, and no flag but one that a read
does not show.  This is so also where the request fails on its way. -/
theorem written_back (lawful : env.Lawful) (inode : Inode) :
    let after := (ext4FileattrSet code env (ext4FileattrGet env inode) inode).1
    after.projid = inode.projid ∧ after.fileType = inode.fileType ∧
      (after.flags = inode.flags ∨
        inode.fileType = .regular ∧ after.flags = inode.flags &&& ~~~FlagWord.projinherit) := by
  have outcome := @fileattrSet_outcome code env lawful (ext4FileattrGet env inode) inode
  dsimp only
  generalize ext4FileattrSet code env (ext4FileattrGet env inode) inode = result at outcome ⊢
  cases outcome with
  | refused err => exact ⟨rfl, rfl, Or.inl rfl⟩
  | stored after err mask checked admitted admittedMask flags fileType projid =>
      refine ⟨?_, fileType, ?_⟩
      · rcases projid with kept | ⟨projects, given⟩
        · exact kept
        · rw [given, ext4FileattrGet, projects.2, if_pos rfl]
      · dsimp only
        rw [flags, requested, fileattrGet_flags, BitVec.and_assoc, Masked.merge_part,
          mask_hidden admittedMask]
        by_cases regular : inode.fileType = .regular
        · rw [decide_eq_true regular]
          exact Or.inr ⟨regular, rfl⟩
        · rw [decide_eq_false regular]
          exact Or.inl BitVec.and_allOnes

/-- A regular file that has got a flag which a read does not show. -/
theorem written_back_sample :
    let file := { sampleFile 8 with flags := FlagWord.projinherit ||| FlagWord.hugeFile }
    let after := (ext4FileattrSet inodeCode (attrEnv []) (ext4FileattrGet (attrEnv []) file) file).1
    (after.projid = file.projid ∧ after.fileType = file.fileType ∧
      (after.flags = file.flags ∨
        file.fileType = .regular ∧ after.flags = file.flags &&& ~~~FlagWord.projinherit)) ∧
      after.flags = FlagWord.hugeFile :=
  ⟨written_back (attrEnv_lawful []) _, by decide⟩

/-! ## DAX -/

/-- The flags that DAX excludes.  A directory may have inline data. -/
def daxExcluded (fileType : FileType) : FlagWord :=
  if fileType = .directory then FlagWord.daxMutExcl &&& ~~~FlagWord.inlineData
  else FlagWord.daxMutExcl

def DaxExclusive (inode : Inode) : Prop :=
  inode.flags.Has FlagWord.dax -> ¬ inode.flags.Has (daxExcluded inode.fileType)

theorem daxCompatible_iff (inode : Inode) (oldflags flags : FlagWord) :
    daxCompatible env inode oldflags flags = true ↔
      (flags.Has FlagWord.dax -> ¬ oldflags.Has (daxExcluded inode.fileType) ∧
          env.test .verityInProgress = false) ∧
        (flags.Has (daxExcluded inode.fileType) -> ¬ oldflags.Has FlagWord.dax) := by
  have plain : forall word : FlagWord,
      (word &&& ~~~FlagWord.inlineData).Has FlagWord.dax ↔ word.Has FlagWord.dax := by
    intro word
    unfold FlagWord.Has
    rw [BitVec.and_assoc]
    exact Iff.rfl
  have narrowed : forall word : FlagWord,
      (word &&& ~~~FlagWord.inlineData).Has FlagWord.daxMutExcl ↔
        word.Has (FlagWord.daxMutExcl &&& ~~~FlagWord.inlineData) := by
    intro word
    unfold FlagWord.Has
    rw [BitVec.and_assoc]
    exact Iff.rfl
  unfold daxCompatible daxExcluded
  by_cases directory : inode.fileType = .directory
  · simp only [directory, beq_self_eq_true, if_true, plain, narrowed]
    grind
  · have notDirectory : (inode.fileType == FileType.directory) = false := by
      simpa using directory
    simp only [directory, notDirectory, Bool.false_eq_true, if_false]
    grind

theorem daxCompatible_of_admitted {flags : FlagWord} {inode : Inode}
    (admitted : setflagsRefusal env flags inode = none) :
    daxCompatible env inode inode.flags flags = true := by
  unfold setflagsRefusal at admitted
  by_contra incompatible
  rw [Bool.not_eq_true] at incompatible
  simp only [incompatible, Bool.not_false, if_true] at admitted
  split at admitted
  · exact absurd admitted (Option.some_ne_none _)
  split at admitted <;> exact absurd admitted (Option.some_ne_none _)

/-- A request for DAX and for journalled data at once. -/
def AsksBoth (fa : Fileattr) : Prop :=
  fa.flags.Has FlagWord.dax ∧ fa.flags.Has FlagWord.journalData

/-- Of the flags that DAX excludes, a request can ask for one only. -/
theorem requested_excluded {fa : Fileattr} {fileType : FileType}
    (unasked : ¬ fa.flags.Has FlagWord.journalData) :
    requested fa &&& daxExcluded fileType = 0 := by
  have single : FlagWord.userModifiable &&& daxExcluded fileType = FlagWord.journalData := by
    cases fileType <;> decide
  rw [requested, BitVec.and_assoc, single]
  exact not_not.mp unasked

theorem requested_has_dax (fa : Fileattr) :
    (requested fa).Has FlagWord.dax ↔ fa.flags.Has FlagWord.dax := by
  unfold FlagWord.Has requested
  rw [BitVec.and_assoc]
  exact Iff.rfl

/-- An admitted request decides about DAX. -/
theorem merge_dax {mask : FlagWord} (admittedMask : AdmittedMask mask) (taken kept : FlagWord) :
    FlagWord.Has (Masked.merge mask taken kept) FlagWord.dax ↔ taken.Has FlagWord.dax := by
  have inLoop : FlagWord.dax &&& loopFlags = FlagWord.dax := by decide
  have covered : FlagWord.dax &&& ~~~mask = 0 := by
    rw [← inLoop, BitVec.and_assoc, admittedMask.covers]
    exact BitVec.and_zero
  unfold FlagWord.Has
  rw [Masked.merge_covered _ _ _ _ covered]

/-- The step lemma. -/
theorem DaxExclusive.step (lawful : env.Lawful) {fa : Fileattr} {inode : Inode}
    (exclusive : DaxExclusive inode) (notBoth : ¬ AsksBoth fa) :
    DaxExclusive (ext4FileattrSet code env fa inode).1 := by
  have outcome := @fileattrSet_outcome code env lawful fa inode
  generalize ext4FileattrSet code env fa inode = result at outcome ⊢
  cases outcome with
  | refused err => exact exclusive
  | stored after err mask checked admitted admittedMask flags fileType projid =>
      have compatible := (daxCompatible_iff inode inode.flags (requested fa)).mp
        (daxCompatible_of_admitted (setflagsRefusal_of_started admitted))
      intro hasDax hasExcluded
      dsimp only at hasDax hasExcluded
      rw [flags] at hasDax hasExcluded
      have asked := (merge_dax admittedMask _ _).mp hasDax
      have none := (compatible.1 asked).1
      have unasked : ¬ fa.flags.Has FlagWord.journalData := fun both =>
        notBoth ⟨(requested_has_dax fa).mp asked, both⟩
      rw [fileType] at hasExcluded
      exact hasExcluded (Masked.merge_absent _ _ _ _ (requested_excluded unasked) (not_not.mp none))

/-! ## Requests as transitions -/

/-- One request, in an environment that keeps the laws. -/
structure AttrCall where
  env : AttrEnv
  fa : Fileattr
  lawful : env.Lawful

def attrStep (code : InodeCode) (inode : Inode) (call : AttrCall) : Inode :=
  (ext4FileattrSet code call.env call.fa inode).1

/-- In a run in which no request asks for both, DAX and the flags that it excludes
are not set together in any state, whatever fails. -/
theorem dax_exclusive_always {inode : Inode} (exclusive : DaxExclusive inode)
    {calls : List AttrCall} (notBoth : forall call, call ∈ calls -> ¬ AsksBoth call.fa) :
    Run.Always (attrStep code) inode calls DaxExclusive := by
  refine Run.always_of_step DaxExclusive ?_ exclusive calls notBoth
  intro reached call admitted before
  exact @DaxExclusive.step code call.env call.lawful call.fa reached before admitted

/-- DAX is set, and journalled data are refused afterwards. -/
theorem dax_exclusive_always_sample :
    let calls : List AttrCall :=
      [⟨attrEnv [], ⟨FlagWord.dax ||| FlagWord.extents, 0⟩, attrEnv_lawful []⟩,
        ⟨attrEnv [], ⟨FlagWord.journalData ||| FlagWord.extents, 0⟩, attrEnv_lawful []⟩]
    Run.Always (attrStep inodeCode) (sampleFile 8) calls DaxExclusive ∧
      (Run.exec (attrStep inodeCode) (sampleFile 8) calls).flags =
        FlagWord.dax ||| FlagWord.extents := by
  refine ⟨dax_exclusive_always ?_ ?_, by decide⟩
  · intro hasDax
    exact absurd hasDax (by decide)
  · simp only [List.forall_mem_cons, List.not_mem_nil, false_imp_iff, implies_true, and_true]
    constructor
    · rintro ⟨-, journalled⟩
      exact absurd journalled (by decide)
    · rintro ⟨hasDax, -⟩
      exact absurd hasDax (by decide)

end

end Metadata
end Evfs
