import Evfs.Ext4.Fsmap
import Evfs.Ext4.Ioctl

namespace Evfs
namespace Format

open Ext4 Foundation

/-!
# What a space map query leaves with the user

The walk of the volume is a client of the formatter.  Whatever it asks, the records of
the user are written from the first on, one for each mapping, in the order in which the
mappings came and without a gap.  A walk that keeps to the count of the head therefore
never writes behind the array of the user.

The formatter does not know which record will be the last.  The flag that says so is set
after the walk, and only if the walk came to its end.
-/

section

variable {Mapping : Type} {env : FsmapEnv Mapping}

/-! ## One mapping -/

theorem copyRecord_copied {place : FsmapPlace} {index : UInt32} {record : Fsmap}
    {recs : Nat -> Fsmap} (copied : (copyRecord env place index record recs).2 = true) :
    (copyRecord env place index record recs).1 = Function.update recs index.toNat record := by
  unfold copyRecord at copied ⊢
  cases fault : env.faults place with
  | true =>
      rw [fault] at copied
      exact absurd copied Bool.false_ne_true
  | false => rfl

theorem copyRecord_ne {place : FsmapPlace} {index : UInt32} {record : Fsmap}
    {recs : Nat -> Fsmap} {position : Nat} (elsewhere : position ≠ index.toNat) :
    (copyRecord env place index record recs).1 position = recs position := by
  unfold copyRecord
  split <;> exact Function.update_of_ne elsewhere _ _

theorem format_recs (info : GetfsmapInfo) (mapping : Mapping) :
    (ext4GetfsmapFormat env info mapping).1.recs =
      (copyRecord env (.record info.giIdx) info.giIdx (env.fromInternal mapping) info.recs).1 :=
  rfl

theorem format_copied {info : GetfsmapInfo} {mapping : Mapping}
    (copied : (ext4GetfsmapFormat env info mapping).2 = 0) :
    (ext4GetfsmapFormat env info mapping).1.recs =
      Function.update info.recs info.giIdx.toNat (env.fromInternal mapping) := by
  rw [format_recs]
  apply copyRecord_copied
  by_contra torn
  exact absurd ((if_neg torn).symm.trans copied) (by decide)

theorem format_answer (info : GetfsmapInfo) (mapping : Mapping) :
    (ext4GetfsmapFormat env info mapping).2 = 0 ∨
      (ext4GetfsmapFormat env info mapping).2 = Errno.efault.code := by
  unfold ext4GetfsmapFormat
  dsimp only
  split
  · exact Or.inl rfl
  · exact Or.inr rfl

theorem format_index {info : GetfsmapInfo} {mapping : Mapping} {count : Nat}
    (index : info.giIdx.toNat = count) (room : count + 1 < 2 ^ 32) :
    (ext4GetfsmapFormat env info mapping).1.giIdx.toNat = count + 1 := by
  show (info.giIdx + 1).toNat = _
  rw [UInt32.toNat_add, UInt32.toNat_one, index]
  exact Nat.mod_eq_of_lt room

/-! ## A walk -/

/-- What holds of the formatter after some mappings, whatever failed. -/
structure Placed (recs : Nat -> Fsmap) (mappings : List Mapping) (info : GetfsmapInfo) : Prop where
  index : info.giIdx.toNat = mappings.length
  beyond : forall position, mappings.length ≤ position -> info.recs position = recs position

/-- What holds after mappings that could all be copied. -/
structure Formatted (env : FsmapEnv Mapping) (mappings : List Mapping) (info : GetfsmapInfo) :
    Prop where
  written : forall position mapping, mappings[position]? = some mapping ->
    info.recs position = env.fromInternal mapping
  lastFlags : forall mapping, mappings.getLast? = some mapping ->
    info.giLastFlags = env.fmrFlags mapping

theorem Placed.snoc {recs : Nat -> Fsmap} {mappings : List Mapping} {info : GetfsmapInfo}
    (placed : Placed recs mappings info) (mapping : Mapping)
    (room : mappings.length + 1 < 2 ^ 32) :
    Placed recs (mappings ++ [mapping]) (ext4GetfsmapFormat env info mapping).1 := by
  have length : (mappings ++ [mapping]).length = mappings.length + 1 := List.length_append
  refine ⟨?_, ?_⟩
  · rw [length]
    exact format_index placed.index room
  · intro position beyond
    rw [length] at beyond
    rw [format_recs, copyRecord_ne (by rw [placed.index]; omega)]
    exact placed.beyond position (by omega)

theorem Formatted.snoc {recs : Nat -> Fsmap} {mappings : List Mapping} {info : GetfsmapInfo}
    (formatted : Formatted env mappings info) (placed : Placed recs mappings info)
    {mapping : Mapping} (copied : (ext4GetfsmapFormat env info mapping).2 = 0) :
    Formatted env (mappings ++ [mapping]) (ext4GetfsmapFormat env info mapping).1 := by
  refine ⟨?_, ?_⟩
  · intro position written listed
    rw [format_copied copied, placed.index]
    by_cases here : position = mappings.length
    · rw [here, List.getElem?_concat_length] at listed
      rw [here, Function.update_self, Option.some.inj listed]
    · rw [Function.update_of_ne here]
      refine formatted.written position written ?_
      obtain ⟨inside, -⟩ := List.getElem?_eq_some_iff.mp listed
      rw [List.length_append, List.length_singleton] at inside
      rw [← listed, List.getElem?_append_left (by omega)]
  · intro last latest
    rw [List.getLast?_concat] at latest
    rw [← Option.some.inj latest]
    rfl

theorem placed_exec (recs : Nat -> Fsmap) (mappings : List Mapping)
    (room : mappings.length < 2 ^ 32) :
    Placed recs mappings
      (Run.exec (Client.move (ext4GetfsmapFormat env)) ⟨recs, 0, 0⟩ mappings) := by
  induction mappings using List.reverseRecOn with
  | nil => exact ⟨rfl, fun position _ => rfl⟩
  | append_singleton mappings mapping inductionHypothesis =>
      rw [List.length_append, List.length_singleton] at room
      rw [Run.exec_snoc]
      exact (inductionHypothesis (by omega)).snoc mapping room

theorem formatted_exec (recs : Nat -> Fsmap) (mappings : List Mapping)
    (room : mappings.length < 2 ^ 32)
    (copied : Run.AtEachCall (Client.move (ext4GetfsmapFormat env)) ⟨recs, 0, 0⟩ mappings
      fun info mapping => (ext4GetfsmapFormat env info mapping).2 = 0) :
    Formatted env mappings
      (Run.exec (Client.move (ext4GetfsmapFormat env)) ⟨recs, 0, 0⟩ mappings) := by
  induction mappings using List.reverseRecOn with
  | nil =>
      refine ⟨fun position mapping impossible => ?_, fun mapping impossible => ?_⟩
      · cases impossible
      · cases impossible
  | append_singleton mappings mapping inductionHypothesis =>
      rw [List.length_append, List.length_singleton] at room
      have parts := (Run.atEachCall_append _ _ _ _).mp copied
      rw [Run.exec_snoc]
      refine (inductionHypothesis (by omega) parts.1).snoc
        (placed_exec recs mappings (by omega)) ?_
      exact ((Run.atEachCall_cons _ _ _ _).mp parts.2).1

/-! ## The last record -/

theorem toNat_positive {index : UInt32} (positive : index ≠ 0) : 0 < index.toNat := by
  refine Nat.pos_of_ne_zero fun zero => positive ?_
  rw [← UInt32.toNat_inj, zero, UInt32.toNat_zero]

theorem toNat_pred {index : UInt32} (positive : index ≠ 0) :
    (index - 1).toNat = index.toNat - 1 := by
  have least : 1 ≤ index := by
    rw [UInt32.le_iff_toNat_le, UInt32.toNat_one]
    exact toNat_positive positive
  rw [UInt32.toNat_sub_of_le _ _ least, UInt32.toNat_one]

theorem markLast_beyond (aborted : Bool) {info : GetfsmapInfo} {position : Nat}
    (beyond : info.giIdx.toNat ≤ position) :
    (markLast env aborted info).1 position = info.recs position := by
  unfold markLast
  split
  · rename_i marks
    have positive : info.giIdx ≠ 0 := by
      rw [Bool.and_eq_true, bne_iff_ne] at marks
      exact marks.2
    have nonzero := toNat_positive positive
    refine copyRecord_ne ?_
    rw [toNat_pred positive]
    omega
  · rfl

/-- The record of a mapping, with the flag of the last one. -/
def record (env : FsmapEnv Mapping) (last : Bool) (mapping : Mapping) : Fsmap :=
  if last then
    { env.fromInternal mapping with fmrFlags := env.fmrFlags mapping ||| fmrOfLast }
  else env.fromInternal mapping

theorem markLast_written (aborted : Bool) {recs : Nat -> Fsmap} {mappings : List Mapping}
    {info : GetfsmapInfo} (placed : Placed recs mappings info)
    (formatted : Formatted env mappings info) (marked : (markLast env aborted info).2 = true)
    {position : Nat} {mapping : Mapping} (listed : mappings[position]? = some mapping) :
    (markLast env aborted info).1 position =
      record env (!aborted && decide (position + 1 = mappings.length)) mapping := by
  obtain ⟨inside, -⟩ := List.getElem?_eq_some_iff.mp listed
  have positive : info.giIdx ≠ 0 := by
    intro zero
    have index := placed.index
    rw [zero, UInt32.toNat_zero] at index
    omega
  unfold markLast record at *
  cases aborted with
  | true => exact formatted.written position mapping listed
  | false =>
      simp only [Bool.not_false, Bool.true_and, bne_iff_ne, ne_eq, positive, not_false_eq_true,
        if_true, decide_eq_true_eq] at marked ⊢
      rw [copyRecord_copied marked, toNat_pred positive, placed.index]
      by_cases last : position + 1 = mappings.length
      · have here : mappings.length - 1 = position := by omega
        have latest : mappings.getLast? = some mapping := by
          rw [List.getLast?_eq_getElem?, here, listed]
        rw [if_pos last, here, Function.update_self, formatted.written position mapping listed,
          formatted.lastFlags mapping latest]
      · rw [if_neg last, Function.update_of_ne (by omega)]
        exact formatted.written position mapping listed

/-! ## The call -/

theorem finish_recs (user : UserFsmap) (info : GetfsmapInfo) (result : FsmapResult) :
    (finishGetfsmap env user info result).1.recs = info.recs ∨
      (finishGetfsmap env user info result).1.recs =
        (markLast env (decide (result.error = ext4QueryRangeAbort)) info).1 := by
  unfold finishGetfsmap
  dsimp only
  split
  · exact Or.inl rfl
  · split
    · exact Or.inr rfl
    · split <;> exact Or.inr rfl

theorem finish_success {user : UserFsmap} {info : GetfsmapInfo} {result : FsmapResult}
    (success : (finishGetfsmap env user info result).2 = 0) :
    (result.error = ext4QueryRangeAbort ∨ result.error = 0) ∧
      (markLast env (decide (result.error = ext4QueryRangeAbort)) info).2 = true ∧
      (finishGetfsmap env user info result).1 =
        { head := { user.head with fmhEntries := result.fmhEntries, fmhOflags := result.fmhOflags }
          recs := (markLast env (decide (result.error = ext4QueryRangeAbort)) info).1 } := by
  have faulted : Errno.efault.code ≠ 0 := by decide
  unfold finishGetfsmap at success ⊢
  dsimp only at success ⊢
  by_cases failed : decide (result.error = ext4QueryRangeAbort) = false ∧ result.error ≠ 0
  · rw [if_pos failed] at success
    exact absurd success failed.2
  · rw [if_neg failed] at success ⊢
    by_cases torn : (markLast env (decide (result.error = ext4QueryRangeAbort)) info).2 = false
    · rw [if_pos torn] at success
      exact absurd success faulted
    · rw [if_neg torn] at success ⊢
      by_cases fault : env.faults .headWrite = true
      · rw [if_pos fault] at success
        exact absurd success faulted
      · rw [if_neg fault]
        refine ⟨?_, Bool.not_eq_false _ ▸ torn, rfl⟩
        by_contra neither
        rw [not_or] at neither
        exact failed ⟨decide_eq_false neither.1, neither.2⟩

/-- The walk of a call. -/
def walk (env : FsmapEnv Mapping) (user : UserFsmap) : Client Mapping Int FsmapResult :=
  env.getfsmap (user.head.internal env)

/-- The mappings that a call formats. -/
def mappingsOf (env : FsmapEnv Mapping) (user : UserFsmap) : List Mapping :=
  (walk env user).asked (ext4GetfsmapFormat env) ⟨user.recs, 0, 0⟩

/-- What the walk leaves in its head and returns. -/
def resultOf (env : FsmapEnv Mapping) (user : UserFsmap) : FsmapResult :=
  ((walk env user).run (ext4GetfsmapFormat env) ⟨user.recs, 0, 0⟩).2

/-- The walk keeps to the count of the head and relays what the formatter returns. -/
structure Orderly (env : FsmapEnv Mapping) (user : UserFsmap) : Prop where
  atMost : (walk env user).AtMost user.head.fmhCount.toNat
  relays : (walk env user).Relays (fun answer => answer ≠ 0)
    (fun answer result => result.error = answer)

theorem Orderly.room {user : UserFsmap} (orderly : Orderly env user) :
    (mappingsOf env user).length ≤ user.head.fmhCount.toNat :=
  orderly.atMost.length_asked (ext4GetfsmapFormat env) ⟨user.recs, 0, 0⟩

/-- The formatter after the walk. -/
def infoOf (env : FsmapEnv Mapping) (user : UserFsmap) : GetfsmapInfo :=
  Run.exec (Client.move (ext4GetfsmapFormat env)) ⟨user.recs, 0, 0⟩ (mappingsOf env user)

theorem iocGetfsmap_walks {user : UserFsmap} (given : env.faults .headRead = false)
    (valid : user.head.Valid) :
    iocGetfsmap env user = finishGetfsmap env user (infoOf env user) (resultOf env user) := by
  unfold iocGetfsmap infoOf
  rw [given, if_neg Bool.false_ne_true, if_neg (not_not_intro valid), mappingsOf,
    ← Client.run_state]
  rfl

/-- A call is refused, or it walks and finishes. -/
theorem iocGetfsmap_cases (env : FsmapEnv Mapping) (user : UserFsmap) :
    ((iocGetfsmap env user).1 = user ∧ (iocGetfsmap env user).2 ≠ 0) ∨
      user.head.Valid ∧
        iocGetfsmap env user =
          finishGetfsmap env user (infoOf env user) (resultOf env user) := by
  cases given : env.faults .headRead with
  | true =>
      unfold iocGetfsmap
      rw [if_pos given]
      exact Or.inl ⟨rfl, show Errno.efault.code ≠ 0 by decide⟩
  | false =>
      by_cases valid : user.head.Valid
      · exact Or.inr ⟨valid, iocGetfsmap_walks given valid⟩
      · unfold iocGetfsmap
        rw [given, if_neg Bool.false_ne_true, if_pos valid]
        exact Or.inl ⟨rfl, show Errno.einval.code ≠ 0 by decide⟩

/-- The environment of the dispatcher describes a call. -/
structure DescribesFsmap (outer : IoctlEnv) (env : FsmapEnv Mapping) (user : UserFsmap) : Prop
    where
  headRead : outer.fails (.copyFromUser 0) = env.faults .headRead
  valid : (outer.test .fsmapReserved || outer.test .fsmapOffsets) = !decide user.head.Valid
  aborted : outer.test .fsmapAborted = decide ((resultOf env user).error = ext4QueryRangeAbort)
  walked : (resultOf env user).error ≠ ext4QueryRangeAbort ->
    outer.result .getfsmap = (resultOf env user).error
  entries : outer.test .fsmapEntries = ((infoOf env user).giIdx != 0)
  flags : outer.fails (.copyToUser 0) = env.faults (.flags ((infoOf env user).giIdx - 1))
  headWrite : outer.fails (.copyToUser 1) = env.faults .headWrite

theorem copyRecord_ok (place : FsmapPlace) (index : UInt32) (record : Fsmap)
    (recs : Nat -> Fsmap) :
    (copyRecord env place index record recs).2 = !env.faults place := by
  unfold copyRecord
  cases env.faults place <;> rfl

theorem markLast_ok (aborted : Bool) (info : GetfsmapInfo) :
    (markLast env aborted info).2 =
      !(!aborted && info.giIdx != 0 && env.faults (.flags (info.giIdx - 1))) := by
  unfold markLast
  by_cases marks : (!aborted && info.giIdx != 0) = true
  · rw [if_pos marks, marks, Bool.true_and]
    exact copyRecord_ok _ _ _ _
  · rw [if_neg marks, eq_false_of_ne_true marks]
    rfl

theorem finish_reply (user : UserFsmap) (info : GetfsmapInfo) (result : FsmapResult) :
    (finishGetfsmap env user info result).2 =
      if decide (result.error = ext4QueryRangeAbort) = false ∧ result.error ≠ 0 then result.error
      else if (markLast env (decide (result.error = ext4QueryRangeAbort)) info).2 = false then
        Errno.efault.code
      else if env.faults .headWrite = true then Errno.efault.code
      else 0 := by
  unfold finishGetfsmap
  dsimp only
  split
  · rfl
  · split
    · rfl
    · split <;> rfl

/-- The handler that the dispatcher runs gives the same reply. -/
theorem getfsmap_reply {outer : IoctlEnv} {user : UserFsmap}
    (describes : DescribesFsmap outer env user) (kernel : Kernel) :
    (ext4IocGetfsmap outer kernel).2 = (iocGetfsmap env user).2 := by
  obtain ⟨headRead, valid, aborted, walked, entries, flags, headWrite⟩ := describes
  have marked := @markLast_ok _ env (outer.test .fsmapAborted) (infoOf env user)
  rw [← entries, ← flags] at marked
  cases given : env.faults .headRead with
  | true =>
      unfold ext4IocGetfsmap iocGetfsmap
      rw [headRead, given, if_pos rfl, if_pos rfl]
  | false =>
  by_cases invalid : ¬ user.head.Valid
  · unfold ext4IocGetfsmap iocGetfsmap
    rw [headRead, given, if_neg Bool.false_ne_true, if_neg Bool.false_ne_true, if_pos invalid]
    rw [decide_eq_false invalid, Bool.not_false, Bool.or_eq_true] at valid
    rcases valid with reserved | offsets
    · rw [if_pos reserved]
    · rw [if_pos offsets, ite_self]
  · rw [decide_eq_true (not_not.mp invalid), Bool.not_true, Bool.or_eq_false_iff] at valid
    rw [iocGetfsmap_walks given (not_not.mp invalid), finish_reply, ← aborted, marked, ← headWrite]
    unfold ext4IocGetfsmap callExtern
    rw [headRead, given, valid.1, valid.2]
    simp only [Bool.false_eq_true, if_false, Bool.not_eq_false']
    cases ended : outer.test .fsmapAborted with
    | true =>
        simp only [Bool.true_eq_false, Bool.not_true, Bool.false_and, Bool.false_eq_true,
          false_and, if_false]
    | false =>
        rw [ended] at aborted
        rw [walked (of_decide_eq_false aborted.symm)]

/-- No copy of a walk that did not fail has failed. -/
theorem Orderly.copied {user : UserFsmap} (orderly : Orderly env user)
    (good : (resultOf env user).error = ext4QueryRangeAbort ∨ (resultOf env user).error = 0) :
    Run.AtEachCall (Client.move (ext4GetfsmapFormat env)) ⟨user.recs, 0, 0⟩ (mappingsOf env user)
      fun info mapping => (ext4GetfsmapFormat env info mapping).2 = 0 := by
  rcases orderly.relays.answers (ext4GetfsmapFormat env) ⟨user.recs, 0, 0⟩ with each | report
  · intro visited mapping short
    exact not_not.mp (each visited mapping short)
  · obtain ⟨info, mapping, failed, reported⟩ := report
    have code := (format_answer info mapping).resolve_left failed
    rw [code] at reported
    have faulted : Errno.efault.code ≠ ext4QueryRangeAbort ∧ Errno.efault.code ≠ 0 := by decide
    rcases good with aborted | complete
    · exact absurd (reported.symm.trans aborted) faulted.1
    · exact absurd (reported.symm.trans complete) faulted.2

/-- An orderly call never writes behind the array of the user, whatever fails.  If it
succeeds, the array starts with the records of all mappings of the walk in their order, the
last of them with the flag unless the walk was aborted, and the head has its results.
The handler of the dispatcher gives the same reply. -/
theorem space_map_outcome (env : FsmapEnv Mapping) (user : UserFsmap)
    (orderly : Orderly env user) :
    (forall position, user.head.fmhCount.toNat ≤ position ->
      (iocGetfsmap env user).1.recs position = user.recs position) ∧
    ((iocGetfsmap env user).2 = 0 ->
      user.head.Valid ∧
      (iocGetfsmap env user).1.head = { user.head with
        fmhEntries := (resultOf env user).fmhEntries
        fmhOflags := (resultOf env user).fmhOflags } ∧
      (mappingsOf env user).length ≤ user.head.fmhCount.toNat ∧
      forall position, (iocGetfsmap env user).1.recs position =
        match (mappingsOf env user)[position]? with
        | some mapping =>
            record env (decide ((resultOf env user).error = 0) &&
              decide (position + 1 = (mappingsOf env user).length)) mapping
        | none => user.recs position) ∧
    forall outer kernel, DescribesFsmap outer env user ->
      (ext4IocGetfsmap outer kernel).2 = (iocGetfsmap env user).2 := by
  have room := orderly.room
  have small : (mappingsOf env user).length < 2 ^ 32 := room.trans_lt user.head.fmhCount.toNat_lt
  have placed : Placed user.recs (mappingsOf env user) (infoOf env user) :=
    placed_exec user.recs (mappingsOf env user) small
  have replies : forall outer kernel, DescribesFsmap outer env user ->
      (ext4IocGetfsmap outer kernel).2 = (iocGetfsmap env user).2 :=
    fun outer kernel describes => getfsmap_reply describes kernel
  rcases iocGetfsmap_cases env user with ⟨same, refused⟩ | ⟨valid, finished⟩
  · exact ⟨fun position _ => by rw [same], fun success => absurd success refused, replies⟩
  · refine ⟨?_, ?_, replies⟩
    · rw [finished]
      intro position beyond
      have inIndex := placed.index.le.trans (room.trans beyond)
      rcases @finish_recs _ env user _ (resultOf env user) with recs | recs
      · rw [recs, placed.beyond position (room.trans beyond)]
      · rw [recs, markLast_beyond _ inIndex, placed.beyond position (room.trans beyond)]
    · rw [finished]
      intro success
      obtain ⟨good, marked, left⟩ := finish_success success
      have formatted : Formatted env (mappingsOf env user) (infoOf env user) :=
        formatted_exec user.recs (mappingsOf env user) small (orderly.copied good)
      have complete : (!decide ((resultOf env user).error = ext4QueryRangeAbort)) =
          decide ((resultOf env user).error = 0) := by
        rcases good with aborted | done
        · rw [aborted]
          rfl
        · rw [done]
          rfl
      rw [left]
      refine ⟨valid, rfl, room, fun position => ?_⟩
      cases listed : (mappingsOf env user)[position]? with
      | some mapping =>
          rw [← complete]
          exact markLast_written _ placed formatted marked listed
      | none =>
          have beyond := List.getElem?_eq_none_iff.mp listed
          exact (markLast_beyond _ (placed.index.le.trans beyond)).trans
            (placed.beyond position beyond)

/-! ## A walk over a list -/

/-- A walk over known mappings.  It is aborted where the count of the head is reached, and
stops where the formatter fails. -/
def walkList (count : Nat) : Nat -> List Mapping -> Client Mapping Int FsmapResult
  | entries, [] => .done ⟨0, UInt32.ofNat entries, 0⟩
  | entries, mapping :: rest =>
      if count ≤ entries then .done ⟨ext4QueryRangeAbort, UInt32.ofNat entries, 0⟩
      else .ask mapping fun answer =>
        if answer ≠ 0 then .done ⟨answer, UInt32.ofNat entries, 0⟩
        else walkList count (entries + 1) rest

theorem walkList_atMost (count entries : Nat) (mappings : List Mapping) :
    (walkList count entries mappings).AtMost (count - entries) := by
  induction mappings generalizing entries with
  | nil => exact trivial
  | cons mapping rest inductionHypothesis =>
      unfold walkList
      split
      · exact trivial
      · rename_i room
        refine ⟨by omega, fun answer => ?_⟩
        dsimp only
        split
        · exact trivial
        · rw [Nat.sub_sub]
          exact inductionHypothesis (entries + 1)

theorem walkList_relays (count entries : Nat) (mappings : List Mapping) :
    (walkList count entries mappings).Relays (fun answer => answer ≠ 0)
      (fun answer result => result.error = answer) := by
  induction mappings generalizing entries with
  | nil => exact trivial
  | cons mapping rest inductionHypothesis =>
      unfold walkList
      split
      · exact trivial
      · intro answer
        dsimp only
        by_cases failed : answer ≠ 0
        · refine ⟨fun _ => ⟨_, if_pos failed, rfl⟩, ?_⟩
          rw [if_pos failed]
          exact trivial
        · refine ⟨fun impossible => absurd impossible failed, ?_⟩
          rw [if_neg failed]
          exact inductionHypothesis (entries + 1)

def sampleRecord (physical : UInt64) : Fsmap := ⟨0, 0, physical, 0, 0, 4096, []⟩

/-- A volume with two mappings, which the user sees as they are. -/
def sampleFsmapEnv : FsmapEnv Fsmap where
  faults := fun _ => false
  tornRecord := fun old _ => old
  tornHead := fun old _ => old
  fmrFlags := Fsmap.fmrFlags
  fromInternal := id
  toInternal := id
  getfsmap := fun head =>
    walkList head.fmhCount.toNat 0 [sampleRecord 0, sampleRecord 4096]

def sampleUser (count : UInt32) : UserFsmap where
  head := ⟨0, 0, count, 0, [], sampleRecord 0, sampleRecord 0⟩
  recs := fun _ => sampleRecord 77

theorem sample_orderly (count : UInt32) : Orderly sampleFsmapEnv (sampleUser count) :=
  ⟨walkList_atMost count.toNat 0 _, walkList_relays count.toNat 0 _⟩

/-- The second record is flagged as the last in an array for three, and is not written in an
array for one. -/
theorem space_map_outcome_sample :
    (iocGetfsmap sampleFsmapEnv (sampleUser 3)).1.recs 1 =
        { sampleRecord 4096 with fmrFlags := fmrOfLast } ∧
      (iocGetfsmap sampleFsmapEnv (sampleUser 1)).1.recs 1 = sampleRecord 77 := by
  have complete : (iocGetfsmap sampleFsmapEnv (sampleUser 3)).2 = 0 := by decide +kernel
  have written :=
    (space_map_outcome sampleFsmapEnv (sampleUser 3) (sample_orderly 3)).2.1 complete
  have beyond := (space_map_outcome sampleFsmapEnv (sampleUser 1) (sample_orderly 1)).1 1
  exact ⟨(written.2.2.2 1).trans (by decide +kernel), beyond (by decide +kernel)⟩

end

end Format
end Evfs
