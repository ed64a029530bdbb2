import Evfs.Concurrency.SharedRegisters

namespace Evfs
namespace Concurrency

open Foundation Ext4 FreeSpace

/-!
# What racing calls cannot lose

A stale store can leave a wrong count or a wrong bitmap, but never a wrong
checksum: whoever stores a part of a descriptor or a bitmap computes the
checksum over it later.  So at every moment of every interleaving a checksum is
either right or owed by a call that is under way, and no checksum failure can
ever reveal a lost update.

The global counter is the only record that is added to atomically.  It loses no
update, but a call decides what to add when it tests its bit.  The counter is
that of a serial order under every interleaving exactly when the clusters of the
calls are distinct.
-/

section

variable {code : Ext4Code} {geo : Geometry} {n : Nat} {calls : Fin n -> FlipCall}

/-! ## Checksums -/

/-- A call owes the checksum of its group's bitmap from the store of the bit on. -/
def owesBitmapCsum : Progress -> Bool
  | .wordWritten _ | .countRead _ _ | .countWritten _ | .counterAdded => true
  | _ => false

/-- A call owes the checksum of its group's descriptor from the store of the count on. -/
def owesDescCsum : Progress -> Bool
  | .countWritten _ | .counterAdded | .bitmapSummed => true
  | _ => false

/-- Some call of the group owes a checksum. -/
def Owed (code : Ext4Code) (calls : Fin n -> FlipCall) (owes : Progress -> Bool)
    (state : FlipState n) (group : Nat) : Prop :=
  exists thread, (calls thread).group code = group ∧ owes (state.progress thread) = true

/-- Every checksum is right, or some call owes it. -/
structure ChecksumsCovered (code : Ext4Code) (geo : Geometry) (calls : Fin n -> FlipCall)
    (state : FlipState n) : Prop where
  bitmap_csum : forall group, group < geo.groupsCount ->
    code.ext4BlockBitmapCsumVerify (state.mem.desc group) (state.mem.bitmap group) = true ∨
      Owed code calls owesBitmapCsum state group
  desc_csum : forall group, group < geo.groupsCount ->
    code.ext4GroupDescCsumVerify group (state.mem.desc group) = true ∨
      Owed code calls owesDescCsum state group

/-- A debt stays when the debtor's step leaves it, or when another call steps. -/
theorem Owed.next {owes : Progress -> Bool} {state : FlipState n} {group : Nat}
    (owed : Owed code calls owes state group) {thread : Fin n}
    (kept : owes (state.progress thread) = true ->
      owes (((flipThreads code calls).next state thread).progress thread) = true) :
    Owed code calls owes ((flipThreads code calls).next state thread) group := by
  rcases owed with ⟨debtor, inGroup, owing⟩
  refine ⟨debtor, inGroup, ?_⟩
  by_cases same : debtor = thread
  · subst same
    exact kept owing
  · rwa [next_progress_of_ne same]

/-- The bitmap checksum in the group of the call that steps. -/
theorem ChecksumsCovered.bitmap_next (lawful : code.Lawful geo) {state : FlipState n}
    {thread : Fin n}
    (before : code.ext4BlockBitmapCsumVerify (state.mem.desc ((calls thread).group code))
        (state.mem.bitmap ((calls thread).group code)) = true ∨
      Owed code calls owesBitmapCsum state ((calls thread).group code)) :
    let after := (flipThreads code calls).next state thread
    code.ext4BlockBitmapCsumVerify (after.mem.desc ((calls thread).group code))
        (after.mem.bitmap ((calls thread).group code)) = true ∨
      Owed code calls owesBitmapCsum after ((calls thread).group code) := by
  have after := @next_progress_self code n calls state thread
  have debt : owesBitmapCsum
        (((flipThreads code calls).next state thread).progress thread) = true ->
      Owed code calls owesBitmapCsum ((flipThreads code calls).next state thread)
        ((calls thread).group code) := fun owes => ⟨thread, rfl, owes⟩
  have carried := fun owed =>
    @Owed.next code n calls owesBitmapCsum state ((calls thread).group code) owed thread
  dsimp only
  rw [next_desc, next_bitmap]
  cases progress : state.progress thread <;> rw [progress] at after carried
  case counterAdded =>
      left
      dsimp only
      rw [Function.update_self]
      exact lawful.bitmapVerify_bitmapCsum _ _
  case bitmapSummed =>
      dsimp only
      rw [Function.update_self, lawful.bitmapVerify_descCsum]
      exact before.imp_right fun owed => carried owed (by rw [after]; exact id)
  case wordRead => exact Or.inr (debt (by rw [after]; rfl))
  case wordWritten => exact Or.inr (debt (by rw [after]; rfl))
  case countRead => exact Or.inr (debt (by rw [after]; rfl))
  case countWritten => exact Or.inr (debt (by rw [after]; rfl))
  all_goals exact before.imp_right fun owed => carried owed (by rw [after]; exact id)

/-- The descriptor checksum in the group of the call that steps. -/
theorem ChecksumsCovered.desc_next (lawful : code.Lawful geo) {state : FlipState n}
    {thread : Fin n}
    (before : code.ext4GroupDescCsumVerify ((calls thread).group code)
        (state.mem.desc ((calls thread).group code)) = true ∨
      Owed code calls owesDescCsum state ((calls thread).group code)) :
    let after := (flipThreads code calls).next state thread
    code.ext4GroupDescCsumVerify ((calls thread).group code)
        (after.mem.desc ((calls thread).group code)) = true ∨
      Owed code calls owesDescCsum after ((calls thread).group code) := by
  have after := @next_progress_self code n calls state thread
  have debt : owesDescCsum
        (((flipThreads code calls).next state thread).progress thread) = true ->
      Owed code calls owesDescCsum ((flipThreads code calls).next state thread)
        ((calls thread).group code) := fun owes => ⟨thread, rfl, owes⟩
  have carried := fun owed =>
    @Owed.next code n calls owesDescCsum state ((calls thread).group code) owed thread
  dsimp only
  rw [next_desc]
  cases progress : state.progress thread <;> rw [progress] at after carried
  case bitmapSummed =>
      left
      dsimp only
      rw [Function.update_self]
      exact lawful.descVerify_descCsum _ _
  case countRead => exact Or.inr (debt (by rw [after]; rfl))
  case countWritten => exact Or.inr (debt (by rw [after]; rfl))
  case counterAdded => exact Or.inr (debt (by rw [after]; rfl))
  all_goals exact before.imp_right fun owed => carried owed (by rw [after]; exact id)

/-- The step lemma. -/
theorem ChecksumsCovered.next (lawful : code.Lawful geo) {state : FlipState n}
    (covered : ChecksumsCovered code geo calls state) (thread : Fin n) :
    ChecksumsCovered code geo calls ((flipThreads code calls).next state thread) := by
  have elsewhere : forall {owes : Progress -> Bool} {group : Nat},
      group ≠ (calls thread).group code -> Owed code calls owes state group ->
        Owed code calls owes ((flipThreads code calls).next state thread) group := by
    rintro owes group apart ⟨debtor, inGroup, owing⟩
    have different : debtor ≠ thread := fun same => apart (same ▸ inGroup.symm)
    exact ⟨debtor, inGroup, by rwa [next_progress_of_ne different]⟩
  constructor
  · intro group inside
    have before := covered.bitmap_csum group inside
    by_cases own : group = (calls thread).group code
    · subst own
      exact ChecksumsCovered.bitmap_next lawful before
    · rw [desc_next_of_ne own, bitmap_next_of_ne own]
      exact before.imp_right (elsewhere own)
  · intro group inside
    have before := covered.desc_csum group inside
    by_cases own : group = (calls thread).group code
    · subst own
      exact ChecksumsCovered.desc_next lawful before
    · rw [desc_next_of_ne own]
      exact before.imp_right (elsewhere own)

/-- At every moment of every interleaving each checksum is right or owed by a
call under way, and where all calls have finished all checksums are right. -/
theorem racing_checksums_always (lawful : code.Lawful geo) (calls : Fin n -> FlipCall)
    {mem : Memory} (valid : mem.ChecksumsMatch code geo) (schedule : List (Fin n)) :
    Run.Always (flipThreads code calls).next (FlipState.initial n mem) schedule
        (ChecksumsCovered code geo calls) ∧
      (Complete code calls mem schedule ->
        (runSchedule code calls mem schedule).mem.ChecksumsMatch code geo) := by
  have initial : ChecksumsCovered code geo calls (FlipState.initial n mem) :=
    ⟨fun group inside => Or.inl (valid.bitmap_csum group inside),
      fun group inside => Or.inl (valid.desc_csum group inside)⟩
  have always : Run.Always (flipThreads code calls).next (FlipState.initial n mem) schedule
      (ChecksumsCovered code geo calls) :=
    Run.always_of_step (ChecksumsCovered code geo calls)
      (fun _ thread (_ : True) covered => covered.next lawful thread) initial schedule
      (fun _ _ => True.intro)
  refine ⟨always, fun complete => ?_⟩
  have covered := Run.always_exec always
  have nothingOwed : forall owes : Progress -> Bool, owes .done = false -> forall group,
      ¬ Owed code calls owes (runSchedule code calls mem schedule) group := by
    rintro owes cleared group ⟨debtor, _, owing⟩
    rw [complete debtor, cleared] at owing
    cases owing
  constructor
  · intro group inside
    exact (covered.bitmap_csum group inside).resolve_right (nothingOwed owesBitmapCsum rfl group)
  · intro group inside
    exact (covered.desc_csum group inside).resolve_right (nothingOwed owesDescCsum rfl group)

theorem racing_checksums_always_sample :
    Run.Always (flipThreads GdtCsum.volumeCode sampleShared).next
        (FlipState.initial 2 sampleKernel.mem) [0, 0, 0, 0, 1, 1, 1, 1, 1, 1, 1, 1, 0, 0, 0, 0]
        (ChecksumsCovered GdtCsum.volumeCode GdtCsum.volume sampleShared) ∧
      (Complete GdtCsum.volumeCode sampleShared sampleKernel.mem
          [0, 0, 0, 0, 1, 1, 1, 1, 1, 1, 1, 1, 0, 0, 0, 0] ->
        (runSchedule GdtCsum.volumeCode sampleShared sampleKernel.mem
          [0, 0, 0, 0, 1, 1, 1, 1, 1, 1, 1, 1, 0, 0, 0, 0]).mem.ChecksumsMatch
            GdtCsum.volumeCode GdtCsum.volume) :=
  racing_checksums_always GdtCsum.volumeCode_lawful sampleShared
    sampleKernel_consistent.checksums _

/-! ## The global counter -/

/-- The calls that have added to the counter. -/
def added (state : FlipState n) : Finset (Fin n) :=
  Finset.univ.filter fun thread => 6 ≤ (state.progress thread).rank

theorem mem_added {state : FlipState n} {thread : Fin n} :
    thread ∈ added state ↔ 6 ≤ (state.progress thread).rank := by
  rw [added, Finset.mem_filter]
  exact and_iff_right (Finset.mem_univ thread)

/-- The counter is the first one with what the calls past their addition have found. -/
def CounterExact (code : Ext4Code) (calls : Fin n -> FlipCall) (mem : Memory)
    (state : FlipState n) : Prop :=
  state.mem.freeclustersCounter = mem.freeclustersCounter +
    (added state).sum fun thread => counterDelta (foundBit code calls mem thread)

theorem added_next (state : FlipState n) (thread : Fin n) :
    added ((flipThreads code calls).next state thread) =
      if (state.progress thread).rank = 5 then insert thread (added state) else added state := by
  ext other
  by_cases same : other = thread
  · subst same
    by_cases finished : state.progress other = .done
    · rw [finished, if_neg (by decide), mem_added, mem_added, next_progress_self, finished]
    · rw [mem_added, SharedRegister.rank_next finished]
      by_cases adding : (state.progress other).rank = 5
      · rw [if_pos adding, Finset.mem_insert]
        exact iff_of_true (by omega) (Or.inl rfl)
      · rw [if_neg adding, mem_added]
        omega
  · rw [mem_added, next_progress_of_ne same, ← mem_added]
    split
    · rw [Finset.mem_insert]
      exact (or_iff_right same).symm
    · rfl

/-- The step lemma. -/
theorem CounterExact.next {mem : Memory} {state : FlipState n}
    (counted : CounterExact code calls mem state) (remembers : Remembers code calls mem state)
    (thread : Fin n) :
    CounterExact code calls mem ((flipThreads code calls).next state thread) := by
  unfold CounterExact at counted ⊢
  rw [next_counter, added_next, counted]
  cases progress : state.progress thread
  case countWritten wasSet =>
      have found := remembers.tested thread wasSet (by rw [progress]; rfl)
      have fresh : thread ∉ added state := by
        rw [mem_added, progress]
        exact Nat.not_succ_le_self 5
      rw [if_pos (show (Progress.countWritten wasSet).rank = 5 from rfl),
        Finset.sum_insert fresh, ← found, Progress.gain]
      omega
  all_goals simp [Progress.rank, Progress.gain]

theorem counterExact_runSchedule (distinct : DistinctClusters code calls) (mem : Memory)
    (schedule : List (Fin n)) :
    CounterExact code calls mem (runSchedule code calls mem schedule) := by
  have initial : CounterExact code calls mem (FlipState.initial n mem) := by
    have none : added (FlipState.initial n mem) = ∅ := by
      apply Finset.eq_empty_of_forall_notMem
      intro thread member
      exact absurd (mem_added.mp member) (Nat.not_succ_le_zero 5)
    rw [CounterExact, none, Finset.sum_empty, Int.add_zero]
    rfl
  have always : Run.Always (flipThreads code calls).next (FlipState.initial n mem) schedule
      (fun state => Remembers code calls mem state ∧ CounterExact code calls mem state) :=
    Run.always_of_step _
      (fun _ thread (_ : True) holds =>
        ⟨holds.1.next distinct thread, holds.2.next holds.1 thread⟩)
      ⟨Remembers.initial mem, initial⟩ schedule (fun _ _ => True.intro)
  exact (Run.always_exec always).2

/-- Calls on distinct clusters all count with the bits before all calls. -/
theorem counter_of_distinct (distinct : DistinctClusters code calls) {mem : Memory}
    {schedule : List (Fin n)} (complete : Complete code calls mem schedule) :
    (runSchedule code calls mem schedule).mem.freeclustersCounter = mem.freeclustersCounter +
      Finset.univ.sum fun thread => counterDelta (foundBit code calls mem thread) := by
  have counted := counterExact_runSchedule distinct mem schedule
  have everyone : added (runSchedule code calls mem schedule) = Finset.univ := by
    apply Finset.eq_univ_of_forall
    intro thread
    rw [mem_added, complete thread]
    decide
  rwa [CounterExact, everyone] at counted

/-- The cluster of a call. -/
def cellOf (code : Ext4Code) (calls : Fin n -> FlipCall) (thread : Fin n) : Nat × Nat :=
  ((calls thread).group code, (calls thread).offset code)

/-- A serial order clears as many clusters as its calls invert on balance. -/
theorem counter_serialMemory (order : List (Fin n)) (mem : Memory) :
    (serialMemory code calls order mem).freeclustersCounter = mem.freeclustersCounter +
      netCleared (usage mem) (order.map (cellOf code calls)) := by
  induction order generalizing mem with
  | nil => exact (Int.add_zero _).symm
  | cons first order inductionHypothesis =>
      have later := inductionHypothesis
        (flipMemory code ((calls first).group code) ((calls first).offset code) mem)
      rw [usage_flipMemory] at later
      rw [List.map_cons, netCleared_cons, ← Int.add_assoc]
      exact later

/-- The order of a serial execution does not matter to the counter. -/
theorem counter_serialMemory_perm {first second : List (Fin n)} (permutation : first.Perm second)
    (mem : Memory) :
    (serialMemory code calls first mem).freeclustersCounter =
      (serialMemory code calls second mem).freeclustersCounter := by
  have cells := permutation.map (cellOf code calls)
  rw [counter_serialMemory, counter_serialMemory, netCleared, netCleared,
    List.toFinset_eq_of_perm _ _ cells]
  simp only [namedOdd_perm cells]

/-- A call that has tested its bit adds what it has found. -/
theorem exec_of_tested {state : FlipState n} {thread : Fin n} {wasSet : Bool}
    (tested : state.progress thread = .tested wasSet) :
    (Run.exec (flipThreads code calls).next state
        (List.replicate 7 thread)).mem.freeclustersCounter =
        state.mem.freeclustersCounter + counterDelta wasSet ∧
      (Run.exec (flipThreads code calls).next state (List.replicate 7 thread)).progress =
        Function.update state.progress thread .done := by
  rw [Interleaving.Threads.exec_replicate]
  simp only [flipThreads, tested]
  exact ⟨rfl, rfl⟩

/-- The two calls test their bits before either of them stores. -/
def doubled (first second : Fin n) : List (Fin n) :=
  [first, second] ++ (List.replicate 7 first ++ List.replicate 7 second)

/-- Testing a bit changes no memory. -/
theorem next_of_start {state : FlipState n} {thread : Fin n}
    (unstarted : state.progress thread = .start) :
    (flipThreads code calls).next state thread =
      { mem := state.mem
        progress := Function.update state.progress thread
          (.tested (foundBit code calls state.mem thread)) } := by
  simp only [Interleaving.Threads.next, flipThreads, unstarted, flipMicroStep,
    Function.update_eq_self]
  rfl

/-- Two calls on one cluster find the same bit. -/
theorem exec_tests {first second : Fin n} (different : second ≠ first) {state : FlipState n}
    (firstUnstarted : state.progress first = .start)
    (secondUnstarted : state.progress second = .start)
    (shared : cellOf code calls second = cellOf code calls first) :
    Run.exec (flipThreads code calls).next state [first, second] =
      { mem := state.mem
        progress := Function.update
          (Function.update state.progress first (.tested (foundBit code calls state.mem first)))
          second (.tested (foundBit code calls state.mem first)) } := by
  have sameBit : foundBit code calls state.mem second = foundBit code calls state.mem first :=
    congrArg (fun cell : Nat × Nat => state.mem.bitmap cell.1 cell.2) shared
  rw [Run.exec_cons, Run.exec_cons, Run.exec_nil, next_of_start firstUnstarted, next_of_start]
  · rw [sameBit]
  · exact (Function.update_of_ne different _ _).trans secondUnstarted

/-- Both calls count with the same polarity. -/
theorem exec_doubled {first second : Fin n} (different : second ≠ first) {state : FlipState n}
    (firstUnstarted : state.progress first = .start)
    (secondUnstarted : state.progress second = .start)
    (shared : cellOf code calls second = cellOf code calls first) :
    (Run.exec (flipThreads code calls).next state
        (doubled first second)).mem.freeclustersCounter =
        state.mem.freeclustersCounter +
          (counterDelta (foundBit code calls state.mem first) +
            counterDelta (foundBit code calls state.mem first)) ∧
      (Run.exec (flipThreads code calls).next state (doubled first second)).progress =
        Function.update (Function.update state.progress first .done) second .done := by
  obtain ⟨wasSet, wasSetEq⟩ : exists wasSet, wasSet = foundBit code calls state.mem first :=
    ⟨_, rfl⟩
  obtain ⟨tested, testedEq⟩ : exists tested, tested =
      Run.exec (flipThreads code calls).next state [first, second] := ⟨_, rfl⟩
  obtain ⟨middle, middleEq⟩ : exists middle, middle =
      Run.exec (flipThreads code calls).next tested (List.replicate 7 first) := ⟨_, rfl⟩
  have split : Run.exec (flipThreads code calls).next state (doubled first second) =
      Run.exec (flipThreads code calls).next middle (List.replicate 7 second) := by
    rw [doubled, Run.exec_append, Run.exec_append, middleEq, testedEq]
  rw [exec_tests different firstUnstarted secondUnstarted shared, ← wasSetEq] at testedEq
  have firstTested : tested.progress first = .tested wasSet := by
    rw [testedEq]
    dsimp only
    rw [Function.update_of_ne different.symm, Function.update_self]
  have firstEnds := @exec_of_tested code n calls tested first wasSet firstTested
  rw [← middleEq] at firstEnds
  have secondTested : middle.progress second = .tested wasSet := by
    rw [firstEnds.2, Function.update_of_ne different, testedEq]
    exact Function.update_self _ _ _
  have secondEnds := @exec_of_tested code n calls middle second wasSet secondTested
  rw [split, ← wasSetEq]
  constructor
  · rw [secondEnds.1, firstEnds.1, testedEq, Int.add_assoc]
  · rw [secondEnds.2, firstEnds.2, testedEq]
    funext thread
    simp only [Function.update_apply]
    by_cases isSecond : thread = second
    · rw [if_pos isSecond, if_pos isSecond]
    · simp only [if_neg isSecond]
      by_cases isFirst : thread = first
      · rw [if_pos isFirst, if_pos isFirst]
      · simp only [if_neg isFirst]

/-- Two calls on one cluster, after all others: the counter is two off every serial order. -/
theorem exists_miscount {first second : Fin n} (different : second ≠ first)
    (shared : cellOf code calls second = cellOf code calls first) (mem : Memory) :
    exists schedule, Complete code calls mem schedule ∧
      forall order : List (Fin n), order.Perm (List.finRange n) ->
        (runSchedule code calls mem schedule).mem.freeclustersCounter ≠
          (serialMemory code calls order mem).freeclustersCounter := by
  have before := @exec_serial code n calls _ (bystanders_nodup first second) (fun _ => 8)
    (fun _ _ => Nat.le_refl 8) (FlipState.initial n mem) (fun _ _ => rfl)
  have unstarted : forall thread, ¬ (thread ≠ second ∧ thread ≠ first) ->
      (Run.exec (flipThreads code calls).next (FlipState.initial n mem)
        (Interleaving.Threads.serial (fun _ => 8) (bystanders first second))).progress thread =
          .start := by
    intro thread racing
    rw [before.2 thread, if_neg (fun member => racing ((mem_bystanders _ _ _).mp member))]
    rfl
  have after := exec_doubled different (unstarted first fun both => both.2 rfl)
    (unstarted second fun both => both.1 rfl) shared
  rw [← Run.exec_append, before.1, show (FlipState.initial n mem).mem = mem from rfl] at after
  refine ⟨Interleaving.Threads.serial (fun _ => 8) (bystanders first second) ++
    doubled first second, ?_, ?_⟩
  · intro thread
    rw [runSchedule, after.2]
    by_cases isSecond : thread = second
    · rw [isSecond, Function.update_self]
    rw [Function.update_of_ne isSecond]
    by_cases isFirst : thread = first
    · rw [isFirst, Function.update_self]
    rw [Function.update_of_ne isFirst, before.2 thread,
      if_pos ((mem_bystanders _ _ _).mpr ⟨isSecond, isFirst⟩)]
  · intro order permutation
    -- a serial order runs the two calls with opposite polarities
    have serial : (serialMemory code calls order mem).freeclustersCounter =
        (serialMemory code calls (bystanders first second) mem).freeclustersCounter := by
      rw [counter_serialMemory_perm (permutation.trans (bystanders_perm different)),
        counter_serialMemory, counter_serialMemory, List.map_cons, List.map_cons, shared,
        netCleared_cons, netCleared_cons, toggle_toggle, toggle_same]
      cases usage mem (cellOf code calls first) <;> simp
    rw [serial, runSchedule, after.1]
    cases foundBit code calls (serialMemory code calls (bystanders first second) mem) first <;>
      simp [counterDelta]

/-- Every complete interleaving leaves the counter of a serial order if and only
if no two calls address the same cluster. -/
theorem racing_counter_iff (code : Ext4Code) (calls : Fin n -> FlipCall) (mem : Memory) :
    (forall schedule, Complete code calls mem schedule ->
      exists order : List (Fin n), order.Perm (List.finRange n) ∧
        (runSchedule code calls mem schedule).mem.freeclustersCounter =
          (serialMemory code calls order mem).freeclustersCounter) ↔
    DistinctClusters code calls := by
  constructor
  · intro serial first second sameGroup sameOffset
    refine Decidable.byContradiction fun different => ?_
    have shared : cellOf code calls second = cellOf code calls first :=
      Prod.ext sameGroup.symm sameOffset.symm
    rcases exists_miscount (Ne.symm different) shared mem with ⟨schedule, complete, miscounts⟩
    rcases serial schedule complete with ⟨order, permutation, counts⟩
    exact miscounts order permutation counts
  · intro distinct schedule complete
    have run := @exec_serial code n calls _ (List.nodup_finRange n) (fun _ => 8)
      (fun _ _ => Nat.le_refl 8) (FlipState.initial n mem) (fun _ _ => rfl)
    have serialComplete : Complete code calls mem (SharedRegister.finishing n) :=
      fun thread => SharedRegister.done_of_enough (SharedRegister.eight_le_count_finishing thread)
    refine ⟨List.finRange n, List.Perm.refl _, ?_⟩
    rw [counter_of_distinct distinct complete, ← counter_of_distinct distinct serialComplete]
    exact congrArg Memory.freeclustersCounter run.1

end

end Concurrency
end Evfs
