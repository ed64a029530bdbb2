import Evfs.Ext4.FlipThreads
import Evfs.FreeSpace.Accounting
import Mathlib.Data.Fin.VecNotation
import Mathlib.Data.List.FinRange

namespace Evfs
namespace Concurrency

open Foundation Ext4 FreeSpace

/-!
# Concurrent flips

Calls in different groups share nothing but the counter, to which they only
add.  Their steps commute, so every interleaving has the result of a serial
execution.

Two calls in one group can lose an update.  When the first is suspended between
reading the count and writing it back, and the second runs meanwhile, the
count moves once instead of twice.  Its parity is then wrong for every
serial order, whatever the memory was and whatever other calls run.  So calls
are serializable under every schedule exactly when their groups differ.
-/

section

variable (code : Ext4Code) {geo : Geometry} {n : Nat} (calls : Fin n -> FlipCall)

/-- The memory after the calls have run one after another. -/
def serialMemory (order : List (Fin n)) (mem : Memory) : Memory :=
  order.foldl (fun mem thread =>
    flipMemory code ((calls thread).group code) ((calls thread).offset code) mem) mem

/-- The state after a schedule, with all calls unstarted before it. -/
def runSchedule (mem : Memory) (schedule : List (Fin n)) : FlipState n :=
  Run.exec (flipThreads code calls).next (FlipState.initial n mem) schedule

/-- Every call has finished. -/
def Complete (mem : Memory) (schedule : List (Fin n)) : Prop :=
  forall thread, (runSchedule code calls mem schedule).progress thread = .done

/-- Bitmaps, descriptors and counter are those of some serial order. -/
def Serializable (mem final : Memory) : Prop :=
  exists order : List (Fin n), order.Perm (List.finRange n) ∧
    final.bitmap = (serialMemory code calls order mem).bitmap ∧
    final.desc = (serialMemory code calls order mem).desc ∧
    final.freeclustersCounter = (serialMemory code calls order mem).freeclustersCounter

variable {code calls}

/-! ## Serial schedules -/

/-- Calls that run one after another, each to its end. -/
theorem exec_serial {order : List (Fin n)} (distinct : order.Nodup) {steps : Fin n -> Nat}
    (enough : forall thread, thread ∈ order -> 8 ≤ steps thread) (state : FlipState n)
    (unstarted : forall thread, thread ∈ order -> state.progress thread = .start) :
    (Run.exec (flipThreads code calls).next state (Interleaving.Threads.serial steps order)).mem =
        serialMemory code calls order state.mem ∧
      forall thread,
        (Run.exec (flipThreads code calls).next state
          (Interleaving.Threads.serial steps order)).progress thread =
            if thread ∈ order then .done else state.progress thread := by
  induction order generalizing state with
  | nil => exact ⟨rfl, fun _ => rfl⟩
  | cons first order inductionHypothesis =>
      have parts := List.nodup_cons.mp distinct
      rw [Interleaving.Threads.serial_cons, Run.exec_append,
        exec_alone (unstarted first List.mem_cons_self) (enough first List.mem_cons_self)]
      have others : forall thread, thread ∈ order ->
          (state.flipped code calls first).progress thread = .start := by
        intro thread member
        have different : thread ≠ first := fun same => parts.1 (same ▸ member)
        exact (Function.update_of_ne different _ _).trans
          (unstarted thread (List.mem_cons_of_mem first member))
      have later := inductionHypothesis parts.2
        (fun thread member => enough thread (List.mem_cons_of_mem first member))
        (state.flipped code calls first) others
      refine ⟨later.1, ?_⟩
      intro thread
      rw [later.2 thread]
      by_cases same : thread = first
      · subst same
        simp only [FlipState.flipped, if_neg parts.1, Function.update_self, List.mem_cons_self,
          if_true]
      · simp only [FlipState.flipped, Function.update_of_ne same, List.mem_cons, same, false_or]

/-- A complete schedule gives every call at least its eight steps. -/
theorem eight_le_count {mem : Memory} {schedule : List (Fin n)}
    (complete : Complete code calls mem schedule) (thread : Fin n) :
    8 ≤ schedule.count thread := by
  have bound := @rank_exec_le code n calls (FlipState.initial n mem) schedule thread
  have finished : (Run.exec (flipThreads code calls).next (FlipState.initial n mem)
      schedule).progress thread = .done := complete thread
  rw [finished] at bound
  simpa only [FlipState.initial, Progress.rank, Nat.zero_add] using bound

/-- Calls in different groups: every complete schedule has the result of the
serial order of their numbers. -/
theorem serializable_of_apart
    (apart : forall first second : Fin n,
      (calls first).group code = (calls second).group code -> first = second)
    {mem : Memory} {schedule : List (Fin n)} (complete : Complete code calls mem schedule) :
    Serializable code calls mem (runSchedule code calls mem schedule).mem := by
  have commute : forall (first second : Fin n) (state : FlipState n),
      (flipThreads code calls).next ((flipThreads code calls).next state first) second =
        (flipThreads code calls).next ((flipThreads code calls).next state second) first := by
    intro first second state
    by_cases same : first = second
    · rw [same]
    · exact next_comm (Ne.symm same) (fun equal => same (apart second first equal).symm) state
  have listed : forall thread, thread ∈ schedule -> thread ∈ List.finRange n :=
    fun thread _ => List.mem_finRange thread
  have serial := Interleaving.Threads.exec_eq_serial (flipThreads code calls) commute
    (List.nodup_finRange n) listed (FlipState.initial n mem)
  have final := @exec_serial code n calls _ (List.nodup_finRange n) _
    (fun thread _ => eight_le_count complete thread) (FlipState.initial n mem) (fun _ _ => rfl)
  rw [← serial] at final
  refine ⟨List.finRange n, List.Perm.refl _, ?_, ?_, ?_⟩
  · exact congrArg Memory.bitmap final.1
  · exact congrArg Memory.desc final.1
  · exact congrArg Memory.freeclustersCounter final.1

/-! ## A lost update -/

/-- The calls other than two. -/
def bystanders (first second : Fin n) : List (Fin n) :=
  ((List.finRange n).erase first).erase second

/-- The first call stops before it writes the count back, the second runs to
its end, and the first finishes. -/
def race (first second : Fin n) : List (Fin n) :=
  List.replicate 4 first ++ (List.replicate 8 second ++ List.replicate 4 first)

/-- All other calls run, one after another, and then two race. -/
def racingSchedule (first second : Fin n) : List (Fin n) :=
  Interleaving.Threads.serial (fun _ => 8) (bystanders first second) ++ race first second

theorem bystanders_nodup (first second : Fin n) : (bystanders first second).Nodup :=
  ((List.nodup_finRange n).erase first).erase second

theorem mem_bystanders (first second thread : Fin n) :
    thread ∈ bystanders first second ↔ thread ≠ second ∧ thread ≠ first := by
  unfold bystanders
  rw [((List.nodup_finRange n).erase first).mem_erase_iff,
    (List.nodup_finRange n).mem_erase_iff]
  simp only [List.mem_finRange, and_true]

theorem bystanders_perm {first second : Fin n} (different : second ≠ first) :
    (List.finRange n).Perm (first :: second :: bystanders first second) := by
  have member : second ∈ (List.finRange n).erase first :=
    (List.mem_erase_of_ne different).mpr (List.mem_finRange second)
  exact (List.perm_cons_erase (List.mem_finRange first)).trans
    ((List.perm_cons_erase member).cons first)

/-- Two racing calls finish, and the count of the first one's group is one off
what that call had read before the second ran. -/
theorem exec_race (lawful : code.Lawful geo) (calls : Fin n -> FlipCall)
    {first second : Fin n} (different : second ≠ first) {state : FlipState n}
    (firstUnstarted : state.progress first = .start)
    (secondUnstarted : state.progress second = .start) :
    (Run.exec (flipThreads code calls).next state (race first second)).progress =
        Function.update (Function.update state.progress second .done) first .done ∧
      (Run.exec (flipThreads code calls).next state
          (race first second)).mem.freeCount code ((calls first).group code) % 2 =
        (state.mem.freeCount code ((calls first).group code) + 1) % 2 := by
  -- the first call has read the count
  obtain ⟨paused, pausedEq⟩ : exists paused, paused =
      Run.exec (flipThreads code calls).next state (List.replicate 4 first) := ⟨_, rfl⟩
  have pausedProgress : paused.progress = Function.update state.progress first
      (.countRead (state.mem.bitmap ((calls first).group code) ((calls first).offset code))
        (code.ext4FreeGroupClusters (state.mem.desc ((calls first).group code)))) := by
    rw [pausedEq, Interleaving.Threads.exec_replicate]
    simp only [flipThreads, firstUnstarted, flipMicroStep_first]
  have waiting : paused.progress second = .start := by
    rw [pausedProgress, Function.update_of_ne different, secondUnstarted]
  -- the second call runs alone, and then the first writes back what it had read
  have finished : Run.exec (flipThreads code calls).next state (race first second) =
      Run.exec (flipThreads code calls).next (paused.flipped code calls second)
        (List.replicate 4 first) := by
    unfold race
    rw [Run.exec_append, Run.exec_append, ← pausedEq, exec_alone waiting (Nat.le_refl 8)]
  have resumed : (paused.flipped code calls second).progress first =
      .countRead (state.mem.bitmap ((calls first).group code) ((calls first).offset code))
        (code.ext4FreeGroupClusters (state.mem.desc ((calls first).group code))) := by
    unfold FlipState.flipped
    simp only [Function.update_of_ne different.symm, pausedProgress, Function.update_self]
  rw [finished, Interleaving.Threads.exec_replicate]
  constructor
  · simp only [flipThreads, resumed, flipMicroStep_last]
    rw [FlipState.flipped, pausedProgress, Function.update_comm different.symm,
      Function.update_idem]
  · simp only [flipThreads, resumed, flipMicroStep_last, Memory.freeCount, Function.update_self]
    exact storedCount_parity lawful _ _ _ _ _

/-- Serial executions move the parity of a group's count once for each call in it. -/
theorem freeCount_serial_parity (lawful : code.Lawful geo) (calls : Fin n -> FlipCall)
    (order : List (Fin n)) (mem : Memory) (group : Nat) :
    (serialMemory code calls order mem).freeCount code group % 2 =
      (mem.freeCount code group +
        order.countP fun thread => decide ((calls thread).group code = group)) % 2 := by
  induction order generalizing mem with
  | nil => rfl
  | cons first order inductionHypothesis =>
      have later := inductionHypothesis
        (flipMemory code ((calls first).group code) ((calls first).offset code) mem)
      have split : serialMemory code calls (first :: order) mem = serialMemory code calls order
          (flipMemory code ((calls first).group code) ((calls first).offset code) mem) := rfl
      rw [split, later, List.countP_cons]
      by_cases same : (calls first).group code = group
      · have moved := freeCount_flipMemory_parity lawful mem ((calls first).group code)
          ((calls first).offset code)
        rw [same] at moved ⊢
        simp only [decide_true, if_true]
        omega
      · rw [freeCount_flipMemory_of_ne _ (Ne.symm same)]
        simp only [same, decide_false, Bool.false_eq_true, if_false, Nat.add_zero]

/-- The racing schedule completes, and the count of the first call's group is
one off what the bystanders alone leave. -/
theorem runSchedule_racing (lawful : code.Lawful geo) (calls : Fin n -> FlipCall)
    {first second : Fin n} (different : second ≠ first) (mem : Memory) :
    Complete code calls mem (racingSchedule first second) ∧
      (runSchedule code calls mem (racingSchedule first second)).mem.freeCount code
          ((calls first).group code) % 2 =
        ((serialMemory code calls (bystanders first second) mem).freeCount code
          ((calls first).group code) + 1) % 2 := by
  have before := @exec_serial code n calls _ (bystanders_nodup first second) (fun _ => 8)
    (fun _ _ => Nat.le_refl 8) (FlipState.initial n mem) (fun _ _ => rfl)
  have split : runSchedule code calls mem (racingSchedule first second) =
      Run.exec (flipThreads code calls).next
        (Run.exec (flipThreads code calls).next (FlipState.initial n mem)
          (Interleaving.Threads.serial (fun _ => 8) (bystanders first second)))
        (race first second) := Run.exec_append _ _ _
  have unstarted : forall thread, ¬ (thread ≠ second ∧ thread ≠ first) ->
      (Run.exec (flipThreads code calls).next (FlipState.initial n mem)
        (Interleaving.Threads.serial (fun _ => 8) (bystanders first second))).progress thread =
          .start := by
    intro thread racing
    rw [before.2 thread, if_neg (fun member => racing ((mem_bystanders _ _ _).mp member))]
    rfl
  have after := exec_race lawful calls different
    (unstarted first fun both => both.2 rfl) (unstarted second fun both => both.1 rfl)
  rw [← split, before.1, show (FlipState.initial n mem).mem = mem from rfl] at after
  refine ⟨?_, after.2⟩
  intro thread
  rw [after.1]
  by_cases isFirst : thread = first
  · rw [isFirst, Function.update_self]
  rw [Function.update_of_ne isFirst]
  by_cases isSecond : thread = second
  · rw [isSecond, Function.update_self]
  rw [Function.update_of_ne isSecond, before.2 thread,
    if_pos ((mem_bystanders _ _ _).mpr ⟨isSecond, isFirst⟩)]

/-- Racing calls of one group are not serializable.  Every serial order runs both
of them, so it leaves the count with the parity that the bystanders leave. -/
theorem racing_not_serializable (lawful : code.Lawful geo) (calls : Fin n -> FlipCall)
    {first second : Fin n} (different : second ≠ first)
    (shared : (calls second).group code = (calls first).group code) (mem : Memory) :
    ¬ Serializable code calls mem
      (runSchedule code calls mem (racingSchedule first second)).mem := by
  rintro ⟨order, permutation, _, descs, _⟩
  have raced := (runSchedule_racing lawful calls different mem).2
  have serial := freeCount_serial_parity lawful calls order mem ((calls first).group code)
  have others := freeCount_serial_parity lawful calls (bystanders first second) mem
    ((calls first).group code)
  have same : (runSchedule code calls mem (racingSchedule first second)).mem.freeCount code
        ((calls first).group code) =
      (serialMemory code calls order mem).freeCount code ((calls first).group code) := by
    unfold Memory.freeCount
    rw [descs]
  rw [(permutation.trans (bystanders_perm different)).countP_eq, List.countP_cons,
    List.countP_cons, shared] at serial
  simp only [decide_true, if_true] at serial
  rw [same] at raced
  omega

/-- Every complete schedule of the calls is serializable if and only if no two
of them are in one group. -/
theorem flips_serializable_iff (lawful : code.Lawful geo) (calls : Fin n -> FlipCall)
    (mem : Memory) :
    (forall schedule, Complete code calls mem schedule ->
      Serializable code calls mem (runSchedule code calls mem schedule).mem) ↔
    forall first second : Fin n,
      (calls first).group code = (calls second).group code -> first = second := by
  constructor
  · intro serializable first second shared
    refine Decidable.byContradiction fun different => ?_
    have complete := (runSchedule_racing lawful calls (Ne.symm different) mem).1
    exact racing_not_serializable lawful calls (Ne.symm different) shared.symm mem
      (serializable (racingSchedule first second) complete)
  · intro apart schedule complete
    exact serializable_of_apart apart complete

/-- One call in each group of the sample volume. -/
def sampleApart : Fin 2 -> FlipCall := ![{ blockNumber := 1000 }, { blockNumber := 39999 }]

theorem flips_serializable_iff_sample :
    (sampleApart 0).group GdtCsum.volumeCode ≠ (sampleApart 1).group GdtCsum.volumeCode ∧
      forall schedule, Complete GdtCsum.volumeCode sampleApart sampleKernel.mem schedule ->
        Serializable GdtCsum.volumeCode sampleApart sampleKernel.mem
          (runSchedule GdtCsum.volumeCode sampleApart sampleKernel.mem schedule).mem :=
  ⟨by decide, (flips_serializable_iff GdtCsum.volumeCode_lawful sampleApart
    sampleKernel.mem).mpr (by decide)⟩

/-- Two calls in group 0. -/
def sampleShared : Fin 2 -> FlipCall := ![{ blockNumber := 1000 }, { blockNumber := 2000 }]

/-- The flip of block 2000 runs between the read and the write of the count
by the flip of block 1000. -/
theorem count_update_lost :
    Complete GdtCsum.volumeCode sampleShared sampleKernel.mem
        [0, 0, 0, 0, 1, 1, 1, 1, 1, 1, 1, 1, 0, 0, 0, 0] ∧
      ¬ Serializable GdtCsum.volumeCode sampleShared sampleKernel.mem
        (runSchedule GdtCsum.volumeCode sampleShared sampleKernel.mem
          [0, 0, 0, 0, 1, 1, 1, 1, 1, 1, 1, 1, 0, 0, 0, 0]).mem :=
  have different : (1 : Fin 2) ≠ 0 := by decide
  ⟨(runSchedule_racing GdtCsum.volumeCode_lawful sampleShared different sampleKernel.mem).1,
    racing_not_serializable GdtCsum.volumeCode_lawful sampleShared different (by decide)
      sampleKernel.mem⟩

end

end Concurrency
end Evfs
