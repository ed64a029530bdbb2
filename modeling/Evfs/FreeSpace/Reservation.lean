import Evfs.FreeSpace.AllocationMap

namespace Evfs
namespace FreeSpace

open Foundation Ext4

/-!
# Clusters promised to delayed allocation

A delayed write reserves clusters before it has a place on the disk.
`s_dirtyclusters_counter` counts the reservations, and they can be honoured as
long as `s_freeclusters_counter` is not below it.  Code that claims clusters
is expected to go through `ext4_claim_free_clusters`; the handler moves the
free counter itself and never looks at the reservations.

A call therefore breaks the bound exactly when it marks a free cluster as used
at a moment when every free cluster is promised.  No record has to be right
for this: the bitmaps, the descriptors and the two counters are arbitrary.  The
last section gives the same bound in the starting state alone, by counting the
clusters that a run inverts on balance.
-/

section

variable (code : Ext4Code) (geo : Geometry)

/-- Every reserved cluster is backed by a free one. -/
def ReservationsCovered (mem : Memory) : Prop :=
  mem.dirtyclustersCounter ≤ mem.freeclustersCounter

/-- The call is led to a free cluster while none is unreserved. -/
def TakesPromised (call : FlipCall) (mem : Memory) : Prop :=
  usage mem (call.group code, call.offset code) = false ∧
    mem.freeclustersCounter ≤ mem.dirtyclustersCounter

/-- A call that is led to a promised cluster fails and changes nothing. -/
def SparesPromised (kernel : Kernel) (call : FlipCall) : Prop :=
  TakesPromised code call kernel.mem ->
    (flipBlockBit code geo call kernel).2 ≠ 0 ∧
      (flipStep code geo kernel call).mem = kernel.mem ∧
      (flipStep code geo kernel call).dirtied = kernel.dirtied

/-- The clusters whose bits a list of calls inverts, in their order. -/
def invertedCells (calls : List FlipCall) : List Cell :=
  (calls.filter fun call => decide (call.Granted code geo)).map
    fun call => (call.group code, call.offset code)

variable {code geo}

/-- A flip of a free cluster keeps the bound exactly when there was a margin.
A flip of a used one widens the margin. -/
theorem reservationsCovered_flipMemory_iff {mem : Memory} (covered : ReservationsCovered mem)
    (group offset : Nat) :
    ReservationsCovered (flipMemory code group offset mem) ↔
      ¬ (usage mem (group, offset) = false ∧
        mem.freeclustersCounter ≤ mem.dirtyclustersCounter) := by
  have moved : (flipMemory code group offset mem).freeclustersCounter =
      mem.freeclustersCounter + counterDelta (usage mem (group, offset)) := rfl
  have kept : (flipMemory code group offset mem).dirtyclustersCounter =
      mem.dirtyclustersCounter := rfl
  rw [ReservationsCovered] at covered
  rw [ReservationsCovered, moved, kept]
  cases polarity : usage mem (group, offset) with
  | true =>
      rw [counterDelta, if_pos rfl]
      constructor
      · rintro - ⟨clear, -⟩
        cases clear
      · intro _
        omega
  | false =>
      rw [counterDelta, if_neg Bool.false_ne_true]
      constructor
      · rintro after ⟨-, exhausted⟩
        omega
      · intro apart
        by_contra exceeded
        apply apart
        exact ⟨rfl, by omega⟩

/-- The step of the bound. -/
theorem reservationsCovered_step_iff {kernel : Kernel} (covered : ReservationsCovered kernel.mem)
    (call : FlipCall) :
    ReservationsCovered (flipStep code geo kernel call).mem ↔
      (call.Granted code geo -> ¬ TakesPromised code call kernel.mem) := by
  rw [flipStep_mem_iff code geo ReservationsCovered covered call]
  exact imp_congr_right fun _ => reservationsCovered_flipMemory_iff covered _ _

/-- A call honours the promises exactly when it does not reach its stores at
a promised cluster.  Only a refusal leaves the memory as it was. -/
theorem sparesPromised_iff (kernel : Kernel) (call : FlipCall) :
    SparesPromised code geo kernel call ↔
      (call.Granted code geo -> ¬ TakesPromised code call kernel.mem) := by
  constructor
  · intro spares granted promised
    rcases spares promised with ⟨-, kept, -⟩
    exact bitmap_ne_of_granted granted kernel (congrArg Memory.bitmap kept)
  · intro apart promised
    have refused : ¬ call.Granted code geo := fun granted => apart granted promised
    refine ⟨flipBlockBit_ret_of_refused code geo refused kernel,
      flipStep_mem_of_refused code geo refused kernel, ?_⟩
    rw [flipStep_dirtied, FlipCall.registered, if_neg refused, List.nil_append]

/-- Whole runs on arbitrary blocks with arbitrary failures.  The bound, and the
contract of every single call, hold under the same condition. -/
theorem reservations_covered_iff (kernel : Kernel) (calls : List FlipCall)
    (initial : ReservationsCovered kernel.mem) :
    (Run.Always (flipStep code geo) kernel calls
        (fun state => ReservationsCovered state.mem) ↔
      Run.AtEachCall (flipStep code geo) kernel calls fun state call =>
        call.Granted code geo -> ¬ TakesPromised code call state.mem) ∧
    (Run.AtEachCall (flipStep code geo) kernel calls (SparesPromised code geo) ↔
      Run.AtEachCall (flipStep code geo) kernel calls fun state call =>
        call.Granted code geo -> ¬ TakesPromised code call state.mem) := by
  constructor
  · exact Run.always_iff_atEachCall (fun state : Kernel => ReservationsCovered state.mem)
      (fun _ call covered => reservationsCovered_step_iff covered call) initial calls
  · refine forall_congr' fun visited => forall_congr' fun call => imp_congr_right fun _ => ?_
    exact sparesPromised_iff (Run.exec (flipStep code geo) kernel visited) call

/-- The sample volume with a reservation for every free cluster. -/
def promisedKernel : Kernel :=
  { sampleKernel with
    mem := { sampleKernel.mem with
      dirtyclustersCounter := sampleKernel.mem.freeclustersCounter } }

theorem promisedKernel_promised :
    promisedKernel.mem.dirtyclustersCounter = promisedKernel.mem.freeclustersCounter := rfl

theorem promisedKernel_covered : ReservationsCovered promisedKernel.mem :=
  Int.le_of_eq promisedKernel_promised

/-- A used cluster is freed and taken again while the others stay promised. -/
theorem reservations_covered_iff_sample :
    (Run.Always (flipStep GdtCsum.volumeCode GdtCsum.volume) promisedKernel
        [{ blockNumber := 100 }, { blockNumber := 1000 }]
        (fun state => ReservationsCovered state.mem) ↔
      Run.AtEachCall (flipStep GdtCsum.volumeCode GdtCsum.volume) promisedKernel
        [{ blockNumber := 100 }, { blockNumber := 1000 }] fun state call =>
          call.Granted GdtCsum.volumeCode GdtCsum.volume ->
            ¬ TakesPromised GdtCsum.volumeCode call state.mem) ∧
    (Run.AtEachCall (flipStep GdtCsum.volumeCode GdtCsum.volume) promisedKernel
        [{ blockNumber := 100 }, { blockNumber := 1000 }]
        (SparesPromised GdtCsum.volumeCode GdtCsum.volume) ↔
      Run.AtEachCall (flipStep GdtCsum.volumeCode GdtCsum.volume) promisedKernel
        [{ blockNumber := 100 }, { blockNumber := 1000 }] fun state call =>
          call.Granted GdtCsum.volumeCode GdtCsum.volume ->
            ¬ TakesPromised GdtCsum.volumeCode call state.mem) :=
  reservations_covered_iff promisedKernel _ promisedKernel_covered

/-- One flip of a free block takes a promised cluster and reports success. -/
theorem promised_cluster_taken :
    ReservationsCovered promisedKernel.mem ∧
      (flipBlockBit GdtCsum.volumeCode GdtCsum.volume { blockNumber := 1000 }
        promisedKernel).2 = 0 ∧
      ¬ Run.Always (flipStep GdtCsum.volumeCode GdtCsum.volume) promisedKernel
        [{ blockNumber := 1000 }] (fun state => ReservationsCovered state.mem) := by
  have granted : FlipCall.Granted GdtCsum.volumeCode GdtCsum.volume { blockNumber := 1000 } := by
    decide
  refine ⟨promisedKernel_covered,
    (flipBlockBit_ret_eq_zero_iff _ _ _ _).mpr ⟨granted, rfl⟩, ?_⟩
  intro always
  have after := Run.always_exec always
  rw [Run.exec_cons, Run.exec_nil] at after
  exact (reservationsCovered_step_iff promisedKernel_covered _).mp after granted
    ⟨by decide, Int.le_of_eq promisedKernel_promised.symm⟩

/-! ## The bound in the starting state -/

theorem invertedCells_cons_of_granted {call : FlipCall} (granted : call.Granted code geo)
    (rest : List FlipCall) : invertedCells code geo (call :: rest) =
      (call.group code, call.offset code) :: invertedCells code geo rest := by
  rw [invertedCells, List.filter_cons, if_pos (decide_eq_true granted)]
  rfl

theorem invertedCells_cons_of_refused {call : FlipCall} (refused : ¬ call.Granted code geo)
    (rest : List FlipCall) :
    invertedCells code geo (call :: rest) = invertedCells code geo rest := by
  have dropped : ¬ decide (call.Granted code geo) = true := by rwa [decide_eq_true_iff]
  rw [invertedCells, List.filter_cons, if_neg dropped]
  rfl

/-- The free counter after a run, whatever the records say. -/
theorem exec_freeclustersCounter (kernel : Kernel) (calls : List FlipCall) :
    (Run.exec (flipStep code geo) kernel calls).mem.freeclustersCounter =
      kernel.mem.freeclustersCounter +
        netCleared (usage kernel.mem) (invertedCells code geo calls) := by
  induction calls generalizing kernel with
  | nil =>
      have none : invertedCells code geo [] = [] := rfl
      rw [none, netCleared_nil, Int.add_zero]
      rfl
  | cons call rest inductionHypothesis =>
      rw [Run.exec_cons, inductionHypothesis]
      by_cases granted : call.Granted code geo
      · rw [flipStep_mem_of_granted code geo granted, usage_flipMemory,
          invertedCells_cons_of_granted granted, netCleared_cons, ← Int.add_assoc]
        rfl
      · rw [flipStep_mem_of_refused code geo granted, invertedCells_cons_of_refused granted]

/-- No call changes the number of reservations. -/
theorem exec_dirtyclustersCounter (kernel : Kernel) (calls : List FlipCall) :
    (Run.exec (flipStep code geo) kernel calls).mem.dirtyclustersCounter =
      kernel.mem.dirtyclustersCounter := by
  induction calls generalizing kernel with
  | nil => rfl
  | cons call rest inductionHypothesis =>
      rw [Run.exec_cons, inductionHypothesis]
      exact (flipStep_mem_iff code geo (fun mem : Memory =>
        mem.dirtyclustersCounter = kernel.mem.dirtyclustersCounter) rfl call).mpr fun _ => rfl

/-- The reservations stay covered as long as no part of the run, from its
start, sets more clusters on balance than were unreserved. -/
theorem reservationsCovered_iff_margin (kernel : Kernel) (calls : List FlipCall) :
    Run.Always (flipStep code geo) kernel calls
        (fun state => ReservationsCovered state.mem) ↔
      forall visited, visited <+: calls ->
        kernel.mem.dirtyclustersCounter ≤ kernel.mem.freeclustersCounter +
          netCleared (usage kernel.mem) (invertedCells code geo visited) := by
  refine forall_congr' fun visited => imp_congr_right fun _ => ?_
  rw [← exec_freeclustersCounter, ← exec_dirtyclustersCounter kernel visited]
  exact Iff.rfl

end

end FreeSpace
end Evfs
