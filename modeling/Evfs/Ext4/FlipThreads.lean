import Evfs.Ext4.FlipBlockBit
import Evfs.Foundation.Interleaving

namespace Evfs
namespace Ext4

open Foundation

/-!
# The stores of a flip as atomic steps

Between the last `ext4_journal_get_write_access` and the first
`ext4_handle_dirty_metadata` the handler holds no lock.  It reaches the shared
state through `bitmap_bh->b_data`, through the descriptor pointer, and through
the per-CPU counter, in eight steps that are atomic each.  The bit is set and
cleared by rewriting the word that contains it, and the count is written back
from an earlier read.

`flipMicroStep` has these steps, and `flipThreads` runs any number of calls in
any interleaving.  The eight steps of a call that is not disturbed are the
`flipMemory` of the handler.
-/

/-- `BITS_PER_LONG`, the bits of the word that `__set_bit_le` rewrites. -/
def bitsPerLong : Nat := 64

/-- A word of a bitmap, by the positions of its bits. -/
def readWord (bits : Bitmap) (index : Nat) : Nat -> Bool :=
  fun position => bits (index * bitsPerLong + position)

def writeWord (bits : Bitmap) (index : Nat) (word : Nat -> Bool) : Bitmap :=
  fun offset => if offset / bitsPerLong = index then word (offset % bitsPerLong) else bits offset

/-- How far a call is, with the values that it keeps in local variables. -/
inductive Progress where
  | start
  | tested (wasSet : Bool)
  | wordRead (wasSet : Bool) (word : Nat -> Bool)
  | wordWritten (wasSet : Bool)
  | countRead (wasSet : Bool) (free : UInt32)
  | countWritten (wasSet : Bool)
  | counterAdded
  | bitmapSummed
  | done

namespace Progress

/-- The number of steps behind a call. -/
def rank : Progress -> Nat
  | start => 0
  | tested _ => 1
  | wordRead _ _ => 2
  | wordWritten _ => 3
  | countRead _ _ => 4
  | countWritten _ => 5
  | counterAdded => 6
  | bitmapSummed => 7
  | done => 8

/-- What the next step adds to the global counter. -/
def gain : Progress -> Int
  | countWritten wasSet => counterDelta wasSet
  | _ => 0

end Progress

/-- What one call reaches: the two buffers of its group, the counter, and its
own progress. -/
structure FlipView where
  bits : Bitmap
  desc : GroupDesc
  counter : Int
  progress : Progress

variable (code : Ext4Code)

/-- The next atomic step of a call. -/
def flipMicroStep (group offset : Nat) (view : FlipView) : FlipView :=
  match view.progress with
  | .start => { view with progress := .tested (view.bits offset) }
  | .tested wasSet =>
      { view with progress := .wordRead wasSet (readWord view.bits (offset / bitsPerLong)) }
  | .wordRead wasSet word =>
      { view with
        bits := writeWord view.bits (offset / bitsPerLong)
          (Function.update word (offset % bitsPerLong) (!wasSet))
        progress := .wordWritten wasSet }
  | .wordWritten wasSet =>
      { view with progress := .countRead wasSet (code.ext4FreeGroupClusters view.desc) }
  | .countRead wasSet free =>
      { view with
        desc := code.ext4FreeGroupClustersSet view.desc (countAfter wasSet free)
        progress := .countWritten wasSet }
  | .countWritten wasSet =>
      { view with counter := view.counter + counterDelta wasSet, progress := .counterAdded }
  | .counterAdded =>
      { view with
        desc := code.ext4BlockBitmapCsumSet view.desc view.bits
        progress := .bitmapSummed }
  | .bitmapSummed =>
      { view with desc := code.ext4GroupDescCsumSet group view.desc, progress := .done }
  | .done => view

/-- Shared memory and the progress of each call. -/
structure FlipState (n : Nat) where
  mem : Memory
  progress : Fin n -> Progress

/-- Concurrent calls, each of which has been granted write access. -/
def flipThreads {n : Nat} (calls : Fin n -> FlipCall) :
    Interleaving.Threads (FlipState n) (Fin n) FlipView where
  view := fun thread state =>
    { bits := state.mem.bitmap ((calls thread).group code)
      desc := state.mem.desc ((calls thread).group code)
      counter := state.mem.freeclustersCounter
      progress := state.progress thread }
  install := fun thread view state =>
    { mem :=
        { state.mem with
          bitmap := Function.update state.mem.bitmap ((calls thread).group code) view.bits
          desc := Function.update state.mem.desc ((calls thread).group code) view.desc
          freeclustersCounter := view.counter }
      progress := Function.update state.progress thread view.progress }
  step := fun thread => flipMicroStep code ((calls thread).group code) ((calls thread).offset code)
  view_install := by
    intro thread view state
    simp only [Function.update_self]
  install_install := by
    intro thread first second state
    simp only [Function.update_idem]
  install_view := by
    intro thread state
    simp only [Function.update_eq_self]

/-- All calls are about to begin. -/
def FlipState.initial (n : Nat) (mem : Memory) : FlipState n where
  mem := mem
  progress := fun _ => .start

/-- One call has performed all of its stores. -/
def FlipState.flipped {n : Nat} (calls : Fin n -> FlipCall) (state : FlipState n)
    (thread : Fin n) : FlipState n where
  mem := flipMemory code ((calls thread).group code) ((calls thread).offset code) state.mem
  progress := Function.update state.progress thread .done

/-! ## Facts about single steps -/

variable {code}

/-- The word that a call writes back differs in its own bit. -/
theorem writeWord_readWord (bits : Bitmap) (offset : Nat) :
    writeWord bits (offset / bitsPerLong)
        (Function.update (readWord bits (offset / bitsPerLong)) (offset % bitsPerLong)
          (!bits offset)) = toggle bits offset := by
  funext other
  unfold writeWord
  have split := Nat.div_add_mod' other bitsPerLong
  by_cases same : other = offset
  · subst same
    rw [if_pos rfl, Function.update_self, toggle_same]
  · rw [toggle_of_ne bits same]
    by_cases neighbour : other / bitsPerLong = offset / bitsPerLong
    · have apart : other % bitsPerLong ≠ offset % bitsPerLong := by
        intro position
        have whole := Nat.div_add_mod' offset bitsPerLong
        rw [← neighbour, ← position] at whole
        exact same (split.symm.trans whole)
      rw [if_pos neighbour, Function.update_of_ne apart]
      unfold readWord
      rw [← neighbour, split]
    · rw [if_neg neighbour]

/-- The counter is only added to, by an amount that the progress decides. -/
theorem flipMicroStep_counter (group offset : Nat) (view : FlipView) (counter : Int) :
    flipMicroStep code group offset { view with counter := counter } =
      { flipMicroStep code group offset view with counter := counter + view.progress.gain } := by
  rcases view with ⟨bits, desc, old, progress⟩
  cases progress <;> simp only [flipMicroStep, Progress.gain, Int.add_zero]

theorem counter_flipMicroStep (group offset : Nat) (view : FlipView) :
    (flipMicroStep code group offset view).counter = view.counter + view.progress.gain :=
  congrArg FlipView.counter (flipMicroStep_counter group offset view view.counter)

theorem rank_flipMicroStep_le (group offset : Nat) (view : FlipView) :
    (flipMicroStep code group offset view).progress.rank ≤ view.progress.rank + 1 := by
  rcases view with ⟨bits, desc, counter, progress⟩
  cases progress <;> simp only [flipMicroStep, Progress.rank] <;> decide

/-! ## A call that runs alone -/

/-- The first four steps flip the bit and read the count. -/
theorem flipMicroStep_first (group offset : Nat) (bits : Bitmap) (desc : GroupDesc)
    (counter : Int) :
    Nat.iterate (flipMicroStep code group offset) 4 ⟨bits, desc, counter, .start⟩ =
      ⟨toggle bits offset, desc, counter,
        .countRead (bits offset) (code.ext4FreeGroupClusters desc)⟩ := by
  change (⟨writeWord bits (offset / bitsPerLong)
    (Function.update (readWord bits (offset / bitsPerLong)) (offset % bitsPerLong)
      (!bits offset)), desc, counter, _⟩ : FlipView) = _
  rw [writeWord_readWord]
  rfl

/-- The last four write the count back and store the checksums. -/
theorem flipMicroStep_last (group offset : Nat) (bits : Bitmap) (desc : GroupDesc)
    (counter : Int) (wasSet : Bool) (free : UInt32) :
    Nat.iterate (flipMicroStep code group offset) 4 ⟨bits, desc, counter, .countRead wasSet free⟩ =
      ⟨bits, code.updateDesc group (countAfter wasSet free) bits desc,
        counter + counterDelta wasSet, .done⟩ := rfl

/-- All eight, and any number of further steps. -/
theorem flipMicroStep_all (group offset : Nat) (bits : Bitmap) (desc : GroupDesc)
    (counter : Int) {steps : Nat} (enough : 8 ≤ steps) :
    Nat.iterate (flipMicroStep code group offset) steps ⟨bits, desc, counter, .start⟩ =
      ⟨toggle bits offset,
        code.updateDesc group (countAfter (bits offset) (code.ext4FreeGroupClusters desc))
          (toggle bits offset) desc,
        counter + counterDelta (bits offset), .done⟩ := by
  obtain ⟨extra, rfl⟩ := Nat.exists_eq_add_of_le' enough
  rw [Function.iterate_add_apply, show 8 = 4 + 4 from rfl, Function.iterate_add_apply,
    flipMicroStep_first, flipMicroStep_last]
  exact Function.iterate_fixed rfl extra

section Threads

variable {n : Nat} {calls : Fin n -> FlipCall}

/-- A call that runs alone performs the stores of the handler. -/
theorem exec_alone {state : FlipState n} {thread : Fin n}
    (unstarted : state.progress thread = .start) {steps : Nat} (enough : 8 ≤ steps) :
    Run.exec (flipThreads code calls).next state (List.replicate steps thread) =
      state.flipped code calls thread := by
  rw [Interleaving.Threads.exec_replicate]
  simp only [flipThreads, unstarted]
  rw [flipMicroStep_all _ _ _ _ _ enough]
  rfl

theorem step_counter (thread : Fin n) (view : FlipView) (counter : Int) :
    (flipThreads code calls).step thread { view with counter := counter } =
      { (flipThreads code calls).step thread view with
        counter := counter + view.progress.gain } :=
  flipMicroStep_counter _ _ view counter

/-- A step in another group moves only the counter in the view of a call. -/
theorem view_next_of_ne {first second : Fin n} (different : second ≠ first)
    (apart : (calls second).group code ≠ (calls first).group code) (state : FlipState n) :
    (flipThreads code calls).view second ((flipThreads code calls).next state first) =
      { (flipThreads code calls).view second state with
        counter := state.mem.freeclustersCounter + (state.progress first).gain } := by
  have moved := @counter_flipMicroStep code ((calls first).group code)
    ((calls first).offset code) ((flipThreads code calls).view first state)
  unfold Interleaving.Threads.next
  simp only [flipThreads, Function.update_of_ne apart, Function.update_of_ne different] at moved ⊢
  rw [moved]

/-- The steps of two calls in different groups commute. -/
theorem next_comm {first second : Fin n} (different : second ≠ first)
    (apart : (calls second).group code ≠ (calls first).group code) (state : FlipState n) :
    (flipThreads code calls).next ((flipThreads code calls).next state first) second =
      (flipThreads code calls).next ((flipThreads code calls).next state second) first := by
  have unfolded : forall (middle : FlipState n) (thread : Fin n),
      (flipThreads code calls).next middle thread = (flipThreads code calls).install thread
        ((flipThreads code calls).step thread ((flipThreads code calls).view thread middle))
        middle := fun _ _ => rfl
  rw [unfolded _ second, view_next_of_ne different apart, unfolded _ first,
    unfolded (Interleaving.Threads.next _ state second) first,
    view_next_of_ne different.symm apart.symm, unfolded state second,
    step_counter second _ (state.mem.freeclustersCounter + (state.progress first).gain),
    step_counter first _ (state.mem.freeclustersCounter + (state.progress second).gain)]
  simp only [flipThreads, Function.update_comm apart, Function.update_comm different]
  rw [Int.add_right_comm]

/-- A schedule moves a call by at most the number of its steps. -/
theorem rank_exec_le (state : FlipState n) (schedule : List (Fin n)) (thread : Fin n) :
    ((Run.exec (flipThreads code calls).next state schedule).progress thread).rank ≤
      (state.progress thread).rank + schedule.count thread := by
  induction schedule generalizing state with
  | nil => exact Nat.le_refl _
  | cons head rest inductionHypothesis =>
      rw [Run.exec_cons]
      refine Nat.le_trans (inductionHypothesis _) ?_
      rw [List.count_cons]
      by_cases same : head = thread
      · subst same
        have moved := @rank_flipMicroStep_le code ((calls head).group code)
          ((calls head).offset code) ((flipThreads code calls).view head state)
        simp only [Interleaving.Threads.next, flipThreads, Function.update_self, beq_self_eq_true,
          if_true] at moved ⊢
        omega
      · have kept : ((flipThreads code calls).next state head).progress thread =
            state.progress thread := Function.update_of_ne (Ne.symm same) _ _
        rw [kept]
        omega

end Threads

end Ext4
end Evfs
