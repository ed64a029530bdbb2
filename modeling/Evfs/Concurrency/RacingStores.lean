import Evfs.Concurrency.Serializability

namespace Evfs
namespace Concurrency

open Foundation Ext4 FreeSpace

/-!
# What racing calls remember

The step function of the calls is resolved here once, by the record that a step
may change.  Later modules use these equations and do not unfold it.

Calls on different clusters can disturb each other in three ways: a word of a
bitmap, a free count and a checksum are all rewritten from earlier reads.  They
cannot disturb what a call has found.  Up to its own store the cluster of a
call keeps the bit that it had before all calls, also in the words that other
calls have read and will write back.
-/

section

variable {code : Ext4Code} {geo : Geometry} {n : Nat} {calls : Fin n -> FlipCall}

/-- No two calls address the same cluster. -/
def DistinctClusters (code : Ext4Code) (calls : Fin n -> FlipCall) : Prop :=
  forall first second : Fin n, (calls first).group code = (calls second).group code ->
    (calls first).offset code = (calls second).offset code -> first = second

instance : Decidable (DistinctClusters code calls) :=
  inferInstanceAs (Decidable (forall first second : Fin n,
    (calls first).group code = (calls second).group code ->
      (calls first).offset code = (calls second).offset code -> first = second))

/-- The bit that a call would find in a memory. -/
def foundBit (code : Ext4Code) (calls : Fin n -> FlipCall) (mem : Memory) (thread : Fin n) : Bool :=
  mem.bitmap ((calls thread).group code) ((calls thread).offset code)

/-- The polarity that a call keeps in `was_set` as long as it is needed. -/
def polarity : Progress -> Option Bool
  | .tested wasSet => some wasSet
  | .wordRead wasSet _ => some wasSet
  | .wordWritten wasSet => some wasSet
  | .countRead wasSet _ => some wasSet
  | .countWritten wasSet => some wasSet
  | _ => none

/-! ## One step, by what it changes -/

theorem next_bitmap (state : FlipState n) (thread : Fin n) :
    ((flipThreads code calls).next state thread).mem.bitmap =
      match state.progress thread with
      | .wordRead wasSet word =>
          Function.update state.mem.bitmap ((calls thread).group code)
            (writeWord (state.mem.bitmap ((calls thread).group code))
              ((calls thread).offset code / bitsPerLong)
              (Function.update word ((calls thread).offset code % bitsPerLong) (!wasSet)))
      | _ => state.mem.bitmap := by
  simp only [Interleaving.Threads.next, flipThreads]
  cases state.progress thread <;> simp only [flipMicroStep, Function.update_eq_self]

theorem next_desc (state : FlipState n) (thread : Fin n) :
    ((flipThreads code calls).next state thread).mem.desc =
      match state.progress thread with
      | .countRead wasSet free =>
          Function.update state.mem.desc ((calls thread).group code)
            (code.ext4FreeGroupClustersSet (state.mem.desc ((calls thread).group code))
              (countAfter wasSet free))
      | .counterAdded =>
          Function.update state.mem.desc ((calls thread).group code)
            (code.ext4BlockBitmapCsumSet (state.mem.desc ((calls thread).group code))
              (state.mem.bitmap ((calls thread).group code)))
      | .bitmapSummed =>
          Function.update state.mem.desc ((calls thread).group code)
            (code.ext4GroupDescCsumSet ((calls thread).group code)
              (state.mem.desc ((calls thread).group code)))
      | _ => state.mem.desc := by
  simp only [Interleaving.Threads.next, flipThreads]
  cases state.progress thread <;> simp only [flipMicroStep, Function.update_eq_self]

theorem bitmap_next_of_ne {group : Nat} {thread : Fin n}
    (apart : group ≠ (calls thread).group code) (state : FlipState n) :
    ((flipThreads code calls).next state thread).mem.bitmap group = state.mem.bitmap group := by
  rw [next_bitmap]
  cases state.progress thread <;> simp only [Function.update_of_ne apart]

theorem desc_next_of_ne {group : Nat} {thread : Fin n}
    (apart : group ≠ (calls thread).group code) (state : FlipState n) :
    ((flipThreads code calls).next state thread).mem.desc group = state.mem.desc group := by
  rw [next_desc]
  cases state.progress thread <;> simp only [Function.update_of_ne apart]

theorem next_counter (state : FlipState n) (thread : Fin n) :
    ((flipThreads code calls).next state thread).mem.freeclustersCounter =
      state.mem.freeclustersCounter + (state.progress thread).gain :=
  counter_flipMicroStep _ _ _

theorem next_progress_self (state : FlipState n) (thread : Fin n) :
    ((flipThreads code calls).next state thread).progress thread =
      match state.progress thread with
      | .start => .tested (foundBit code calls state.mem thread)
      | .tested wasSet =>
          .wordRead wasSet (readWord (state.mem.bitmap ((calls thread).group code))
            ((calls thread).offset code / bitsPerLong))
      | .wordRead wasSet _ => .wordWritten wasSet
      | .wordWritten wasSet =>
          .countRead wasSet
            (code.ext4FreeGroupClusters (state.mem.desc ((calls thread).group code)))
      | .countRead wasSet _ => .countWritten wasSet
      | .countWritten _ => .counterAdded
      | .counterAdded => .bitmapSummed
      | .bitmapSummed => .done
      | .done => .done := by
  simp only [Interleaving.Threads.next, flipThreads, Function.update_self]
  cases state.progress thread <;> rfl

theorem next_progress_of_ne {thread other : Fin n} (different : other ≠ thread)
    (state : FlipState n) :
    ((flipThreads code calls).next state thread).progress other = state.progress other :=
  Function.update_of_ne different _ _

/-- No step takes a call back. -/
theorem rank_le_next (state : FlipState n) (thread other : Fin n) :
    (state.progress other).rank ≤
      (((flipThreads code calls).next state thread).progress other).rank := by
  by_cases same : other = thread
  · subst same
    rw [next_progress_self]
    cases state.progress other <;> simp only [Progress.rank] <;> omega
  · rw [next_progress_of_ne same]

/-! ## The invariant -/

theorem readWord_apply (bits : Bitmap) (offset : Nat) :
    readWord bits (offset / bitsPerLong) (offset % bitsPerLong) = bits offset :=
  congrArg bits (Nat.div_add_mod' offset bitsPerLong)

/-- Up to its own store a call's cluster keeps its bit, in the bitmap and in
every word that a call is about to write back. -/
structure Remembers (code : Ext4Code) (calls : Fin n -> FlipCall) (mem : Memory)
    (state : FlipState n) : Prop where
  pending : forall thread, (state.progress thread).rank ≤ 2 ->
    foundBit code calls state.mem thread = foundBit code calls mem thread
  tested : forall thread wasSet, polarity (state.progress thread) = some wasSet ->
    wasSet = foundBit code calls mem thread
  word : forall thread wasSet word, state.progress thread = .wordRead wasSet word ->
    forall other, (calls other).group code = (calls thread).group code ->
      (calls other).offset code / bitsPerLong = (calls thread).offset code / bitsPerLong ->
      (state.progress other).rank ≤ 2 ->
        word ((calls other).offset code % bitsPerLong) = foundBit code calls mem other

theorem Remembers.initial (mem : Memory) :
    Remembers code calls mem (FlipState.initial n mem) where
  pending := fun _ _ => rfl
  tested := by
    intro thread wasSet kept
    cases kept
  word := by
    intro thread wasSet word progress
    cases progress

/-- Another call's store keeps the bits of the calls that have not stored. -/
theorem Remembers.foundBit_next {mem : Memory} {state : FlipState n}
    (remembers : Remembers code calls mem state) (distinct : DistinctClusters code calls)
    {thread other : Fin n} (different : other ≠ thread)
    (unstored : (state.progress other).rank ≤ 2) :
    foundBit code calls ((flipThreads code calls).next state thread).mem other =
      foundBit code calls mem other := by
  have before := remembers.pending other unstored
  unfold foundBit at before ⊢
  rw [next_bitmap]
  cases progress : state.progress thread with
  | wordRead wasSet word =>
      dsimp only
      by_cases shared : (calls other).group code = (calls thread).group code
      · rw [shared, Function.update_self]
        unfold writeWord
        by_cases neighbour : (calls other).offset code / bitsPerLong =
            (calls thread).offset code / bitsPerLong
        · -- the stale word still has the bit of the other cluster
          have apart : (calls other).offset code % bitsPerLong ≠
              (calls thread).offset code % bitsPerLong := by
            intro position
            apply different
            apply distinct other thread shared
            rw [← Nat.div_add_mod' ((calls other).offset code) bitsPerLong, neighbour, position,
              Nat.div_add_mod']
          rw [if_pos neighbour, Function.update_of_ne apart,
            remembers.word thread wasSet word progress other shared neighbour unstored, foundBit,
            shared]
        · rw [if_neg neighbour, ← shared]
          exact before
      · rw [Function.update_of_ne shared]
        exact before
  | _ => exact before

/-- The step lemma. -/
theorem Remembers.next {mem : Memory} {state : FlipState n}
    (remembers : Remembers code calls mem state) (distinct : DistinctClusters code calls)
    (thread : Fin n) :
    Remembers code calls mem ((flipThreads code calls).next state thread) := by
  have earlier : forall other,
      (((flipThreads code calls).next state thread).progress other).rank ≤ 2 ->
        (state.progress other).rank ≤ 2 :=
    fun other small => Nat.le_trans (rank_le_next state thread other) small
  constructor
  · intro other unstored
    by_cases same : other = thread
    · subst same
      have before := remembers.pending other (earlier other unstored)
      unfold foundBit at before ⊢
      rw [next_bitmap]
      rw [next_progress_self] at unstored
      cases progress : state.progress other with
      | wordRead wasSet word =>
          rw [progress] at unstored
          exact absurd unstored (Nat.not_succ_le_self 2)
      | _ => exact before
    · exact remembers.foundBit_next distinct same (earlier other unstored)
  · intro other wasSet kept
    by_cases same : other = thread
    · subst same
      have before := remembers.tested other wasSet
      have found := remembers.pending other
      rw [next_progress_self] at kept
      cases progress : state.progress other <;> rw [progress] at kept before found
      case start =>
          rw [← found (by decide)]
          exact (Option.some.inj kept).symm
      all_goals first
        | exact before kept
        | cases kept
    · rw [next_progress_of_ne same] at kept
      exact remembers.tested other wasSet kept
  · intro reader wasSet word reading other shared neighbour unstored
    by_cases same : reader = thread
    · subst same
      rw [next_progress_self] at reading
      cases progress : state.progress reader <;> rw [progress] at reading
      case tested =>
          -- the word is read now, so the pending bits are in it
          rw [Progress.wordRead.injEq] at reading
          rw [← reading.2, ← neighbour, readWord_apply, ← shared]
          exact remembers.pending other (earlier other unstored)
      all_goals cases reading
    · rw [next_progress_of_ne same] at reading
      exact remembers.word reader wasSet word reading other shared neighbour
        (earlier other unstored)

/-- The run lemma. -/
theorem Remembers.exec {mem : Memory} {state : FlipState n}
    (remembers : Remembers code calls mem state) (distinct : DistinctClusters code calls)
    (schedule : List (Fin n)) :
    Remembers code calls mem (Run.exec (flipThreads code calls).next state schedule) :=
  Run.always_exec (Run.always_of_step (Remembers code calls mem)
    (fun _ thread _ before => before.next distinct thread) remembers schedule
    (fun _ _ => True.intro))

end

end Concurrency
end Evfs
