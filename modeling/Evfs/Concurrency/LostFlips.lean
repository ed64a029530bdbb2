import Evfs.Concurrency.SharedRegisters
import Mathlib.Algebra.BigOperators.Pi
import Mathlib.Algebra.Field.ZMod

namespace Evfs
namespace Concurrency

open Foundation Ext4 FreeSpace

/-!
# What racing calls can lose

The free count of a group and each word of its bitmap are registers that the
calls share.  A count is added to modulo its width, and a word is added to bit
by bit modulo two, so both are instances of `SharedRegister`.

For calls on different clusters this gives the exact set of outcomes.  A complete
interleaving leaves any nonempty selection of the updates of a group in its
count, and any nonempty selection of the flips of a word in that word.
-/

section

variable {code : Ext4Code} {geo : Geometry} {n : Nat} {calls : Fin n -> FlipCall}

/-! ## The count of a group -/

/-- The calls in a group. -/
def groupCalls (code : Ext4Code) (calls : Fin n -> FlipCall) (group : Nat) : Finset (Fin n) :=
  Finset.univ.filter fun thread => (calls thread).group code = group

theorem mem_groupCalls {group : Nat} {thread : Fin n} :
    thread ∈ groupCalls code calls group ↔ (calls thread).group code = group := by
  rw [groupCalls, Finset.mem_filter]
  exact and_iff_right (Finset.mem_univ thread)

/-- Where a call is between its load and its store of the count. -/
def countStage (geo : Geometry) :
    Progress -> LostUpdates.Stage (ZMod (2 ^ geo.freeCountBits))
  | .start | .tested _ | .wordRead _ _ | .wordWritten _ => .idle
  | .countRead _ free => .loaded (free.toNat : ZMod (2 ^ geo.freeCountBits))
  | .countWritten _ | .counterAdded | .bitmapSummed | .done => .stored

def countRegister (code : Ext4Code) (geo : Geometry) (calls : Fin n -> FlipCall) (group : Nat) :
    SharedRegister n (ZMod (2 ^ geo.freeCountBits)) where
  members := groupCalls code calls group
  read := fun mem => (mem.freeCount code group : ZMod (2 ^ geo.freeCountBits))
  stageOf := countStage geo

/-- What a call adds to the count of its group. -/
def countDelta (code : Ext4Code) (geo : Geometry) (calls : Fin n -> FlipCall) (mem : Memory)
    (thread : Fin n) : ZMod (2 ^ geo.freeCountBits) :=
  (counterDelta (foundBit code calls mem thread) : ZMod (2 ^ geo.freeCountBits))

/-- The arithmetic of a count wraps at 32 bits, which is a multiple of its width. -/
theorem countAfter_cast (wasSet : Bool) (free : UInt32) :
    ((countAfter wasSet free).toNat : ZMod (2 ^ geo.freeCountBits)) =
      (free.toNat : ZMod (2 ^ geo.freeCountBits)) + (counterDelta wasSet : Int) := by
  have wraps : ((2 ^ 32 : Nat) : ZMod (2 ^ geo.freeCountBits)) = 0 :=
    (ZMod.natCast_eq_zero_iff _ _).mpr (pow_dvd_pow 2 geo.freeCountBits_le)
  have modulo : forall value : Nat, ((value % 2 ^ 32 : Nat) : ZMod (2 ^ geo.freeCountBits)) =
      (value : ZMod (2 ^ geo.freeCountBits)) := by
    intro value
    have split := congrArg (Nat.cast : Nat -> ZMod (2 ^ geo.freeCountBits))
      (Nat.mod_add_div value (2 ^ 32))
    rwa [Nat.cast_add, Nat.cast_mul, wraps, zero_mul, add_zero] at split
  cases wasSet with
  | true =>
      simp only [countAfter, counterDelta, if_true, UInt32.toNat_add, modulo, Nat.cast_add]
      simp
  | false =>
      have borrowed : (2 ^ 32 - (1 : UInt32).toNat + free.toNat : Nat) + 1 =
          2 ^ 32 + free.toNat := by
        have one : (1 : UInt32).toNat = 1 := rfl
        omega
      have split := congrArg (Nat.cast : Nat -> ZMod (2 ^ geo.freeCountBits)) borrowed
      rw [Nat.cast_add, Nat.cast_add (2 ^ 32), wraps, zero_add, Nat.cast_one] at split
      simp only [countAfter, counterDelta, Bool.false_eq_true, if_false, UInt32.toNat_sub, modulo]
      rw [← split]
      simp

/-- A stored count has the value that was set. -/
theorem freeClusters_set_cast (lawful : code.Lawful geo) (desc : GroupDesc) (count : UInt32) :
    ((code.ext4FreeGroupClusters (code.ext4FreeGroupClustersSet desc count)).toNat :
        ZMod (2 ^ geo.freeCountBits)) = (count.toNat : ZMod (2 ^ geo.freeCountBits)) := by
  rw [lawful.free_set]
  exact ZMod.natCast_mod count.toNat (2 ^ geo.freeCountBits)

/-- The count of a call's group after a step: only the store moves it. -/
theorem freeCount_next (lawful : code.Lawful geo) (state : FlipState n) (thread : Fin n) :
    ((flipThreads code calls).next state thread).mem.freeCount code ((calls thread).group code) =
      match state.progress thread with
      | .countRead wasSet free =>
          (code.ext4FreeGroupClusters (code.ext4FreeGroupClustersSet
            (state.mem.desc ((calls thread).group code)) (countAfter wasSet free))).toNat
      | _ => state.mem.freeCount code ((calls thread).group code) := by
  unfold Memory.freeCount
  rw [next_desc]
  cases state.progress thread <;>
    simp only [Function.update_self, lawful.free_bitmapCsum, lawful.free_descCsum]

theorem countRegister_races (lawful : code.Lawful geo) (calls : Fin n -> FlipCall) (mem : Memory)
    (group : Nat) :
    (countRegister code geo calls group).Races code calls mem
      (countDelta code geo calls mem) where
  start := rfl
  done := rfl
  frame := by
    intro state thread outside
    have apart : group ≠ (calls thread).group code :=
      fun same => outside (mem_groupCalls.mpr same.symm)
    simp only [countRegister, Memory.freeCount, desc_next_of_ne apart]
  step := by
    intro state thread remembers member
    have inGroup : (calls thread).group code = group := mem_groupCalls.mp member
    subst inGroup
    have count := @freeCount_next code geo n calls lawful state thread
    have after := @next_progress_self code n calls state thread
    simp only [countRegister]
    rw [count, after]
    cases progress : state.progress thread
    case wordWritten wasSet => exact Or.inr (Or.inl ⟨rfl, rfl, rfl⟩)
    case countRead wasSet free =>
        have found := remembers.tested thread wasSet (by rw [progress]; rfl)
        refine Or.inr (Or.inr ⟨_, rfl, ?_, rfl⟩)
        rw [freeClusters_set_cast lawful, countAfter_cast, countDelta, found]
    all_goals exact Or.inl ⟨rfl, rfl⟩

/-- The exact outcomes of a count.  Complete interleavings of calls on different
clusters leave the count of a group at its first value with the updates of any
selection of the calls of the group that is not empty where the group has calls. -/
theorem racing_count_outcomes (lawful : code.Lawful geo) (distinct : DistinctClusters code calls)
    (mem : Memory) (group : Nat) (count : ZMod (2 ^ geo.freeCountBits)) :
    (exists schedule, Complete code calls mem schedule ∧
      ((runSchedule code calls mem schedule).mem.freeCount code group :
        ZMod (2 ^ geo.freeCountBits)) = count) ↔
    exists kept : Finset (Fin n), kept ⊆ groupCalls code calls group ∧
      (kept = ∅ -> groupCalls code calls group = ∅) ∧
      count = (mem.freeCount code group : ZMod (2 ^ geo.freeCountBits)) +
        kept.sum (countDelta code geo calls mem) :=
  (countRegister_races lawful calls mem group).outcomes distinct count

/-- Two calls in one word of the bitmap of group 0. -/
def sampleNeighbours : Fin 2 -> FlipCall := ![{ blockNumber := 1000 }, { blockNumber := 1001 }]

theorem racing_count_outcomes_sample :
    exists schedule, Complete GdtCsum.volumeCode sampleNeighbours sampleKernel.mem schedule ∧
      ((runSchedule GdtCsum.volumeCode sampleNeighbours sampleKernel.mem schedule).mem.freeCount
          GdtCsum.volumeCode 0 : ZMod (2 ^ GdtCsum.volume.freeCountBits)) =
        (sampleKernel.mem.freeCount GdtCsum.volumeCode 0 :
          ZMod (2 ^ GdtCsum.volume.freeCountBits)) +
        Finset.sum {1} (countDelta GdtCsum.volumeCode GdtCsum.volume sampleNeighbours
          sampleKernel.mem) :=
  (racing_count_outcomes GdtCsum.volumeCode_lawful (by decide) sampleKernel.mem 0 _).mpr
    ⟨{1}, by decide, fun empty => absurd empty (Finset.singleton_ne_empty 1), rfl⟩

/-! ## A word of a bitmap -/

/-- The calls in a word of the bitmap of a group. -/
def wordCalls (code : Ext4Code) (calls : Fin n -> FlipCall) (group index : Nat) :
    Finset (Fin n) :=
  Finset.univ.filter fun thread => (calls thread).group code = group ∧
    (calls thread).offset code / bitsPerLong = index

theorem mem_wordCalls {group index : Nat} {thread : Fin n} :
    thread ∈ wordCalls code calls group index ↔ (calls thread).group code = group ∧
      (calls thread).offset code / bitsPerLong = index := by
  rw [wordCalls, Finset.mem_filter]
  exact and_iff_right (Finset.mem_univ thread)

/-- A bit as a number modulo two. -/
def bitValue (bit : Bool) : ZMod 2 := if bit then 1 else 0

theorem bitValue_inj {first second : Bool} : bitValue first = bitValue second ↔ first = second := by
  cases first <;> cases second <;> decide

theorem bitValue_xor (first second : Bool) :
    bitValue (Bool.xor first second) = bitValue first + bitValue second := by
  cases first <;> cases second <;> decide

def wordValue (word : Nat -> Bool) : Fin bitsPerLong -> ZMod 2 :=
  fun position => bitValue (word position)

/-- Where a call is between its load and its store of the word. -/
def wordStage : Progress -> LostUpdates.Stage (Fin bitsPerLong -> ZMod 2)
  | .start | .tested _ => .idle
  | .wordRead _ word => .loaded (wordValue word)
  | _ => .stored

def wordRegister (code : Ext4Code) (calls : Fin n -> FlipCall) (group index : Nat) :
    SharedRegister n (Fin bitsPerLong -> ZMod 2) where
  members := wordCalls code calls group index
  read := fun mem => wordValue (readWord (mem.bitmap group) index)
  stageOf := wordStage

/-- The place of a cluster in its word. -/
def positionInWord (code : Ext4Code) (calls : Fin n -> FlipCall) (thread : Fin n) :
    Fin bitsPerLong :=
  ⟨(calls thread).offset code % bitsPerLong, Nat.mod_lt _ (by decide)⟩

/-- A flip adds one to its own bit. -/
def wordDelta (code : Ext4Code) (calls : Fin n -> FlipCall) (thread : Fin n) :
    Fin bitsPerLong -> ZMod 2 :=
  Pi.single (positionInWord code calls thread) 1

theorem wordValue_update {word : Nat -> Bool} {position : Fin bitsPerLong} {wasSet : Bool}
    (found : word position = wasSet) :
    wordValue (Function.update word position (!wasSet)) =
      wordValue word + Pi.single position 1 := by
  funext other
  rw [Pi.add_apply]
  unfold wordValue
  by_cases same : other = position
  · subst same
    rw [Function.update_self, Pi.single_eq_same, found, ← Bool.xor_true, bitValue_xor]
    rfl
  · have apart : (other : Nat) ≠ position := fun equal => same (Fin.ext equal)
    rw [Function.update_of_ne apart, Pi.single_eq_of_ne same, add_zero]

/-- Writing a word changes that word and no other. -/
theorem readWord_writeWord (bits : Bitmap) (index other : Nat) (word : Nat -> Bool)
    (position : Fin bitsPerLong) :
    readWord (writeWord bits other word) index position =
      if index = other then word position else readWord bits index position := by
  have split : index * bitsPerLong + position = position + bitsPerLong * index := by
    rw [Nat.mul_comm, Nat.add_comm]
  have quotient : (index * bitsPerLong + position) / bitsPerLong = index := by
    rw [split, Nat.add_mul_div_left _ _ (by decide), Nat.div_eq_of_lt position.isLt, Nat.zero_add]
  have remainder : (index * bitsPerLong + position) % bitsPerLong = position := by
    rw [split, Nat.add_mul_mod_self_left, Nat.mod_eq_of_lt position.isLt]
  simp only [readWord, writeWord, quotient, remainder]

theorem wordRegister_races (code : Ext4Code) (calls : Fin n -> FlipCall) (mem : Memory)
    (group index : Nat) :
    (wordRegister code calls group index).Races code calls mem (wordDelta code calls) where
  start := rfl
  done := rfl
  frame := by
    intro state thread outside
    simp only [wordRegister]
    rw [next_bitmap]
    cases state.progress thread with
    | wordRead wasSet word =>
        by_cases shared : group = (calls thread).group code
        · subst shared
          have apart : index ≠ (calls thread).offset code / bitsPerLong :=
            fun same => outside (mem_wordCalls.mpr ⟨rfl, same.symm⟩)
          dsimp only
          rw [Function.update_self]
          funext position
          simp only [wordValue, readWord_writeWord, if_neg apart]
        · dsimp only
          rw [Function.update_of_ne shared]
    | _ => rfl
  step := by
    intro state thread remembers member
    rcases mem_wordCalls.mp member with ⟨inGroup, inWord⟩
    subst inGroup
    subst inWord
    have bitmap := @next_bitmap code n calls state thread
    have after := @next_progress_self code n calls state thread
    simp only [wordRegister]
    rw [bitmap, after]
    cases progress : state.progress thread
    case tested wasSet => exact Or.inr (Or.inl ⟨rfl, rfl, rfl⟩)
    case wordRead wasSet word =>
        -- the word that was read has the bit that was found
        have small : (state.progress thread).rank ≤ 2 := by
          rw [progress]
          exact Nat.le_refl 2
        have inWord := remembers.word thread wasSet word progress thread rfl rfl small
        have found := remembers.tested thread wasSet (by rw [progress]; rfl)
        have flipped := @wordValue_update word (positionInWord code calls thread) wasSet
          (inWord.trans found.symm)
        refine Or.inr (Or.inr ⟨_, rfl, Eq.trans ?_ flipped, rfl⟩)
        funext position
        simp only [wordValue, Function.update_self, readWord_writeWord, if_true]
        rfl
    all_goals exact Or.inl ⟨rfl, rfl⟩

/-- A selection of flips adds up to the set of the places that it names. -/
theorem sum_wordDelta (distinct : DistinctClusters code calls) {group index : Nat}
    {kept : Finset (Fin n)} (selected : kept ⊆ wordCalls code calls group index)
    (position : Fin bitsPerLong) :
    kept.sum (wordDelta code calls) position =
      bitValue (decide (exists thread, thread ∈ kept ∧
        positionInWord code calls thread = position)) := by
  rw [Finset.sum_apply]
  have elsewhere : forall thread, positionInWord code calls thread ≠ position ->
      wordDelta code calls thread position = 0 :=
    fun thread apart => Pi.single_eq_of_ne (Ne.symm apart) 1
  by_cases named : exists thread, thread ∈ kept ∧ positionInWord code calls thread = position
  · rw [decide_eq_true named]
    rcases named with ⟨thread, member, place⟩
    rw [Finset.sum_eq_single thread]
    · rw [← place]
      exact Pi.single_eq_same _ _
    · intro other otherMember different
      apply elsewhere
      intro otherPlace
      rcases mem_wordCalls.mp (selected member) with ⟨inGroup, inWord⟩
      rcases mem_wordCalls.mp (selected otherMember) with ⟨otherGroup, otherWord⟩
      have remainder : (calls other).offset code % bitsPerLong =
          (calls thread).offset code % bitsPerLong :=
        congrArg Fin.val (otherPlace.trans place.symm)
      apply different
      apply distinct other thread (otherGroup.trans inGroup.symm)
      rw [← Nat.div_add_mod' ((calls other).offset code) bitsPerLong, otherWord, remainder,
        ← inWord, Nat.div_add_mod']
    · exact fun absent => absurd member absent
  · rw [decide_eq_false named]
    apply Finset.sum_eq_zero
    intro thread member
    exact elsewhere thread (fun place => named ⟨thread, member, place⟩)

/-- The exact outcomes of a word.  Complete interleavings of calls on different
clusters flip any selection of the calls' bits in a word that is not empty where
the word has calls, and no other bit of it. -/
theorem racing_word_outcomes (distinct : DistinctClusters code calls) (mem : Memory)
    (group index : Nat) (word : Fin bitsPerLong -> Bool) :
    (exists schedule, Complete code calls mem schedule ∧
      forall position : Fin bitsPerLong,
        (runSchedule code calls mem schedule).mem.bitmap group (index * bitsPerLong + position) =
          word position) ↔
    exists kept : Finset (Fin n), kept ⊆ wordCalls code calls group index ∧
      (kept = ∅ -> wordCalls code calls group index = ∅) ∧
      forall position : Fin bitsPerLong, word position =
        Bool.xor (mem.bitmap group (index * bitsPerLong + position))
          (decide (exists thread, thread ∈ kept ∧
            (calls thread).offset code % bitsPerLong = position)) := by
  have outcomes := (wordRegister_races code calls mem group index).outcomes distinct
    (fun position => bitValue (word position))
  have reads : forall mem : Memory,
      (wordRegister code calls group index).read mem = (fun position => bitValue (word position)) ↔
        forall position : Fin bitsPerLong,
          mem.bitmap group (index * bitsPerLong + position) = word position := by
    intro mem
    rw [funext_iff]
    exact forall_congr' fun _ => bitValue_inj
  have named : forall (kept : Finset (Fin n)) (position : Fin bitsPerLong),
      (exists thread, thread ∈ kept ∧ positionInWord code calls thread = position) ↔
        exists thread, thread ∈ kept ∧
          (calls thread).offset code % bitsPerLong = position :=
    fun kept position => exists_congr fun thread => and_congr_right' Fin.ext_iff
  simp only [reads] at outcomes
  rw [outcomes]
  apply exists_congr
  intro kept
  apply and_congr_right
  intro selected
  apply and_congr_right'
  rw [funext_iff]
  apply forall_congr'
  intro position
  rw [Pi.add_apply, sum_wordDelta distinct selected, ← decide_eq_decide.mpr (named kept position),
    ← bitValue_inj, bitValue_xor]
  rfl

theorem racing_word_outcomes_sample :
    exists schedule, Complete GdtCsum.volumeCode sampleNeighbours sampleKernel.mem schedule ∧
      forall position : Fin bitsPerLong,
        (runSchedule GdtCsum.volumeCode sampleNeighbours sampleKernel.mem schedule).mem.bitmap 0
            (15 * bitsPerLong + position) =
          Bool.xor (sampleKernel.mem.bitmap 0 (15 * bitsPerLong + position))
            (decide (exists thread, thread ∈ ({1} : Finset (Fin 2)) ∧
              (sampleNeighbours thread).offset GdtCsum.volumeCode % bitsPerLong = position)) :=
  (racing_word_outcomes (by decide) sampleKernel.mem 0 15 _).mpr
    ⟨{1}, by decide, fun empty => absurd empty (Finset.singleton_ne_empty 1), fun _ => rfl⟩

end

end Concurrency
end Evfs
