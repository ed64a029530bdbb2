import Mathlib.Algebra.BigOperators.Group.Finset.Piecewise
import Mathlib.Algebra.Group.Nat.Even
import Mathlib.Data.Finset.Card
import Mathlib.Data.List.Count
import Mathlib.Data.Set.SymmDiff
import Mathlib.Tactic.Linarith

namespace Evfs
namespace Foundation

/-!
# Toggling the cells of a Boolean assignment

A toggle inverts one cell and keeps every other.  Toggles compose by symmetric
difference: after a list of them a cell is inverted exactly when the list
names it an odd number of times, whatever the intermediate values were.  The
result therefore depends only on the multiplicity of each cell.

The second half counts clear cells below a limit.  One toggle moves that count
by one, and the difference of two counts is a difference of two net inversion
counts.  No cell outside the limit is ever inspected by a count.
-/

section Toggle

variable {Cell : Type*} [DecidableEq Cell]

/-- Invert one cell. -/
def toggle (bits : Cell -> Bool) (cell : Cell) : Cell -> Bool :=
  Function.update bits cell (!bits cell)

@[simp] theorem toggle_same (bits : Cell -> Bool) (cell : Cell) :
    toggle bits cell cell = !bits cell := by
  simp only [toggle, Function.update_self]

theorem toggle_of_ne (bits : Cell -> Bool) {cell other : Cell} (different : other ≠ cell) :
    toggle bits cell other = bits other := by
  simp only [toggle, Function.update_of_ne different]

theorem toggle_apply (bits : Cell -> Bool) (cell other : Cell) :
    toggle bits cell other = Bool.xor (bits other) (decide (other = cell)) := by
  by_cases same : other = cell
  · subst same
    rw [toggle_same, decide_eq_true rfl, Bool.xor_true]
  · rw [toggle_of_ne bits same, decide_eq_false same, Bool.xor_false]

theorem toggle_ne_self (bits : Cell -> Bool) (cell : Cell) : toggle bits cell ≠ bits := by
  intro same
  have atCell := congrFun same cell
  rw [toggle_same] at atCell
  exact Bool.not_ne_self (bits cell) atCell

@[simp] theorem toggle_toggle (bits : Cell -> Bool) (cell : Cell) :
    toggle (toggle bits cell) cell = bits := by
  funext other
  rw [toggle_apply, toggle_apply, Bool.xor_assoc, Bool.xor_self, Bool.xor_false]

/-- Toggle the listed cells from left to right. -/
def toggleAll (bits : Cell -> Bool) (cells : List Cell) : Cell -> Bool :=
  cells.foldl toggle bits

/-- Whether a list names a cell an odd number of times. -/
def namedOdd (cells : List Cell) (cell : Cell) : Bool :=
  decide (cells.count cell % 2 = 1)

@[simp] theorem namedOdd_nil (cell : Cell) : namedOdd [] cell = false := rfl

theorem namedOdd_cons (head : Cell) (tail : List Cell) (cell : Cell) :
    namedOdd (head :: tail) cell = Bool.xor (decide (cell = head)) (namedOdd tail cell) := by
  unfold namedOdd
  rw [List.count_cons]
  by_cases same : head = cell
  · subst same
    simp only [beq_self_eq_true, if_true, decide_true, Bool.true_xor]
    rw [← decide_not, decide_eq_decide]
    omega
  · have apart : (head == cell) = false := beq_eq_false_iff_ne.mpr same
    simp only [apart, Bool.false_eq_true, if_false, Nat.add_zero,
      decide_eq_false (Ne.symm same), Bool.false_xor]

theorem namedOdd_of_not_mem {cells : List Cell} {cell : Cell} (absent : cell ∉ cells) :
    namedOdd cells cell = false := by
  unfold namedOdd
  rw [List.count_eq_zero_of_not_mem absent]
  rfl

theorem namedOdd_perm {first second : List Cell} (permutation : first.Perm second) (cell : Cell) :
    namedOdd first cell = namedOdd second cell := by
  unfold namedOdd
  rw [permutation.count_eq]

/-- Intermediate values do not matter: only the parity of the naming does. -/
theorem toggleAll_apply (bits : Cell -> Bool) (cells : List Cell) (cell : Cell) :
    toggleAll bits cells cell = Bool.xor (bits cell) (namedOdd cells cell) := by
  induction cells generalizing bits with
  | nil => rw [namedOdd_nil, Bool.xor_false]; rfl
  | cons head tail inductionHypothesis =>
      have split : toggleAll bits (head :: tail) = toggleAll (toggle bits head) tail := rfl
      rw [split, inductionHypothesis, toggle_apply, namedOdd_cons, Bool.xor_assoc]

/-- The set form: a list of toggles is one symmetric difference. -/
theorem toggleAll_symmDiff (bits : Cell -> Bool) (cells : List Cell) :
    {cell | toggleAll bits cells cell = true} =
      symmDiff {cell | bits cell = true} {cell | namedOdd cells cell = true} := by
  ext cell
  simp only [Set.mem_symmDiff, Set.mem_ofPred_eq, toggleAll_apply]
  cases bits cell <;> cases namedOdd cells cell <;> decide

/-- Toggles that name every cell an even number of times undo each other. -/
theorem toggleAll_of_even (bits : Cell -> Bool) {cells : List Cell}
    (even : forall cell, namedOdd cells cell = false) : toggleAll bits cells = bits := by
  funext cell
  rw [toggleAll_apply, even cell, Bool.xor_false]

/-- The signed number of cells that a list of toggles clears: a cell inverted
on balance counts one when it was set and minus one when it was clear. -/
def netCleared (bits : Cell -> Bool) (cells : List Cell) : Int :=
  cells.toFinset.sum fun cell =>
    if namedOdd cells cell then (if bits cell then 1 else -1) else 0

@[simp] theorem netCleared_nil (bits : Cell -> Bool) : netCleared bits [] = 0 := rfl

/-- The first toggle counts with its own polarity, the others from the
assignment that it leaves.  Both sums range over the cells of the whole list;
the only summands that differ are those of the first cell. -/
theorem netCleared_cons (bits : Cell -> Bool) (head : Cell) (tail : List Cell) :
    netCleared bits (head :: tail) =
      (if bits head then 1 else -1) + netCleared (toggle bits head) tail := by
  have wider : netCleared (toggle bits head) tail =
      (head :: tail).toFinset.sum fun cell =>
        if namedOdd tail cell then (if toggle bits head cell then 1 else -1) else 0 := by
    refine Finset.sum_subset ?_ ?_
    · intro cell member
      rw [List.mem_toFinset] at member ⊢
      exact List.mem_cons_of_mem head member
    · intro cell _ absent
      rw [List.mem_toFinset] at absent
      rw [namedOdd_of_not_mem absent]
      rfl
  have atHead : (head :: tail).toFinset.sum
      (fun cell => if cell = head then (if bits head then (1 : Int) else -1) else 0) =
        if bits head then 1 else -1 := by
    rw [Finset.sum_ite_eq', if_pos (List.mem_toFinset.mpr List.mem_cons_self)]
  rw [wider, ← atHead, ← Finset.sum_add_distrib]
  apply Finset.sum_congr rfl
  intro cell _
  rw [namedOdd_cons]
  by_cases same : cell = head
  · subst same
    rw [toggle_same]
    cases namedOdd tail cell <;> cases bits cell <;> simp
  · rw [toggle_of_ne bits same, if_neg same, decide_eq_false same, Bool.false_xor, Int.zero_add]

end Toggle

/-! ## Counting clear cells -/

/-- The number of clear cells below the limit. -/
def zeros (limit : Nat) (bits : Nat -> Bool) : Nat :=
  ((Finset.range limit).filter fun cell => bits cell = false).card

theorem zeros_le (limit : Nat) (bits : Nat -> Bool) : zeros limit bits ≤ limit := by
  have bound := Finset.card_filter_le (Finset.range limit) (fun cell => bits cell = false)
  rwa [Finset.card_range] at bound

/-- The clear cells after a toggle of a clear cell are the old ones without it. -/
theorem zeros_toggle_clear {limit : Nat} {bits : Nat -> Bool} {cell : Nat}
    (inside : cell < limit) (clear : bits cell = false) :
    zeros limit (toggle bits cell) + 1 = zeros limit bits := by
  have member : cell ∈ (Finset.range limit).filter (fun other => bits other = false) :=
    Finset.mem_filter.mpr ⟨Finset.mem_range.mpr inside, clear⟩
  have removed : (Finset.range limit).filter (fun other => toggle bits cell other = false) =
      ((Finset.range limit).filter (fun other => bits other = false)).erase cell := by
    ext other
    by_cases same : other = cell
    · subst same
      simp [clear]
    · simp [toggle_of_ne bits same, same]
  unfold zeros
  rw [removed, Finset.card_erase_add_one member]

theorem zeros_toggle_set {limit : Nat} {bits : Nat -> Bool} {cell : Nat}
    (inside : cell < limit) (set : bits cell = true) :
    zeros limit (toggle bits cell) = zeros limit bits + 1 := by
  have clear : toggle bits cell cell = false := by rw [toggle_same, set]; rfl
  have undone := zeros_toggle_clear inside clear
  rw [toggle_toggle] at undone
  exact undone.symm

/-- Both polarities at once, as a signed change. -/
theorem zeros_toggle {limit : Nat} {bits : Nat -> Bool} {cell : Nat} (inside : cell < limit) :
    (zeros limit (toggle bits cell) : Int) =
      zeros limit bits + if bits cell then 1 else -1 := by
  cases polarity : bits cell with
  | true =>
      rw [zeros_toggle_set inside polarity]
      simp
  | false =>
      have moved := zeros_toggle_clear inside polarity
      simp only [Bool.false_eq_true, if_false]
      omega

/-- The cells below the limit that went from `old` to its negation. -/
def inverted (limit : Nat) (old : Bool) (before after : Nat -> Bool) : Nat :=
  ((Finset.range limit).filter fun cell => before cell = old ∧ after cell = !old).card

/-- Two counts differ by the net inversions to clear minus those to set.
The cells clear on both sides cancel. -/
theorem zeros_sub_zeros (limit : Nat) (before after : Nat -> Bool) :
    (zeros limit after : Int) - zeros limit before =
      inverted limit true before after - inverted limit false before after := by
  have splitAfter := @Finset.card_filter_add_card_filter_not Nat
    ((Finset.range limit).filter fun cell => after cell = false)
    (fun cell => before cell = true) _ _
  have splitBefore := @Finset.card_filter_add_card_filter_not Nat
    ((Finset.range limit).filter fun cell => before cell = false)
    (fun cell => after cell = true) _ _
  simp only [Finset.filter_filter, Bool.not_eq_true] at splitAfter splitBefore
  have common : ((Finset.range limit).filter fun cell =>
        after cell = false ∧ before cell = false).card =
      ((Finset.range limit).filter fun cell => before cell = false ∧ after cell = false).card := by
    simp only [and_comm]
  have opened : inverted limit true before after =
      ((Finset.range limit).filter fun cell => after cell = false ∧ before cell = true).card := by
    simp only [inverted, Bool.not_true, and_comm]
  have closed : inverted limit false before after =
      ((Finset.range limit).filter fun cell => before cell = false ∧ after cell = true).card := by
    simp only [inverted, Bool.not_false]
  unfold zeros
  omega

end Foundation
end Evfs
