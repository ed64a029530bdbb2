import Mathlib.Data.Nat.Notation
import Mathlib.Logic.Function.Basic

namespace Evfs
namespace Foundation

/-!
# Words and fields of stored records

A masked update takes some bits of a word from another word and keeps the rest.
Flag words are changed in this way: a mask says which flags an operation may
touch, and an operation that is composed of several steps has the union of their
masks.  Masked updates are determined by their bits, so every law about them is a
case distinction on one bit of the mask.

A field of a stored record is read and written through two functions.  It may have
less room than its values need, so a value that was written need not be the value
that is read.  What can be asked of such a field is that writing what was read
changes nothing, and that a later write hides an earlier one.  The two laws
determine what a write does: two writes leave the same record exactly if the same
value is read after them.
-/

namespace Masked

variable {width : Nat} (mask first second taken kept other : BitVec width)

/-- The bits of the mask from one word, the others from another. -/
def merge (mask taken kept : BitVec width) : BitVec width := taken &&& mask ||| kept &&& ~~~mask

theorem getElem_merge {position : Nat} (inside : position < width) :
    (merge mask taken kept)[position] =
      if mask[position] = true then taken[position] else kept[position] := by
  simp only [merge, BitVec.getElem_and, BitVec.getElem_or, BitVec.getElem_not]
  cases mask[position] <;> simp

theorem merge_taken : merge mask taken kept &&& mask = taken &&& mask := by
  ext position inside
  rw [BitVec.getElem_and, BitVec.getElem_and, getElem_merge]
  cases mask[position] <;> simp

theorem merge_kept : merge mask taken kept &&& ~~~mask = kept &&& ~~~mask := by
  ext position inside
  rw [BitVec.getElem_and, BitVec.getElem_and, BitVec.getElem_not, getElem_merge]
  cases mask[position] <;> simp

theorem merge_zero : merge 0 taken kept = kept := by
  ext position inside
  simp [getElem_merge]

theorem merge_self : merge mask kept kept = kept := by
  ext position inside
  rw [getElem_merge, ite_self]

/-- What was merged away comes back. -/
theorem merge_merge : merge mask kept (merge mask taken kept) = kept := by
  ext position inside
  rw [getElem_merge, getElem_merge]
  cases mask[position] <;> simp

/-- Two updates from one word are an update under the union of their masks. -/
theorem merge_union :
    merge second taken (merge first taken kept) = merge (first ||| second) taken kept := by
  ext position inside
  rw [getElem_merge, getElem_merge, getElem_merge, BitVec.getElem_or]
  cases first[position] <;> cases second[position] <;> simp

/-- Bits outside the mask do not matter. -/
theorem merge_and : merge mask (taken &&& mask) kept = merge mask taken kept := by
  ext position inside
  rw [getElem_merge, getElem_merge, BitVec.getElem_and]
  cases mask[position] <;> simp

/-- Looking through a window that shows all bits that could be taken. -/
theorem merge_window (whole window : BitVec width) (within : mask &&& ~~~whole = 0)
    (shown : taken &&& whole &&& ~~~window = 0) :
    merge mask (taken &&& whole) kept &&& window = merge mask taken (kept &&& window) := by
  ext position inside
  have inWhole : (mask &&& ~~~whole)[position] = false := by simp [within]
  have inWindow : (taken &&& whole &&& ~~~window)[position] = false := by simp [shown]
  simp only [BitVec.getElem_and, BitVec.getElem_not] at inWhole inWindow
  rw [BitVec.getElem_and, getElem_merge, getElem_merge, BitVec.getElem_and, BitVec.getElem_and]
  cases reached : mask[position]
  · simp
  · rw [reached, Bool.true_and, Bool.not_eq_false'] at inWhole
    rw [inWhole, Bool.and_true] at inWindow
    rw [inWhole]
    simpa using inWindow

/-- Merging a part of a word into the word clears what the part leaves out. -/
theorem merge_part (window : BitVec width) :
    merge mask (kept &&& window) kept = kept &&& ~~~(mask &&& ~~~window) := by
  ext position inside
  rw [getElem_merge]
  simp only [BitVec.getElem_and, BitVec.getElem_not]
  cases mask[position] <;> simp

/-- A mask may grow by bits in which the two words agree. -/
theorem merge_agreeing (agree : (taken ^^^ kept) &&& second = 0) :
    merge (first ||| second) taken kept = merge first taken kept := by
  ext position inside
  have bit : ((taken ^^^ kept) &&& second)[position] = false := by simp [agree]
  rw [BitVec.getElem_and, BitVec.getElem_xor] at bit
  rw [getElem_merge, getElem_merge, BitVec.getElem_or]
  cases first[position]
  · cases reached : second[position]
    · simp
    · rw [reached, Bool.and_true] at bit
      simpa using bit
  · simp

/-- What neither word has, an update does not bring. -/
theorem merge_absent (takenHasNone : taken &&& other = 0) (keptHasNone : kept &&& other = 0) :
    merge mask taken kept &&& other = 0 := by
  ext position inside
  have inTaken : (taken &&& other)[position] = false := by simp [takenHasNone]
  have inKept : (kept &&& other)[position] = false := by simp [keptHasNone]
  rw [BitVec.getElem_and] at inTaken inKept
  rw [BitVec.getElem_and, getElem_merge]
  split
  · simpa using inTaken
  · simpa using inKept

/-- An update decides a word that its mask covers. -/
theorem merge_covered (covered : other &&& ~~~mask = 0) :
    merge mask taken kept &&& other = taken &&& other := by
  ext position inside
  have inMask : (other &&& ~~~mask)[position] = false := by simp [covered]
  rw [BitVec.getElem_and, BitVec.getElem_not] at inMask
  rw [BitVec.getElem_and, BitVec.getElem_and, getElem_merge]
  cases reached : mask[position]
  · rw [reached, Bool.not_false, Bool.and_true] at inMask
    rw [inMask, Bool.and_false, Bool.and_false]
  · simp

end Masked

/-! ## Fields with limited room -/

structure StoredField (Stored Value : Type*) where
  get : Stored -> Value
  put : Value -> Stored -> Stored
  put_get : forall stored, put (get stored) stored = stored
  put_put : forall later earlier stored, put later (put earlier stored) = put later stored

namespace StoredField

variable {Stored Value : Type*} (field : StoredField Stored Value)

/-- The value that is read after a write. -/
def settle (value : Value) (stored : Stored) : Value := field.get (field.put value stored)

/-- Writing a value and writing what is then read are the same. -/
theorem put_settle (value : Value) (stored : Stored) :
    field.put (field.settle value stored) stored = field.put value stored := by
  calc
    field.put (field.settle value stored) stored
        = field.put (field.settle value stored) (field.put value stored) :=
      (field.put_put _ _ _).symm
    _ = field.put value stored := field.put_get _

/-- Two writes differ only where they are read differently. -/
theorem put_eq_iff (first second : Value) (stored : Stored) :
    field.put first stored = field.put second stored ↔
      field.settle first stored = field.settle second stored := by
  constructor
  · intro same
    unfold settle
    rw [same]
  · intro same
    rw [← field.put_settle first, same, field.put_settle]

/-- A write changes the record if and only if it changes the value that is read. -/
theorem put_eq_self_iff (value : Value) (stored : Stored) :
    field.put value stored = stored ↔ field.settle value stored = field.get stored := by
  have iff := field.put_eq_iff value (field.get stored) stored
  unfold settle at iff ⊢
  rwa [field.put_get] at iff

end StoredField

end Foundation
end Evfs
