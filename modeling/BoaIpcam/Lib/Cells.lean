import Mathlib.Data.List.Basic
import Mathlib.Data.List.GetD
import Mathlib.Data.List.Range

/-!
# Cells of a memory

A memory has a value in every cell. A slice is the list of the cells from one position up to
another; a write replaces the cells from a position on and keeps all others.
-/
namespace BoaIpcam.Cells

variable {α : Type} {memory : ℕ → α} {first mid last place : ℕ} {cells : List α}

/-- The cells from a position up to another. -/
def slice (memory : ℕ → α) (first last : ℕ) : List α :=
  (List.range (last - first)).map fun i => memory (first + i)

/-- Write some cells from a position on. -/
def put (memory : ℕ → α) (place : ℕ) (cells : List α) : ℕ → α := fun i =>
  if place ≤ i then cells.getD (i - place) (memory i) else memory i

@[simp] theorem length_slice : (slice memory first last).length = last - first := by
  simp [slice]

@[simp] theorem slice_self : slice memory first first = [] := by
  simp [slice]

/-- The cell at an offset in a slice. -/
theorem getElem?_slice {offset : ℕ} (inside : first + offset < last) :
    (slice memory first last)[offset]? = some (memory (first + offset)) := by
  have less : offset < last - first := by omega
  simp [slice, less]

/-- Memories that agree on a slice. -/
theorem slice_congr {other : ℕ → α}
    (same : ∀ i, first ≤ i → i < last → memory i = other i) :
    slice memory first last = slice other first last := by
  apply List.map_congr_left
  intro i member
  have less := List.mem_range.mp member
  exact same (first + i) (by omega) (by omega)

/-- Two slices one after the other. -/
theorem slice_append (front : first ≤ mid) (back : mid ≤ last) :
    slice memory first mid ++ slice memory mid last = slice memory first last := by
  have whole : last - first = (mid - first) + (last - mid) := by omega
  rw [slice, slice, slice, whole, List.range_add, List.map_append, List.map_map]
  congr 1
  apply List.map_congr_left
  intro i _
  have sum : first + (mid - first + i) = mid + i := by omega
  rw [Function.comp_apply, sum]

/-- A slice without its front. -/
theorem drop_slice (amount : ℕ) :
    (slice memory first last).drop amount = slice memory (first + amount) last := by
  rcases Nat.lt_or_ge (last - first) amount with many | few
  · rw [List.drop_eq_nil_of_le (by rw [length_slice]; omega)]
    have none : last - (first + amount) = 0 := by omega
    rw [slice, none, List.range_zero, List.map_nil]
  · rcases Nat.lt_or_ge last first with empty | proper
    · have zero : amount = 0 := by omega
      rw [zero, List.drop_zero, Nat.add_zero]
    · have front : (slice memory first (first + amount)).length = amount := by simp
      rw [← slice_append (Nat.le_add_right first amount) (by omega : first + amount ≤ last)]
      exact List.drop_left' front

/-- The front of a slice. -/
theorem take_slice (amount : ℕ) (few : first + amount ≤ last) :
    (slice memory first last).take amount = slice memory first (first + amount) := by
  have front : (slice memory first (first + amount)).length = amount := by simp
  rw [← slice_append (Nat.le_add_right first amount) few]
  exact List.take_left' front

/-- A slice after the cells that were taken of it. -/
theorem slice_after (amount : ℕ) :
    slice memory (first + ((slice memory first last).take amount).length) last =
      (slice memory first last).drop amount := by
  rw [← drop_slice, List.length_take]
  rcases Nat.le_total amount (slice memory first last).length with few | many
  · rw [Nat.min_eq_left few]
  · rw [Nat.min_eq_right many, List.drop_length, List.drop_eq_nil_of_le many]

/-- A slice from its first cell on. -/
theorem slice_cons (some : first < last) :
    slice memory first last = memory first :: slice memory (first + 1) last := by
  have one : slice memory first (first + 1) = [memory first] := by simp [slice]
  rw [← slice_append (Nat.le_succ first) some, one, List.singleton_append]

/-- A cell before a write. -/
theorem put_before {i : ℕ} (before : i < place) : put memory place cells i = memory i := by
  rw [put, if_neg (by omega)]

/-- A cell after a write. -/
theorem put_after {i : ℕ} (after : place + cells.length ≤ i) :
    put memory place cells i = memory i := by
  rw [put]
  split
  · exact List.getD_eq_default _ _ (by omega)
  · rfl

/-- A slice beside a write keeps its cells. -/
theorem slice_put_beside (beside : last ≤ place ∨ place + cells.length ≤ first) :
    slice (put memory place cells) first last = slice memory first last := by
  apply slice_congr
  intro i low high
  rcases beside with before | after
  · exact put_before (by omega)
  · exact put_after (by omega)

/-- What was written is read back. -/
theorem slice_put (memory : ℕ → α) (place : ℕ) (cells : List α) :
    slice (put memory place cells) place (place + cells.length) = cells := by
  apply List.ext_getElem?
  intro i
  rcases Nat.lt_or_ge i cells.length with inside | outside
  · have there : place ≤ place + i := by omega
    rw [getElem?_slice (by omega), put, if_pos there, Nat.add_sub_cancel_left,
      List.getD_eq_getElem _ _ inside, List.getElem?_eq_getElem inside]
  · rw [List.getElem?_eq_none (by rw [length_slice]; omega),
      List.getElem?_eq_none outside]

/-- A slice that ends where a write starts grows by what is written. -/
theorem slice_put_end (proper : first ≤ place) :
    slice (put memory place cells) first (place + cells.length) =
      slice memory first place ++ cells := by
  rw [← slice_append proper (Nat.le_add_right place cells.length),
    slice_put_beside (.inl (Nat.le_refl place)), slice_put]

/-- Two writes one after the other are one. -/
theorem put_put (memory : ℕ → α) (place : ℕ) (front back : List α) :
    put (put memory place front) (place + front.length) back =
      put memory place (front ++ back) := by
  funext i
  rcases Nat.lt_or_ge i place with before | from_place
  · rw [put_before (by omega), put_before before, put_before before]
  rcases Nat.lt_or_ge i (place + front.length) with inside | behind
  · have offset : i - place < front.length := by omega
    rw [put_before inside, put, if_pos from_place, put, if_pos from_place,
      List.getD_append _ _ _ _ offset]
  · have offset : i - place - front.length = i - (place + front.length) := by omega
    rw [put, if_pos behind, put_after behind, put, if_pos from_place,
      List.getD_append_right _ _ _ _ (by omega), offset]

/-- Nothing is written. -/
@[simp] theorem put_nil : put memory place ([] : List α) = memory := by
  funext i
  rw [put]
  split <;> simp

end BoaIpcam.Cells
