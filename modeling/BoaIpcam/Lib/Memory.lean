import Mathlib.Data.List.Basic

/-!
# Bounded writes to a buffer

A buffer is the list of its cells. A write that does not fit the buffer has no result. The copy
goes from the lowest cell to the highest, so it may be made inside one buffer: downwards it
moves the cells as they were before.
-/
namespace Buffer

variable {α : Type}

/-- Write some cells from an offset on. -/
def write (memory : List α) (offset : Nat) (cells : List α) : Option (List α) :=
  if offset + cells.length ≤ memory.length then
    some (memory.take offset ++ cells ++ memory.drop (offset + cells.length))
  else none

/-- Copy some cells, the lowest first, to another place of the same buffer. -/
def copy : Nat → List α → Nat → Nat → Option (List α)
  | 0, memory, _, _ => some memory
  | count + 1, memory, dest, source =>
    match memory[source]? with
    | none => none
    | some cell =>
      if dest < memory.length then copy count (memory.set dest cell) (dest + 1) (source + 1)
      else none

/-- A write that fits replaces the cells at its place. -/
theorem write_front (left rest new : List α) (fits : new.length ≤ rest.length) :
    write (left ++ rest) left.length new = some (left ++ new ++ rest.drop new.length) := by
  have inside : left.length + new.length ≤ (left ++ rest).length := by
    rw [List.length_append]
    omega
  rw [write, if_pos inside, List.take_left, ← List.drop_drop, List.drop_left]

/-- Copying downwards moves the cells as they were. -/
theorem copy_front (left rest : List α) {gap count : Nat} (fits : gap + count ≤ rest.length) :
    copy count (left ++ rest) left.length (left.length + gap) =
      some (left ++ (rest.drop gap).take count ++ rest.drop count) := by
  induction count generalizing left rest with
  | zero => simp [copy]
  | succ count ih =>
    match rest, fits with
    | old :: rest, fits =>
      have inside : gap < (old :: rest).length := by omega
      have below : left.length < (left ++ old :: rest).length := by simp
      have cell : (left ++ old :: rest)[left.length + gap]? = some (old :: rest)[gap] := by
        rw [List.getElem?_append_right (Nat.le_add_right _ _), Nat.add_sub_cancel_left,
          List.getElem?_eq_getElem inside]
      have changed : (left ++ old :: rest).set left.length (old :: rest)[gap] =
          (left ++ [(old :: rest)[gap]]) ++ rest := by simp
      have next := ih (left ++ [(old :: rest)[gap]]) rest (by simp at fits; omega)
      rw [List.length_append, List.length_singleton, Nat.add_right_comm] at next
      rw [copy, cell]
      simp only [if_pos below]
      rw [changed, next, List.drop_eq_getElem_cons inside, List.take_succ_cons]
      simp

end Buffer
