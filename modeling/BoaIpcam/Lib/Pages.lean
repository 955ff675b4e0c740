import Mathlib.Data.List.Basic

/-!
# Pages of a list

A list is shown in pages of a fixed size; the first page has the number 1. All pages together show
the list once and in order.
-/
namespace Pages

variable {α β : Type}

/-- The items on a page. The numbers below 1 are those of no page. -/
def page (size : Nat) (number : Int) (items : List α) : List α :=
  if 1 ≤ number then (items.drop ((number.toNat - 1) * size)).take size else []

/-- The number of pages. -/
def count (size length : Nat) : Nat := (length + (size - 1)) / size

/-- The pages with the numbers 1 to `count`, one after the other. -/
theorem flatMap_page (size : Nat) (items : List α) (count : Nat) :
    (List.range count).flatMap (fun n => page size (n + 1 : Nat) items) =
      items.take (count * size) := by
  induction count with
  | zero => simp
  | succ count ih =>
    have last : page size (count + 1 : Nat) items = (items.drop (count * size)).take size := by
      rw [page, if_pos (by omega)]
      rfl
    rw [List.range_succ, List.flatMap_append, ih, List.flatMap_singleton, last, Nat.succ_mul,
      List.take_add]

/-- The pages hold the whole list. -/
theorem le_count_mul {size : Nat} (positive : 0 < size) (length : Nat) :
    length ≤ count size length * size := by
  have cut := Nat.div_add_mod (length + (size - 1)) size
  have rest := Nat.mod_lt (length + (size - 1)) positive
  rw [Nat.mul_comm] at cut
  unfold count
  omega

/-- There is nothing on a page that is not one of them. -/
theorem page_outside {size : Nat} (positive : 0 < size) (items : List α) {number : Int}
    (outside : number < 1 ∨ count size items.length < number) : page size number items = [] := by
  unfold page
  split
  · have last : count size items.length ≤ number.toNat - 1 := by omega
    have whole := le_count_mul positive items.length
    have behind : count size items.length * size ≤ (number.toNat - 1) * size :=
      Nat.mul_le_mul_right size last
    rw [List.drop_eq_nil_of_le (by omega), List.take_nil]
  · rfl

/-- A list of left items has no right ones. -/
theorem filterMap_getRight_inl (items : List α) :
    (items.map (Sum.inl : α → α ⊕ β)).filterMap Sum.getRight? = [] := by
  rw [List.filterMap_map]
  exact List.filterMap_eq_nil_iff.mpr fun _ _ => rfl

/-- A list of right items has only right ones. -/
theorem filterMap_getRight_inr (items : List β) :
    (items.map (Sum.inr : β → α ⊕ β)).filterMap Sum.getRight? = items := by
  rw [List.filterMap_map]
  exact List.filterMap_some

/-- The items of the second of two lists that are on a page of both. -/
theorem page_append_right (size : Nat) (number : Int) (left : List α) (right : List β) :
    (page size number (left.map Sum.inl ++ right.map Sum.inr)).filterMap Sum.getRight? =
      if 1 ≤ number then
        (right.drop ((number.toNat - 1) * size - left.length)).take
          (size - (left.length - (number.toNat - 1) * size))
      else [] := by
  unfold page
  split
  · rw [List.drop_append, List.take_append, List.filterMap_append, ← List.map_drop, ← List.map_take,
      ← List.map_drop, ← List.map_take,
      filterMap_getRight_inl, filterMap_getRight_inr, List.nil_append]
    simp only [List.length_map, List.length_drop]
  · rfl

/-- All pages show the second list once and in order. -/
theorem pages_append_right {size : Nat} (positive : 0 < size) (left : List α) (right : List β) :
    ((List.range (count size (left.length + right.length))).flatMap fun n =>
      (page size (n + 1 : Nat) (left.map Sum.inl ++ right.map Sum.inr)).filterMap
        Sum.getRight?) = right := by
  have all : (left.map Sum.inl ++ right.map (Sum.inr : β → α ⊕ β)).length ≤
      count size (left.length + right.length) * size := by
    rw [List.length_append, List.length_map, List.length_map]
    exact le_count_mul positive _
  rw [← List.filterMap_flatMap, flatMap_page, List.take_of_length_le all, List.filterMap_append,
    filterMap_getRight_inl, filterMap_getRight_inr, List.nil_append]

end Pages
