import Mathlib.Data.List.Basic

/-!
# Lists split at a mark

What the parts of `List.splitOn` hold, and what becomes of the first part when something without
a mark is put in front of the list.
-/
namespace Splits

variable {α : Type} [BEq α] [LawfulBEq α] {mark : α}

/-- The parts hold what the list holds but for the marks. -/
theorem mem_splitOn {list part : List α} (member : part ∈ list.splitOn mark) :
    ∀ item ∈ part, item ∈ list ∧ item ≠ mark := by
  induction list generalizing part with
  | nil =>
    rw [List.splitOn_nil, List.mem_singleton] at member
    subst member
    exact List.forall_mem_nil _
  | cons first rest ih =>
    have deeper : ∀ part ∈ rest.splitOn mark, ∀ item ∈ part,
        item ∈ first :: rest ∧ item ≠ mark := by
      intro part member item inside
      exact ⟨List.mem_cons_of_mem _ (ih member item inside).1, (ih member item inside).2⟩
    rw [List.splitOn_cons_eq_if_modifyHead] at member
    split_ifs at member with here
    · obtain rfl | member := List.mem_cons.mp member
      · exact List.forall_mem_nil _
      · exact deeper part member
    · cases split : rest.splitOn mark with
      | nil => exact absurd split (List.splitOn_ne_nil mark rest)
      | cons head parts =>
        rw [split, List.modifyHead_cons] at member
        obtain rfl | member := List.mem_cons.mp member
        · intro item inside
          obtain rfl | inside := List.mem_cons.mp inside
          · exact ⟨List.mem_cons_self, by simpa using here⟩
          · exact deeper head (split ▸ List.mem_cons_self) item inside
        · exact deeper part (split ▸ List.mem_cons_of_mem _ member)

/-- A list without the mark is put in front of the first part. -/
theorem splitOn_append_of_not_mem {left right first : List α} {rest : List (List α)}
    (plain : mark ∉ left) (parts : right.splitOn mark = first :: rest) :
    (left ++ right).splitOn mark = (left ++ first) :: rest := by
  induction left with
  | nil => exact parts
  | cons item left ih =>
    have apart : (item == mark) = false := by
      rw [beq_eq_false_iff_ne]
      intro same
      exact plain (same ▸ List.mem_cons_self)
    have later := ih fun member => plain (List.mem_cons_of_mem item member)
    rw [List.cons_append, List.splitOn_cons_eq_if_modifyHead, later, apart]
    rfl

end Splits
