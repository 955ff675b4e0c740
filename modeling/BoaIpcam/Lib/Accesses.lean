import Mathlib.Data.List.Basic

/-!
# Accesses to arrays of fixed sizes

A program that reads and writes some arrays leaves a list of accesses, each to an array at an
index that may also be negative. The accesses stay within the arrays when each index is below
the size of its array.
-/
namespace Accesses

/-- An access to an array at an index. -/
structure Access (ρ : Type) where
  /-- The array. -/
  region : ρ
  /-- The index. -/
  index : Int
deriving DecidableEq, Repr

variable {ρ : Type}

/-- The accesses to consecutive cells from the first one on. -/
def span (region : ρ) (count : Nat) : List (Access ρ) :=
  (List.range count).map fun (i : Nat) => ⟨region, (i : Int)⟩

section Sizes

variable (size : ρ → Nat)

/-- An access within its array. -/
def Access.Inside (access : Access ρ) : Prop :=
  0 ≤ access.index ∧ access.index < size access.region

instance (access : Access ρ) : Decidable (access.Inside size) :=
  inferInstanceAs (Decidable (_ ∧ _))

/-- An index that is not negative has only the size as a bound. -/
@[simp] theorem inside_natCast (region : ρ) (index : Nat) :
    Access.Inside size ⟨region, (index : Int)⟩ ↔ index < size region := by
  unfold Access.Inside
  simp

/-- Every access is within its array. -/
def AllInside (accesses : List (Access ρ)) : Prop := ∀ access ∈ accesses, access.Inside size

instance (accesses : List (Access ρ)) : Decidable (AllInside size accesses) :=
  inferInstanceAs (Decidable (∀ access ∈ accesses, access.Inside size))

@[simp] theorem allInside_nil : AllInside size [] := by
  intro access member
  cases member

@[simp] theorem allInside_cons (access : Access ρ) (rest : List (Access ρ)) :
    AllInside size (access :: rest) ↔ access.Inside size ∧ AllInside size rest :=
  List.forall_mem_cons

@[simp] theorem allInside_append (left right : List (Access ρ)) :
    AllInside size (left ++ right) ↔ AllInside size left ∧ AllInside size right :=
  List.forall_mem_append

/-- Consecutive cells are within an array that has as many. -/
@[simp] theorem allInside_span (region : ρ) (count : Nat) :
    AllInside size (span region count) ↔ count ≤ size region := by
  constructor
  · intro inside
    by_contra beyond
    have last := inside ⟨region, (size region : Nat)⟩
      (List.mem_map.mpr ⟨size region, List.mem_range.mpr (by omega), rfl⟩)
    exact absurd last.2 (Int.lt_irrefl _)
  · intro fits access member
    obtain ⟨i, below, rfl⟩ := List.mem_map.mp member
    have bound := List.mem_range.mp below
    exact ⟨Int.natCast_nonneg i, by simp only; omega⟩

end Sizes

end Accesses
