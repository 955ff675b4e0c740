import Mathlib.Logic.Equiv.Defs
import Mathlib.Logic.Function.Basic

/-!
# Systems of like parts

A system holds what is common and a part for every index. A permutation of the indices renames
the parts; an operation on one part of the renamed system is the renamed operation on the part
that it came from.
-/
namespace BoaIpcam

/-- What is common and the parts. -/
@[ext] structure Whole (ι α γ : Type) where
  common : γ
  part : ι → α

namespace Whole

variable {ι α γ : Type}

/-- The part of an index stands under the index it is renamed to. -/
def rename (σ : Equiv.Perm ι) (whole : Whole ι α γ) : Whole ι α γ :=
  ⟨whole.common, whole.part ∘ σ.symm⟩

/-- Replace a part. -/
def put [DecidableEq ι] (whole : Whole ι α γ) (index : ι) (part : α) : Whole ι α γ :=
  { whole with part := Function.update whole.part index part }

/-- Replace what is common. -/
def share (whole : Whole ι α γ) (common : γ) : Whole ι α γ := { whole with common }

/-- What is common keeps its place. -/
@[simp] theorem rename_common (σ : Equiv.Perm ι) (whole : Whole ι α γ) :
    (whole.rename σ).common = whole.common := rfl

/-- The renamed part. -/
@[simp] theorem rename_part (σ : Equiv.Perm ι) (whole : Whole ι α γ) (index : ι) :
    (whole.rename σ).part (σ index) = whole.part index :=
  congrArg whole.part (σ.symm_apply_apply index)

/-- Renaming after replacing a part. -/
theorem rename_put [DecidableEq ι] (σ : Equiv.Perm ι) (whole : Whole ι α γ) (index : ι)
    (part : α) : (whole.put index part).rename σ = (whole.rename σ).put (σ index) part := by
  refine Whole.ext rfl (funext fun i => ?_)
  show Function.update whole.part index part (σ.symm i) =
    Function.update (whole.part ∘ σ.symm) (σ index) part i
  by_cases same : i = σ index
  · subst same
    rw [σ.symm_apply_apply, Function.update_self, Function.update_self]
  · have other : σ.symm i ≠ index := fun eq => same ((σ.symm_apply_eq).mp eq)
    rw [Function.update_of_ne other, Function.update_of_ne same]
    rfl

/-- Renaming after replacing what is common. -/
@[simp] theorem rename_share (σ : Equiv.Perm ι) (whole : Whole ι α γ) (common : γ) :
    (whole.share common).rename σ = (whole.rename σ).share common := rfl

/-- Renaming loses nothing. -/
theorem rename_injective (σ : Equiv.Perm ι) :
    Function.Injective (rename σ : Whole ι α γ → Whole ι α γ) := by
  intro left right same
  refine Whole.ext (congrArg Whole.common same :) (funext fun i => ?_)
  have parts := congrArg (fun whole : Whole ι α γ => whole.part (σ i)) same
  simpa only [rename_part] using parts

end Whole

end BoaIpcam
