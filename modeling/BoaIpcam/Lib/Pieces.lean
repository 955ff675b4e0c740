import Mathlib.Data.List.Basic

/-!
# Chains of pieces

A text is kept as a chain of pieces, and its front is taken from the chain piece by piece. What was
taken and what is left are the text, however the text was cut into pieces.
-/
namespace Pieces

variable {α : Type}

/-- Take so many items from the front of a chain: what was taken, and the chain that is left. A
piece that was taken to its end is no longer in the chain. -/
def take : Nat → List (List α) → List α × List (List α)
  | _, [] => ([], [])
  | 0, chain => ([], chain)
  | amount, piece :: chain =>
    if amount > piece.length then
      let (taken, left) := take (amount - piece.length) chain
      (piece ++ taken, left)
    else
      (piece.take amount,
        if (piece.drop amount).length = 0 then chain else piece.drop amount :: chain)

/-- Nothing is taken from a chain for nothing. -/
@[simp] theorem take_zero (chain : List (List α)) : take 0 chain = ([], chain) := by
  cases chain <;> rfl

/-- The front that is taken is the front of the text, and the chain keeps the rest. -/
theorem take_flatten (amount : Nat) (chain : List (List α)) :
    (take amount chain).1 = chain.flatten.take amount ∧
      (take amount chain).2.flatten = chain.flatten.drop amount := by
  induction chain generalizing amount with
  | nil => cases amount <;> exact ⟨rfl, rfl⟩
  | cons piece chain ih =>
    cases amount with
    | zero => exact ⟨rfl, rfl⟩
    | succ amount =>
      obtain ⟨taken, left⟩ := ih (amount + 1 - piece.length)
      rw [take, List.flatten_cons, List.take_append, List.drop_append]
      split
      · rw [List.take_of_length_le (by omega), List.drop_eq_nil_of_le (by omega)]
        exact ⟨congrArg (piece ++ ·) taken, left⟩
      · rename_i inside
        have whole : amount + 1 - piece.length = 0 := by omega
        rw [whole, List.take_zero, List.append_nil, List.drop_zero]
        refine ⟨rfl, ?_⟩
        dsimp only
        split
        · rename_i empty
          rw [List.length_eq_zero_iff.mp empty, List.nil_append]
        · rw [List.flatten_cons]
      · exact Nat.succ_ne_zero amount

/-- Taking leaves no longer a chain. -/
theorem take_length_le (amount : Nat) (chain : List (List α)) :
    (take amount chain).2.length ≤ chain.length := by
  induction chain generalizing amount with
  | nil => cases amount <;> exact Nat.le_refl _
  | cons piece chain ih =>
    cases amount with
    | zero => exact Nat.le_refl _
    | succ amount =>
      rw [take]
      split
      · exact Nat.le_succ_of_le (ih _)
      · dsimp only
        split
        · exact Nat.le_succ _
        · exact Nat.le_refl _
      · exact Nat.succ_ne_zero amount

end Pieces
