import Mathlib.Data.List.Basic

/-!
# Prefixes up to a condition

A search that takes the items of a list one by one stops when a condition holds of the items taken
so far. What it has taken is the shortest non-empty prefix of which the condition holds, or all.
-/
namespace Prefixes

variable {α : Type}

/-- The items taken before and those of the list, up to the first item with which the condition
holds of all of them. -/
def upTo (stop : List α → Prop) [DecidablePred stop] : List α → List α → List α
  | done, [] => done
  | done, item :: rest =>
    if stop (done ++ [item]) then done ++ [item] else upTo stop (done ++ [item]) rest

variable {stop : List α → Prop} [DecidablePred stop]

/-- What is taken begins with what was taken before. -/
theorem upTo_front (done rest : List α) : ∃ more, upTo stop done rest = done ++ more := by
  induction rest generalizing done with
  | nil => exact ⟨[], (List.append_nil done).symm⟩
  | cons item rest ih =>
    rw [upTo]
    split_ifs with stopped
    · exact ⟨[item], rfl⟩
    · obtain ⟨more, whole⟩ := ih (done ++ [item])
      exact ⟨item :: more, by rw [whole, List.append_assoc, List.singleton_append]⟩

/-- The condition holds of what is taken, or all is taken. -/
theorem upTo_all (done rest : List α) :
    stop (upTo stop done rest) ∨ upTo stop done rest = done ++ rest := by
  induction rest generalizing done with
  | nil => exact .inr (List.append_nil done).symm
  | cons item rest ih =>
    rw [upTo]
    split_ifs with stopped
    · exact .inl stopped
    · have later := ih (done ++ [item])
      rw [List.append_assoc, List.singleton_append] at later
      exact later

/-- What is taken is there. -/
theorem upTo_subset (done rest : List α) : ∀ item ∈ upTo stop done rest, item ∈ done ++ rest := by
  induction rest generalizing done with
  | nil =>
    rw [upTo, List.append_nil]
    exact fun item there => there
  | cons item rest ih =>
    rw [upTo]
    split_ifs with stopped
    · intro other there
      rcases List.mem_append.mp there with before | same
      · exact List.mem_append_left _ before
      · rw [List.mem_singleton.mp same]
        exact List.mem_append_right _ List.mem_cons_self
    · have later := ih (done ++ [item])
      rw [List.append_assoc, List.singleton_append] at later
      exact later

end Prefixes
