import Mathlib.Data.List.Basic
import Mathlib.Logic.Function.Basic

/-!
# Tables and loops

Loops that count through the slots of a table, and tables that are filled from the front: the
first slots hold the items of a list and the slots behind them are free.
-/
namespace Tables

/-- A slot of a table that is counted from 0 after a write to another or the same. -/
theorem update_slot {α : Type} (table : Int → α) (i k : Nat) (value : α) :
    Function.update table i value k = if k = i then value else table k := by
  by_cases here : k = i
  · rw [if_pos here, here, Function.update_self]
  · rw [if_neg here, Function.update_of_ne (by omega)]

/-! ## Counting loops -/

section Loops

variable {σ : Type} {body : Nat → σ → σ}

/-- The loop that runs its body for the numbers from `first` up to `last`, excluding it. -/
def loop (first last : Nat) (body : Nat → σ → σ) (s : σ) : σ :=
  (List.range' first (last - first)).foldl (fun s i => body i s) s

/-- What every round of a loop carries on to the next number holds at the end. -/
theorem loop_inv (inv : Nat → σ → Prop) {first last : Nat} {s : σ} (ordered : first ≤ last)
    (start : inv first s)
    (round : ∀ i s, first ≤ i → i < last → inv i s → inv (i + 1) (body i s)) :
    inv last (loop first last body s) := by
  obtain ⟨count, rfl⟩ := Nat.exists_eq_add_of_le ordered
  rw [loop, Nat.add_sub_cancel_left]
  clear ordered
  induction count generalizing first s with
  | zero => exact start
  | succ count ih =>
    rw [List.range'_succ, List.foldl_cons]
    have next := round first s (Nat.le_refl _) (by omega) start
    have rest := ih next fun i s after before => round i s (by omega) (by omega)
    rwa [Nat.add_assoc, Nat.add_comm 1 count] at rest

/-- What the body keeps holds after the loop. -/
theorem loop_keeps (inv : σ → Prop) {first last : Nat} {s : σ} (start : inv s)
    (round : ∀ i s, first ≤ i → i < last → inv s → inv (body i s)) :
    inv (loop first last body s) := by
  by_cases ordered : first ≤ last
  · exact loop_inv (fun _ => inv) ordered start round
  · rw [loop, Nat.sub_eq_zero_of_le (by omega)]
    exact start

/-- A view of the state in which every round is a round of another loop. -/
theorem loop_view {τ : Type} {other : Nat → τ → τ} (view : σ → τ) (inv : σ → Prop)
    {first last : Nat} {s : σ} (start : inv s)
    (round : ∀ i s, first ≤ i → i < last → inv s →
      inv (body i s) ∧ view (body i s) = other i (view s)) :
    view (loop first last body s) = loop first last other (view s) := by
  unfold loop
  have inside : ∀ i ∈ List.range' first (last - first), first ≤ i ∧ i < last := by
    intro i member
    have bounds := List.mem_range'_1.mp member
    omega
  generalize List.range' first (last - first) = slots at inside
  induction slots generalizing s with
  | nil => rfl
  | cons i slots ih =>
    have here := inside i List.mem_cons_self
    obtain ⟨kept, same⟩ := round i s here.1 here.2 start
    rw [List.foldl_cons, List.foldl_cons, ← same]
    exact ih kept fun j member => inside j (List.mem_cons_of_mem i member)

end Loops

/-! ## Tables that are filled from the front -/

section Filled

variable {α : Type}

/-- The table holds the items of the list in its first slots, and its other slots are free. -/
structure Filled (free : α → Prop) (table : Nat → α) (size : Nat) (items : List α) : Prop where
  /-- The table has room for the items. -/
  fits : items.length ≤ size
  /-- The first slots have the items. -/
  item : ∀ k a, items[k]? = some a → table k = a
  /-- The other slots are free. -/
  rest : ∀ k, items.length ≤ k → k < size → free (table k)

variable {free : α → Prop} {table next : Nat → α} {size : Nat} {items : List α}

/-- Only the slots count. -/
theorem Filled.congr (filled : Filled free table size items)
    (same : ∀ k < size, next k = table k) : Filled free next size items := by
  have fits := filled.fits
  refine ⟨fits, fun k a at_k => ?_, fun k behind inside => ?_⟩
  · have short : k < items.length := (List.getElem?_eq_some_iff.mp at_k).1
    rw [same k (by omega)]
    exact filled.item k a at_k
  · rw [same k inside]
    exact filled.rest k behind inside

/-- An item goes into the first free slot. -/
theorem Filled.append (filled : Filled free table size items) (room : items.length < size) {a : α}
    (new : next items.length = a) (same : ∀ k < size, k ≠ items.length → next k = table k) :
    Filled free next size (items ++ [a]) := by
  have length : (items ++ [a]).length = items.length + 1 := List.length_append
  refine ⟨by omega, fun k b at_k => ?_, fun k behind inside => ?_⟩
  · rcases Nat.lt_trichotomy k items.length with before | last | after
    · rw [List.getElem?_append_left before] at at_k
      rw [same k (by omega) (by omega)]
      exact filled.item k b at_k
    · subst last
      rw [List.getElem?_append_right (Nat.le_refl _)] at at_k
      simpa [new] using at_k
    · rw [List.getElem?_eq_none (by omega)] at at_k
      cases at_k
  · rw [same k inside (by omega)]
    exact filled.rest k (by omega) inside

/-- An item is replaced. -/
theorem Filled.set (filled : Filled free table size items) {i : Nat} {a : α}
    (new : next i = a) (same : ∀ k < size, k ≠ i → next k = table k) (inside : i < items.length) :
    Filled free next size (items.set i a) := by
  have fits := filled.fits
  refine ⟨by simpa using fits, fun k b at_k => ?_, fun k behind below => ?_⟩
  · by_cases here : i = k
    · subst here
      rw [List.getElem?_set_self inside] at at_k
      simpa [new] using at_k
    · rw [List.getElem?_set_ne here] at at_k
      have short : k < items.length := (List.getElem?_eq_some_iff.mp at_k).1
      rw [same k (by omega) (by omega)]
      exact filled.item k b at_k
  · rw [List.length_set] at behind
    rw [same k below (by omega)]
    exact filled.rest k behind below

/-- The items behind one that is taken out move up. -/
theorem Filled.erase (filled : Filled free table size items) {i : Nat} (inside : i < items.length)
    (before : ∀ k < i, next k = table k)
    (moved : ∀ k, i ≤ k → k + 1 < items.length → next k = table (k + 1))
    (freed : ∀ k, items.length ≤ k + 1 → k < size → free (next k)) :
    Filled free next size (items.eraseIdx i) := by
  have length : (items.eraseIdx i).length = items.length - 1 := List.length_eraseIdx_of_lt inside
  have fits := filled.fits
  refine ⟨by omega, fun k b at_k => ?_, fun k behind below => freed k (by omega) below⟩
  by_cases early : k < i
  · rw [List.getElem?_eraseIdx_of_lt early] at at_k
    rw [before k early]
    exact filled.item k b at_k
  · rw [List.getElem?_eraseIdx_of_ge (by omega)] at at_k
    have short : k + 1 < items.length := (List.getElem?_eq_some_iff.mp at_k).1
    rw [moved k (by omega) short]
    exact filled.item (k + 1) b at_k

/-- All items are changed. -/
theorem Filled.map (filled : Filled free table size items) (f : α → α)
    (changed : ∀ k < size, next k = f (table k)) (stays : ∀ a, free a → free (f a)) :
    Filled free next size (items.map f) := by
  have fits := filled.fits
  refine ⟨by simpa using fits, fun k b at_k => ?_, fun k behind inside => ?_⟩
  · rw [List.getElem?_map] at at_k
    obtain ⟨a, before, image⟩ := Option.map_eq_some_iff.mp at_k
    have short : k < items.length := (List.getElem?_eq_some_iff.mp before).1
    rw [changed k (by omega), filled.item k a before, image]
  · rw [List.length_map] at behind
    rw [changed k inside]
    exact stays _ (filled.rest k behind inside)

end Filled

end Tables
