import BoaIpcam.Lib.LinkedList
import Mathlib.Data.List.Basic
import Mathlib.Logic.Function.Basic

/-!
# Queues that share their cells

A cell has one link in each direction, so it can be on one queue at a time. A queue is a pointer to
its first cell. Cells are pushed at the front and unlinked anywhere; `Lists` says what is on every
queue, and that no cell is on two.
-/
namespace BoaIpcam

open LinkedList

/-- The links of the cells and the first cell of every queue. -/
structure Queues (κ α : Type) where
  /-- The cell behind another. -/
  next : α → Option α
  /-- The cell before another. -/
  prev : α → Option α
  /-- The first cell. -/
  head : κ → Option α

namespace Queues

variable {κ α : Type}

/-- Nothing is on a queue. -/
def empty : Queues κ α := ⟨fun _ => none, fun _ => none, fun _ => none⟩

/-- The cell at a position of a queue. -/
def nth (q : Queues κ α) (k : κ) : Nat → Option α
  | 0 => q.head k
  | n + 1 => (q.nth k n).bind q.next

/-- What is on every queue. -/
structure Lists (q : Queues κ α) (lists : κ → List α) : Prop where
  /-- The cells of a queue are linked in order. -/
  linked : ∀ k, DChain q.next q.prev none (q.head k) (lists k)
  /-- No cell is on two queues. -/
  apart : ∀ k k', k ≠ k' → ∀ a ∈ lists k, a ∉ lists k'

variable {q : Queues κ α} {lists : κ → List α}

/-- Nothing is on any queue. -/
theorem lists_empty : (empty : Queues κ α).Lists fun _ => [] where
  linked _ := rfl
  apart _ _ _ _ mem := absurd mem List.not_mem_nil

/-- The cells that a queue reaches are those on it. -/
theorem Lists.reaches_iff (h : q.Lists lists) (k : κ) (a : α) :
    Reaches q.next (q.head k) a ↔ a ∈ lists k := (h.linked k).chain.reaches_iff a

/-- The cells of a list by their positions. -/
theorem nth_chain {list : List α} {k : κ} (chain : Chain q.next (q.head k) list) (n : Nat) :
    q.nth k n = list[n]? := by
  have starts : ∀ n ≤ list.length, Chain q.next (q.nth k n) (list.drop n) := by
    intro n
    induction n with
    | zero => exact fun _ => chain
    | succ n ih =>
      intro inside
      have here := ih (Nat.le_of_lt inside)
      rw [List.drop_eq_getElem_cons inside] at here
      rw [nth, here.1]
      exact here.2
  by_cases inside : n < list.length
  · have here := starts n (Nat.le_of_lt inside)
    rw [List.drop_eq_getElem_cons inside] at here
    rw [here.1, List.getElem?_eq_getElem inside]
  · have outside : ∀ m, q.nth k (list.length + m) = none := by
      intro m
      induction m with
      | zero =>
        have last := starts list.length (Nat.le_refl _)
        rw [List.drop_length] at last
        exact last
      | succ m ih => rw [← Nat.add_assoc, nth, ih, Option.bind_none]
    rw [List.getElem?_eq_none (Nat.le_of_not_lt inside)]
    have same := outside (n - list.length)
    rwa [Nat.add_sub_cancel' (Nat.le_of_not_lt inside)] at same

/-- The cell at a position of a queue is on it. -/
theorem Lists.nth_mem (h : q.Lists lists) {k : κ} {n : Nat} {a : α} (at_ : q.nth k n = some a) :
    a ∈ lists k := by
  rw [nth_chain (h.linked k).chain] at at_
  exact List.mem_of_getElem? at_

variable [DecidableEq α] [DecidableEq κ]

/-- Write a link, when the pointer is to a cell. -/
def relink (links : α → Option α) : Option α → Option α → α → Option α
  | none, _ => links
  | some a, link => Function.update links a link

omit [DecidableEq κ] in
/-- A link that is written. -/
theorem relink_apply (links : α → Option α) (pointer link : Option α) (a : α) :
    relink links pointer link a = if pointer = some a then link else links a := by
  cases pointer with
  | none => rfl
  | some b =>
    rw [relink, Function.update_apply]
    by_cases same : a = b
    · rw [if_pos same, if_pos (congrArg some same.symm)]
    · rw [if_neg same, if_neg fun other => same (Option.some.inj other).symm]

/-- Push a cell. -/
def enqueue (k : κ) (a : α) (q : Queues κ α) : Queues κ α where
  next := Function.update q.next a (q.head k)
  prev := Function.update (relink q.prev (q.head k) (some a)) a none
  head := Function.update q.head k (some a)

/-- Unlink a cell of a queue. -/
def dequeue (k : κ) (a : α) (q : Queues κ α) : Queues κ α :=
  let next := relink q.next (q.prev a) (q.next a)
  { next := Function.update next a none
    prev := Function.update (relink q.prev (next a) (q.prev a)) a none
    head := if q.head k = some a then Function.update q.head k (q.next a) else q.head }

/-- A cell that is on no queue is pushed. -/
theorem Lists.enqueue (h : q.Lists lists) (k : κ) {a : α} (free : ∀ k', a ∉ lists k') :
    (q.enqueue k a).Lists (Function.update lists k (a :: lists k)) := by
  have next {b : α} (other : b ≠ a) : (q.enqueue k a).next b = q.next b :=
    Function.update_of_ne other _ _
  have prev {b : α} (other : b ≠ a) :
      (q.enqueue k a).prev b = if q.head k = some b then some a else q.prev b := by
    rw [Queues.enqueue]
    dsimp only
    rw [Function.update_of_ne other, relink_apply]
  have differs {k' : κ} {b : α} (mem : b ∈ lists k') : b ≠ a := fun same => free k' (same ▸ mem)
  constructor
  · intro k'
    by_cases same : k' = k
    · subst same
      rw [Function.update_self]
      show DChain _ _ none (Function.update q.head k' (some a) k') _
      rw [Function.update_self]
      refine (h.linked k').push (Function.update_self ..) (Function.update_self ..) ?_ ?_ ?_
      · exact fun b mem => next (differs mem)
      · intro b first
        have mem : b ∈ lists k' :=
          List.mem_of_mem_head? ((h.linked k').chain.head_eq.symm.trans first)
        rw [prev (differs mem), if_pos first]
      · intro b mem later
        rw [prev (differs mem), if_neg later]
    · rw [Function.update_of_ne same]
      show DChain _ _ none (Function.update q.head k (some a) k') _
      rw [Function.update_of_ne same]
      refine (h.linked k').congr (fun b mem => next (differs mem)) fun b mem => ?_
      rw [prev (differs mem), if_neg]
      intro first
      have front : b ∈ lists k :=
        List.mem_of_mem_head? ((h.linked k).chain.head_eq.symm.trans first)
      exact h.apart k' k same b mem front
  · intro i j other b mem
    by_cases first : i = k
    · subst first
      rw [Function.update_self] at mem
      rw [Function.update_of_ne (Ne.symm other)]
      rcases List.mem_cons.mp mem with rfl | mem
      · exact free j
      · exact h.apart i j other b mem
    · rw [Function.update_of_ne first] at mem
      by_cases second : j = k
      · subst second
        rw [Function.update_self]
        intro inside
        rcases List.mem_cons.mp inside with rfl | inside
        · exact free i mem
        · exact h.apart i j other b mem inside
      · rw [Function.update_of_ne second]
        exact h.apart i j other b mem

/-- A cell of a queue is unlinked. -/
theorem Lists.dequeue (h : q.Lists lists) {k : κ} {a : α} (mem : a ∈ lists k) :
    (q.dequeue k a).Lists (Function.update lists k ((lists k).erase a)) := by
  obtain ⟨left, right, split⟩ := List.append_of_mem mem
  have linked := h.linked k
  rw [split] at linked
  have fresh := linked.chain.nodup
  have notLeft : a ∉ left := fun inside =>
    (List.nodup_append.mp fresh).2.2 a inside a List.mem_cons_self rfl
  have notRight : a ∉ right := (List.nodup_cons.mp (List.nodup_append.mp fresh).2.1).1
  -- The cell points to no cell before it, so its own link is what it was.
  have own : relink q.next (q.prev a) (q.next a) a = q.next a := by
    rw [relink_apply, ite_eq_right_iff]
    exact fun _ => rfl
  have next {b : α} (other : b ≠ a) :
      (q.dequeue k a).next b = if q.prev a = some b then q.next a else q.next b := by
    rw [Queues.dequeue]
    dsimp only
    rw [Function.update_of_ne other, relink_apply]
  have prev {b : α} (other : b ≠ a) :
      (q.dequeue k a).prev b = if q.next a = some b then q.prev a else q.prev b := by
    rw [Queues.dequeue]
    dsimp only
    rw [Function.update_of_ne other, relink_apply, own]
  have before {b : α} (back : q.prev a = some b) : b ∈ left := linked.mem_of_prev back
  have after {b : α} (ahead : q.next a = some b) : b ∈ right := linked.chain.mem_of_next ahead
  constructor
  · intro k'
    by_cases same : k' = k
    · subst same
      rw [Function.update_self, split, List.erase_append_right _ notLeft, List.erase_cons_head]
      refine linked.unlink ?_ ?_ ?_ ?_ ?_
      · show (if q.head k' = some a then Function.update q.head k' (q.next a) else q.head) k' = _
        cases left with
        | nil => rw [if_pos linked.1, Function.update_self, if_pos rfl]
        | cons b left =>
          have later : q.head k' ≠ some a := by
            rw [linked.1]
            exact fun same => notLeft (Option.some.inj same ▸ List.mem_cons_self)
          rw [if_neg later, if_neg (List.cons_ne_nil b left)]
      · exact fun b inside => next fun same => notLeft (same ▸ inside)
      · intro b inside
        rw [next fun same => notRight (same ▸ inside), if_neg]
        intro back
        exact (List.nodup_append.mp fresh).2.2 b (before back) b (List.mem_cons_of_mem a inside) rfl
      · intro b inside
        rw [prev fun same => notLeft (same ▸ inside), if_neg]
        intro ahead
        exact (List.nodup_append.mp fresh).2.2 b inside b
          (List.mem_cons_of_mem a (after ahead)) rfl
      · exact fun b inside => prev fun same => notRight (same ▸ inside)
    · rw [Function.update_of_ne same]
      have head : (q.dequeue k a).head k' = q.head k' := by
        show (if q.head k = some a then Function.update q.head k (q.next a) else q.head) k' = _
        split
        · exact Function.update_of_ne same _ _
        · rfl
      have outside {b : α} (inside : b ∈ lists k') : b ∉ left ++ a :: right := by
        rw [← split]
        exact h.apart k' k same b inside
      have differs {b : α} (inside : b ∈ lists k') : b ≠ a := by
        rintro rfl
        exact outside inside (List.mem_append_right left List.mem_cons_self)
      rw [head]
      refine (h.linked k').congr (fun b inside => ?_) fun b inside => ?_
      · rw [next (differs inside), if_neg]
        exact fun back => outside inside (List.mem_append_left _ (before back))
      · rw [prev (differs inside), if_neg]
        exact fun ahead => outside inside
          (List.mem_append_right left (List.mem_cons_of_mem a (after ahead)))
  · have smaller {k' : κ} {b : α}
        (inside : b ∈ Function.update lists k ((lists k).erase a) k') : b ∈ lists k' := by
      by_cases same : k' = k
      · subst same
        rw [Function.update_self] at inside
        exact List.mem_of_mem_erase inside
      · rwa [Function.update_of_ne same] at inside
    exact fun i j other b inside inside' => h.apart i j other b (smaller inside) (smaller inside')

/-- A cell that was unlinked is on no queue. -/
theorem Lists.not_mem_dequeue (h : q.Lists lists) {k : κ} {a : α} (mem : a ∈ lists k) (k' : κ) :
    a ∉ Function.update lists k ((lists k).erase a) k' := by
  by_cases same : k' = k
  · subst same
    rw [Function.update_self]
    exact (h.linked k').chain.nodup.not_mem_erase
  · rw [Function.update_of_ne same]
    exact h.apart k k' (Ne.symm same) a mem

end Queues
end BoaIpcam
