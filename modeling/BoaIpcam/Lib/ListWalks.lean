import BoaIpcam.Lib.Queues

/-!
# Walks along a list that changes

A loop goes along a linked list from a first address. Each visit changes the state, may move the
address it visits to another list, and says where the loop goes on; it may also give up. When every
visit goes on at the successor, the walk visits exactly the addresses that were on the list at its
beginning, each once and in their order, whatever the visits do with the list behind them.
-/
namespace LinkedList

variable {α σ ε : Type}

/-- The walk: the state behind it and what it visited. It gives up after so many rounds. -/
def walk (visit : α → σ → Except ε (σ × Option α)) (late : ε) :
    Nat → Option α → σ → Except ε (σ × List α)
  | 0, _, _ => .error late
  | _ + 1, none, s => .ok (s, [])
  | rounds + 1, some a, s => do
    let (s, next) ← visit a s
    let (s, visited) ← walk visit late rounds next s
    .ok (s, a :: visited)

variable {visit : α → σ → Except ε (σ × Option α)} {late : ε}

/-- Every visit keeps an invariant of what is left of the list, and goes on at its first address. -/
def Follows (visit : α → σ → Except ε (σ × Option α)) (inv : List α → σ → Prop) : Prop :=
  ∀ a rest s s' next, inv (a :: rest) s → visit a s = .ok (s', next) →
    next = rest.head? ∧ inv rest s'

/-- A walk that ends has visited the whole list, and the invariant holds with nothing left. -/
theorem walk_ok {inv : List α → σ → Prop} (follows : Follows visit inv) {rounds : Nat}
    {list visited : List α} {s s' : σ} (start : inv list s)
    (done : walk visit late rounds list.head? s = .ok (s', visited)) :
    visited = list ∧ inv [] s' := by
  induction rounds generalizing list visited s with
  | zero => cases done
  | succ rounds ih =>
    cases list with
    | nil =>
      cases done
      exact ⟨rfl, start⟩
    | cons a rest =>
      rw [List.head?_cons, walk] at done
      cases seen : visit a s with
      | error e =>
        rw [seen] at done
        cases done
      | ok pair =>
        obtain ⟨s₁, next⟩ := pair
        have kept := follows a rest s s₁ next start seen
        rw [seen] at done
        simp only [bind, Except.bind] at done
        rw [kept.1] at done
        cases later : walk visit late rounds rest.head? s₁ with
        | error e =>
          rw [later] at done
          cases done
        | ok pair =>
          obtain ⟨s₂, others⟩ := pair
          rw [later] at done
          cases done
          have whole := ih kept.2 later
          exact ⟨congrArg (a :: ·) whole.1, whole.2⟩

/-- With a round more than there are addresses, a walk gives up only in a visit. -/
theorem walk_error {inv : List α → σ → Prop} (follows : Follows visit inv) {rounds : Nat}
    {list : List α} {s : σ} {e : ε} (start : inv list s) (enough : list.length < rounds)
    (failed : walk visit late rounds list.head? s = .error e) :
    ∃ a t, visit a t = .error e := by
  induction rounds generalizing list s with
  | zero => exact absurd enough (Nat.not_lt_zero _)
  | succ rounds ih =>
    cases list with
    | nil => cases failed
    | cons a rest =>
      rw [List.head?_cons, walk] at failed
      cases seen : visit a s with
      | error e' =>
        rw [seen] at failed
        cases failed
        exact ⟨a, s, seen⟩
      | ok pair =>
        obtain ⟨s₁, next⟩ := pair
        have kept := follows a rest s s₁ next start seen
        rw [seen] at failed
        simp only [bind, Except.bind] at failed
        rw [kept.1] at failed
        cases later : walk visit late rounds rest.head? s₁ with
        | error e' =>
          rw [later] at failed
          cases failed
          exact ih kept.2 (Nat.lt_of_succ_lt_succ enough) later
        | ok pair =>
          rw [later] at failed
          cases failed

/-- A list without one of its addresses. -/
theorem erase_middle [DecidableEq α] {list front rest : List α} {a : α}
    (split : list = front ++ a :: rest) (nodup : list.Nodup) : list.erase a = front ++ rest := by
  rw [split] at nodup ⊢
  have fresh : a ∉ front := by
    intro mem
    exact (List.nodup_append.mp nodup).2.2 a mem a List.mem_cons_self rfl
  rw [List.erase_append_right _ fresh, List.erase_cons_head]

end LinkedList

namespace BoaIpcam.Queues

variable {κ α : Type} [DecidableEq α] [DecidableEq κ] {q : Queues κ α} {lists : κ → List α}

omit [DecidableEq α] [DecidableEq κ] in
/-- The successor of a cell of a queue is the cell behind it. -/
theorem Lists.next_eq (h : q.Lists lists) {k : κ} {left right : List α} {a : α}
    (split : lists k = left ++ a :: right) : q.next a = right.head? := by
  have linked := (h.linked k).chain
  rw [split] at linked
  exact linked.suffix.2.head_eq

/-- A cell is moved to the front of another queue. -/
theorem Lists.move (h : q.Lists lists) {k k' : κ} (other : k' ≠ k) {a : α} (mem : a ∈ lists k) :
    ((q.dequeue k a).enqueue k' a).Lists
      (Function.update (Function.update lists k ((lists k).erase a)) k' (a :: lists k')) := by
  have moved := (h.dequeue mem).enqueue k' (h.not_mem_dequeue mem)
  rw [Function.update_of_ne other] at moved
  exact moved

end BoaIpcam.Queues
