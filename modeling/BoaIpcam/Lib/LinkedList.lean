import Mathlib.Data.List.Nodup
import Mathlib.Data.Finset.Card

/-!
# Linked lists in a memory

A memory gives every address the address of its successor, or none. `Chain` says that a
pointer starts a list that ends at none and lists its addresses; such a list cannot repeat
an address, because a successor is a function of the address. `DChain` adds the back
pointers of a doubly linked list. The two ways a program changes a list, pushing an address
in front and unlinking one, are stated for arbitrary memories before and after, by what the
memory must agree on; `seek` is the loop that walks a list until it finds an address.
-/
namespace LinkedList

variable {α : Type}

/-- The pointer starts a list of exactly these addresses. -/
def Chain (next : α → Option α) : Option α → List α → Prop
  | head, [] => head = none
  | head, a :: rest => head = some a ∧ Chain next (next a) rest

/-- The pointer starts a doubly linked list of exactly these addresses, whose first back
pointer is given. -/
def DChain (next prev : α → Option α) : Option α → Option α → List α → Prop
  | _, head, [] => head = none
  | before, head, a :: rest => head = some a ∧ prev a = before ∧ DChain next prev (some a) (next a) rest

/-- The pointer leads to the address after some number of steps. -/
inductive Reaches (next : α → Option α) : Option α → α → Prop
  | here (a : α) : Reaches next (some a) a
  | later {a b : α} (tail : Reaches next (next a) b) : Reaches next (some a) b

variable {next next' prev prev' : α → Option α} {before head : Option α} {list left right : List α}

/-- A doubly linked list is a list. -/
theorem DChain.chain (linked : DChain next prev before head list) : Chain next head list := by
  induction list generalizing before head with
  | nil => exact linked
  | cons a list ih => exact ⟨linked.1, ih linked.2.2⟩

/-- A pointer starts at most one list. -/
theorem Chain.unique {other : List α} (linked : Chain next head list)
    (linked' : Chain next head other) : list = other := by
  induction list generalizing head other with
  | nil =>
    cases other with
    | nil => rfl
    | cons b other => exact absurd (linked.symm.trans linked'.1) (by simp)
  | cons a list ih =>
    cases other with
    | nil => exact absurd (linked'.symm.trans linked.1) (by simp)
    | cons b other =>
      obtain rfl : a = b := Option.some.inj (linked.1.symm.trans linked'.1)
      rw [ih linked.2 linked'.2]

/-- A list can be entered at each of its addresses. -/
theorem Chain.suffix {a : α} (linked : Chain next head (left ++ a :: right)) :
    Chain next (some a) (a :: right) := by
  induction left generalizing head with
  | nil => exact ⟨rfl, linked.2⟩
  | cons b left ih => exact ih linked.2

/-- What is left of a list after some of its addresses is a list. -/
theorem Chain.drop (linked : Chain next head (left ++ right)) : Chain next right.head? right := by
  cases right with
  | nil => rfl
  | cons a right => exact linked.suffix

/-- A list that ends repeats no address. -/
theorem Chain.nodup (linked : Chain next head list) : list.Nodup := by
  induction list generalizing head with
  | nil => exact List.nodup_nil
  | cons a list ih =>
    refine List.nodup_cons.mpr ⟨fun member => ?_, ih linked.2⟩
    obtain ⟨left, right, split⟩ := List.append_of_mem member
    have again : Chain next (some a) (a :: right) := Chain.suffix (split ▸ linked.2)
    have whole : Chain next (some a) (a :: list) := ⟨rfl, linked.2⟩
    have same := congrArg List.length (whole.unique again)
    rw [split] at same
    simp only [List.length_cons, List.length_append] at same
    omega

/-- A list depends only on the successors of its addresses. -/
theorem Chain.congr (linked : Chain next head list) (same : ∀ a ∈ list, next' a = next a) :
    Chain next' head list := by
  induction list generalizing head with
  | nil => exact linked
  | cons a list ih =>
    refine ⟨linked.1, ?_⟩
    rw [same a List.mem_cons_self]
    exact ih linked.2 fun b member => same b (List.mem_cons_of_mem a member)

/-- A doubly linked list depends only on the links of its addresses. -/
theorem DChain.congr (linked : DChain next prev before head list)
    (same : ∀ a ∈ list, next' a = next a) (same' : ∀ a ∈ list, prev' a = prev a) :
    DChain next' prev' before head list := by
  induction list generalizing before head with
  | nil => exact linked
  | cons a list ih =>
    refine ⟨linked.1, (same' a List.mem_cons_self).trans linked.2.1, ?_⟩
    rw [same a List.mem_cons_self]
    exact ih linked.2.2 (fun b member => same b (List.mem_cons_of_mem a member))
      fun b member => same' b (List.mem_cons_of_mem a member)

/-- The pointer that starts a list is its first address. -/
theorem Chain.head_eq (linked : Chain next head list) : head = list.head? := by
  cases list with
  | nil => exact linked
  | cons a list => exact linked.1

/-- The addresses of a list are those its pointer leads to. -/
theorem Chain.reaches_iff (linked : Chain next head list) (a : α) :
    Reaches next head a ↔ a ∈ list := by
  induction list generalizing head with
  | nil =>
    constructor
    · intro reached
      rw [linked] at reached
      cases reached
    · intro member
      cases member
  | cons b list ih =>
    rw [linked.1, List.mem_cons]
    constructor
    · intro reached
      cases reached with
      | here => exact .inl rfl
      | later tail => exact .inr ((ih linked.2).mp tail)
    · rintro (rfl | member)
      · exact .here a
      · exact .later ((ih linked.2).mpr member)

/-- A pointer to a list of one address leads to that one only. -/
theorem Reaches.single {a b : α} (reached : Reaches next head b) (linked : Chain next head [a]) :
    b = a :=
  List.mem_singleton.mp ((linked.reaches_iff b).mp reached)

/-- A list of addresses below a bound is no longer than the bound. -/
theorem Chain.length_le {next : Nat → Option Nat} {head : Option Nat} {list : List Nat}
    (linked : Chain next head list) {bound : Nat} (below : ∀ a ∈ list, a < bound) :
    list.length ≤ bound := by
  have inside : list.toFinset ⊆ Finset.range bound := by
    intro a member
    exact Finset.mem_range.mpr (below a (List.mem_toFinset.mp member))
  have counted := Finset.card_le_card inside
  rwa [List.toFinset_card_of_nodup linked.nodup, Finset.card_range] at counted

/-! ## Changing a list -/

/-- A doubly linked list with another back pointer at its front. -/
theorem DChain.front {b : α} (linked : DChain next prev before head (b :: list))
    (same : ∀ a ∈ b :: list, next' a = next a) (same' : ∀ a ∈ list, prev' a = prev a)
    {first : Option α} (changed : prev' b = first) :
    DChain next' prev' first head (b :: list) := by
  refine ⟨linked.1, changed, ?_⟩
  rw [same b List.mem_cons_self]
  exact linked.2.2.congr (fun a member => same a (List.mem_cons_of_mem b member)) same'

/-- Pushing an address in front of a doubly linked list: it points to the old first address,
whose back pointer now points to it, and no other link of the list changed. -/
theorem DChain.push {a : α} (linked : DChain next prev before head list)
    (first : next' a = head) (back : prev' a = none)
    (same : ∀ b ∈ list, next' b = next b)
    (relinked : ∀ b, head = some b → prev' b = some a)
    (same' : ∀ b ∈ list, head ≠ some b → prev' b = prev b) :
    DChain next' prev' none (some a) (a :: list) := by
  refine ⟨rfl, back, ?_⟩
  rw [first]
  cases list with
  | nil => exact linked
  | cons b list =>
    have fresh := linked.chain.nodup
    refine linked.front same (fun c member => same' c (List.mem_cons_of_mem b member) ?_)
      (relinked b linked.1)
    rw [linked.1]
    rintro ⟨⟩
    exact (List.nodup_cons.mp fresh).1 member

/-- The back pointer of an address of a doubly linked list is one of those before it, unless
it is the first. -/
theorem DChain.prev_mem {a b : α} (linked : DChain next prev before head (b :: left ++ a :: right)) :
    ∃ c ∈ b :: left, prev a = some c := by
  induction left generalizing before head b with
  | nil => exact ⟨b, List.mem_cons_self, linked.2.2.2.1⟩
  | cons c left ih =>
    obtain ⟨d, member, back⟩ := ih linked.2.2
    exact ⟨d, List.mem_cons_of_mem b member, back⟩

/-- In a list that starts with no back pointer the back pointer of an address is before it. -/
theorem DChain.mem_of_prev {a b : α} (linked : DChain next prev none head (left ++ a :: right))
    (back : prev a = some b) : b ∈ left := by
  cases left with
  | nil => exact absurd (linked.2.1.symm.trans back) (by simp)
  | cons c left =>
    obtain ⟨d, member, earlier⟩ := linked.prev_mem
    rw [earlier] at back
    cases back
    exact member

/-- The successor of an address of a list is after it. -/
theorem Chain.mem_of_next {a b : α} (linked : Chain next head (left ++ a :: right))
    (after : next a = some b) : b ∈ right := by
  have start := linked.suffix.2.head_eq
  rw [after] at start
  exact List.mem_of_mem_head? start.symm

variable [DecidableEq α]

/-- Unlinking an address: its predecessor points past it, its successor points back past it,
and no other link of the list changed. The pointer of the list moves when the address was the
first one. -/
theorem DChain.unlink {a : α} (linked : DChain next prev before head (left ++ a :: right))
    {head' : Option α} (first : head' = if left = [] then next a else head)
    (skipped : ∀ b ∈ left, next' b = if prev a = some b then next a else next b)
    (kept : ∀ b ∈ right, next' b = next b)
    (kept' : ∀ b ∈ left, prev' b = prev b)
    (skipped' : ∀ b ∈ right, prev' b = if next a = some b then prev a else prev b) :
    DChain next' prev' before head' (left ++ right) := by
  induction left generalizing before head head' with
  | nil =>
    rw [if_pos rfl] at first
    rw [first, List.nil_append]
    obtain ⟨-, back, rest⟩ := linked
    cases right with
    | nil => exact rest
    | cons b right =>
      have fresh := rest.chain.nodup
      refine rest.front kept (fun c member => ?_) ?_
      · rw [skipped' c (List.mem_cons_of_mem b member), if_neg]
        rw [rest.1]
        rintro ⟨⟩
        exact (List.nodup_cons.mp fresh).1 member
      · rw [skipped' b List.mem_cons_self, if_pos rest.1, back]
  | cons b left ih =>
    rw [if_neg (by simp)] at first
    have fresh := linked.chain.nodup
    obtain ⟨start, back, rest⟩ := linked
    refine ⟨first.trans start, (kept' b List.mem_cons_self).trans back, ?_⟩
    refine ih rest ?_ (fun c member => skipped c (List.mem_cons_of_mem b member))
      fun c member => kept' c (List.mem_cons_of_mem b member)
    rw [skipped b List.mem_cons_self]
    cases left with
    | nil => rw [if_pos rest.2.1, if_pos rfl]
    | cons c left =>
      obtain ⟨d, member, earlier⟩ := rest.prev_mem
      have other : prev a ≠ some b := by
        rw [earlier]
        rintro ⟨⟩
        exact (List.nodup_cons.mp fresh).1 (List.mem_append_left _ member)
      rw [if_neg other, if_neg (by simp)]

omit [DecidableEq α]

/-! ## Walking a list -/

/-- The loop `for (p = head; p; p = next(p)) if (found(p)) break;` with at most the given number
of rounds: none when these were not enough. -/
def seek (next : α → Option α) (found : α → Bool) : Nat → Option α → Option (Option α)
  | _, none => some none
  | 0, some _ => none
  | rounds + 1, some a => if found a then some (some a) else seek next found rounds (next a)

/-- What the loop finds is looked for and on the way. -/
theorem seek_found {found : α → Bool} {rounds : Nat} {a : α}
    (result : seek next found rounds head = some (some a)) :
    found a = true ∧ Reaches next head a := by
  induction rounds generalizing head with
  | zero => cases head <;> simp [seek] at result
  | succ rounds ih =>
    cases head with
    | none => simp [seek] at result
    | some b =>
      rw [seek] at result
      split at result
      · cases result
        exact ⟨by assumption, .here _⟩
      · exact ⟨(ih result).1, .later (ih result).2⟩

/-- With a round for each address the loop searches the list. -/
theorem seek_chain {found : α → Bool} {rounds : Nat} (linked : Chain next head list)
    (enough : list.length ≤ rounds) : seek next found rounds head = some (list.find? found) := by
  induction list generalizing head rounds with
  | nil =>
    cases linked
    cases rounds <;> rfl
  | cons a rest ih =>
    obtain ⟨rfl, linked⟩ := linked
    obtain ⟨less, rfl⟩ : ∃ less, rounds = less + 1 := ⟨rounds - 1, by simp at enough; omega⟩
    rw [seek, List.find?_cons]
    cases here : found a with
    | true => rfl
    | false => exact ih linked (by simpa using enough)

/-- When the loop reaches the end, nothing on the way is looked for. -/
theorem seek_missing {found : α → Bool} {rounds : Nat}
    (result : seek next found rounds head = some none) {a : α} (reached : Reaches next head a) :
    found a = false := by
  induction reached generalizing rounds with
  | here a =>
    cases rounds with
    | zero => cases result
    | succ rounds =>
      rw [seek] at result
      split at result
      · cases result
      · rename_i other
        exact Bool.eq_false_iff.mpr other
  | later tail ih =>
    cases rounds with
    | zero => cases result
    | succ rounds =>
      rw [seek] at result
      split at result
      · cases result
      · exact ih result

end LinkedList
