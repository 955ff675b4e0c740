import Mathlib.Data.List.Nodup
import Mathlib.Data.List.Perm.Basic

/-!
# Loops that may end early

A loop goes over the items of a list. Its step knows the position of the item and tells whether the
loop goes on. What such a loop leaves is found by one induction with a condition on what is still
ahead. The items are pairs whose first components are different, and they can be brought into any
order.
-/
namespace EarlyExit

variable {σ α κ υ : Type}

/-- A loop over a list, from a position and a state on. -/
def loop (step : Nat → σ → α → σ × Bool) : Nat → σ → List α → σ
  | _, s, [] => s
  | pos, s, a :: as =>
    if (step pos s a).2 then loop step (pos + 1) (step pos s a).1 as else (step pos s a).1

section Loop

variable {step : Nat → σ → α → σ × Bool} {pos : Nat} {s : σ} {a : α} {as : List α}

/-- The loop goes on behind its first item. -/
theorem loop_goes (goes : (step pos s a).2 = true) :
    loop step pos s (a :: as) = loop step (pos + 1) (step pos s a).1 as := if_pos goes

/-- The loop ends at its first item. -/
theorem loop_ends (ends : (step pos s a).2 = false) :
    loop step pos s (a :: as) = (step pos s a).1 :=
  if_neg (by rw [ends]; exact Bool.false_ne_true)

/-- What the step keeps for every item and position of the list, the loop keeps. -/
theorem loop_invariant (inv : σ → Prop)
    (kept : ∀ i s, i < pos + as.length → ∀ a ∈ as, inv s → inv (step i s a).1) (start : inv s) :
    inv (loop step pos s as) := by
  induction as generalizing pos s with
  | nil => exact start
  | cons a as ih =>
    rw [List.length_cons] at kept
    have first := kept pos s (by omega) a List.mem_cons_self start
    cases goes : (step pos s a).2 with
    | true =>
      rw [loop_goes goes]
      refine ih (fun i s inside b member => kept i s ?_ b (List.mem_cons_of_mem a member)) first
      omega
    | false =>
      rw [loop_ends goes]
      exact first

/-- A condition on what is ahead that the steps pass on, with what is left at the end told from its
beginning. -/
theorem loop_passes (ahead : Nat → σ → List α → Prop) (left : Nat → σ → List α → σ → Prop)
    (done : ∀ pos s, ahead pos s [] → left pos s [] s)
    (goes : ∀ pos s a as, ahead pos s (a :: as) → (step pos s a).2 = true →
      ahead (pos + 1) (step pos s a).1 as ∧
        ∀ last, left (pos + 1) (step pos s a).1 as last → left pos s (a :: as) last)
    (ends : ∀ pos s a as, ahead pos s (a :: as) → (step pos s a).2 = false →
      left pos s (a :: as) (step pos s a).1)
    (start : ahead pos s as) : left pos s as (loop step pos s as) := by
  induction as generalizing pos s with
  | nil => exact done pos s start
  | cons a as ih =>
    cases on : (step pos s a).2 with
    | true =>
      obtain ⟨later, back⟩ := goes pos s a as start on
      rw [loop_goes on]
      exact back _ (ih later)
    | false =>
      rw [loop_ends on]
      exact ends pos s a as start on

/-- A loop whose step never ends it goes over a second part behind the first. -/
theorem loop_append (never : ∀ pos s a, (step pos s a).2 = true) (as bs : List α) :
    loop step pos s (as ++ bs) = loop step (pos + as.length) (loop step pos s as) bs := by
  induction as generalizing pos s with
  | nil => rfl
  | cons a as ih =>
    rw [List.cons_append, loop_goes (never pos s a), loop_goes (never pos s a), ih, List.length_cons,
      Nat.add_right_comm, Nat.add_assoc]

/-- What an item brings about and no other undoes holds in the end. -/
theorem loop_settles (inv settled : σ → Prop) (never : ∀ i s a, (step i s a).2 = true)
    (kept : ∀ i s, i < pos + as.length → ∀ b ∈ as, inv s →
      inv (step i s b).1 ∧ (settled s → settled (step i s b).1))
    (member : a ∈ as) (sets : ∀ i s, inv s → settled (step i s a).1) (start : inv s) :
    settled (loop step pos s as) := by
  obtain ⟨before, behind, split⟩ := List.append_of_mem member
  rw [split, List.length_append, List.length_cons] at kept
  have first : inv (loop step pos s before) := by
    refine loop_invariant inv (fun i s inside b there held => ?_) start
    exact (kept i s (by omega) b (List.mem_append_left _ there) held).1
  have here := kept (pos + before.length) _ (by omega) a (List.mem_append_right _ List.mem_cons_self) first
  rw [split, loop_append never, loop_goes (never _ _ _)]
  refine (loop_invariant (fun s => inv s ∧ settled s) (fun i s inside b there held => ?_)
    ⟨here.1, sets _ _ first⟩).2
  have within : b ∈ before ++ a :: behind :=
    List.mem_append_right _ (List.mem_cons_of_mem a there)
  have both := kept i s (by omega) b within held.1
  exact ⟨both.1, both.2 held.2⟩

end Loop

/-! ## Items with different keys -/

/-- The keys of the items are different. -/
def Distinct (items : List (κ × υ)) : Prop := (items.map Prod.fst).Nodup

section Keys

variable {item other : κ × υ} {items ordered : List (κ × υ)}

/-- In another order the keys are still different. -/
theorem Distinct.perm (distinct : Distinct items) (same : items.Perm ordered) : Distinct ordered :=
  (same.map Prod.fst).nodup_iff.mp distinct

/-- An item whose key is that of the first one is the first one. -/
theorem Distinct.eq_first {key : κ} {value : υ} (distinct : Distinct (item :: items))
    (member : (key, value) ∈ item :: items) (here : item.1 = key) : item = (key, value) := by
  rcases List.mem_cons.mp member with first | behind
  · exact first.symm
  · have twice : item.1 ∈ items.map Prod.fst := List.mem_map.mpr ⟨_, behind, here.symm⟩
    exact absurd twice (List.nodup_cons.mp distinct).1

/-- The keys behind the first item are different. -/
theorem Distinct.tail (distinct : Distinct (item :: items)) : Distinct items :=
  (List.nodup_cons.mp distinct).2

/-- No item behind the first one has its key. -/
theorem Distinct.not_behind {value : υ} (distinct : Distinct (item :: items)) :
    (item.1, value) ∉ items := fun behind =>
  (List.nodup_cons.mp distinct).1 (List.mem_map.mpr ⟨_, behind, rfl⟩)

/-- What only the item of one key changes is found from that item alone. -/
theorem loop_single {β : Type} {step : Nat → σ → κ × υ → σ × Bool} {pos : Nat} {s : σ}
    (key : κ) (view : σ → β) (set : υ → β → β) (inv : σ → Prop) (never : ∀ i s a, (step i s a).2 = true)
    (kept : ∀ i s, i < pos + items.length → ∀ a ∈ items, inv s → inv (step i s a).1 ∧
      (a.1 = key → view (step i s a).1 = set a.2 (view s)) ∧
      (a.1 ≠ key → view (step i s a).1 = view s))
    (distinct : Distinct items) (start : inv s) :
    (∀ value, (key, value) ∈ items → view (loop step pos s items) = set value (view s)) ∧
      ((∀ value, (key, value) ∉ items) → view (loop step pos s items) = view s) := by
  induction items generalizing pos s with
  | nil => exact ⟨fun _ member => absurd member List.not_mem_nil, fun _ => rfl⟩
  | cons a items ih =>
    rw [List.length_cons] at kept
    obtain ⟨first, sets, leaves⟩ := kept pos s (by omega) a List.mem_cons_self start
    have behind (i : Nat) (s : σ) (inside : i < pos + 1 + items.length) (b : κ × υ)
        (member : b ∈ items) := kept i s (by omega) b (List.mem_cons_of_mem a member)
    obtain ⟨found, missing⟩ := ih behind distinct.tail first
    rw [loop_goes (never pos s a)]
    by_cases here : a.1 = key
    · have absent : ∀ value, (key, value) ∉ items := fun value => here ▸ distinct.not_behind
      rw [missing absent, sets here]
      refine ⟨fun value member => ?_, fun none => absurd ?_ (none a.2)⟩
      · rw [distinct.eq_first member here]
      · exact List.mem_cons.mpr (.inl (Prod.ext here.symm rfl))
    · rw [leaves here] at found missing
      refine ⟨fun value member => found value ?_, fun none => missing fun value there =>
        none value (List.mem_cons_of_mem a there)⟩
      exact (List.mem_cons.mp member).resolve_left fun same => here (congrArg Prod.fst same).symm

/-- What only the item of one key changes is the same in every order. -/
theorem loop_single_perm {β : Type} {step : Nat → σ → κ × υ → σ × Bool} {s : σ}
    (key : κ) (view : σ → β) (set : υ → β → β) (inv : σ → Prop) (never : ∀ i s a, (step i s a).2 = true)
    (kept : ∀ i s, i < items.length → ∀ a ∈ items, inv s → inv (step i s a).1 ∧
      (a.1 = key → view (step i s a).1 = set a.2 (view s)) ∧
      (a.1 ≠ key → view (step i s a).1 = view s))
    (distinct : Distinct items) (start : inv s) (same : items.Perm ordered) :
    view (loop step 0 s ordered) = view (loop step 0 s items) := by
  have here : (∀ value, (key, value) ∈ items → view (loop step 0 s items) = set value (view s)) ∧
      ((∀ value, (key, value) ∉ items) → view (loop step 0 s items) = view s) :=
    loop_single key view set inv never (by rwa [Nat.zero_add]) distinct start
  have there : (∀ value, (key, value) ∈ ordered →
        view (loop step 0 s ordered) = set value (view s)) ∧
      ((∀ value, (key, value) ∉ ordered) → view (loop step 0 s ordered) = view s) := by
    refine loop_single key view set inv never ?_ (distinct.perm same) start
    simp only [← same.mem_iff, ← same.length_eq, Nat.zero_add]
    exact kept
  by_cases asked : ∃ value, (key, value) ∈ items
  · obtain ⟨value, member⟩ := asked
    rw [here.1 value member, there.1 value (same.mem_iff.mp member)]
  · have none (value : υ) : (key, value) ∉ items := fun member => asked ⟨value, member⟩
    rw [here.2 none, there.2 fun value member => none value (same.mem_iff.mpr member)]

/-- A key has one value. -/
theorem Distinct.unique {key : κ} {value second : υ} (distinct : Distinct items)
    (first : (key, value) ∈ items) (member : (key, second) ∈ items) : value = second :=
  congrArg Prod.snd (List.inj_on_of_nodup_map distinct first member rfl)

variable [DecidableEq κ] [DecidableEq υ]

/-- An item comes first in some order. -/
theorem exists_front (member : item ∈ items) : ∃ rest, items.Perm (item :: rest) :=
  ⟨items.erase item, List.perm_cons_erase member⟩

/-- Two items come first, one behind the other, in some order. -/
theorem exists_front₂ (member : item ∈ items) (second : other ∈ items) (ne : other ≠ item) :
    ∃ rest, items.Perm (item :: other :: rest) := by
  obtain ⟨rest, same⟩ := exists_front member
  have behind : other ∈ rest := (List.mem_cons.mp (same.mem_iff.mp second)).resolve_left ne
  obtain ⟨others, split⟩ := exists_front behind
  exact ⟨others, same.trans (split.cons item)⟩

/-- An item stands at any position in some order. -/
theorem exists_at (member : item ∈ items) {pos : Nat} (inside : pos < items.length) :
    ∃ before behind, before.length = pos ∧ items.Perm (before ++ item :: behind) := by
  obtain ⟨rest, same⟩ := exists_front member
  have length := same.length_eq
  rw [List.length_cons] at length
  refine ⟨rest.take pos, rest.drop pos, List.length_take_of_le (by omega), ?_⟩
  apply same.trans
  apply (List.Perm.trans · List.perm_middle.symm)
  rw [List.take_append_drop]

end Keys

end EarlyExit
