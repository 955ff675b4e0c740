import Mathlib.Data.List.Basic
import Mathlib.Logic.Function.Basic

/-!
# Tables in a flat array

Several tables lie in one array. The slots of a table have the same fields and follow each other
at a fixed stride, so an entry is addressed by the place of the field in the first slot and the
number of the slot times the stride. Distinct slots and fields have distinct addresses, whatever
the numbers of the slots; distinct tables do as long as the slots are inside their sizes.
-/
namespace FlatTables

variable {α τ : Type} {φ : τ → Type}

/-! ## Addresses -/

/-- Where the fields `φ` of the tables `τ` lie. -/
structure Layout (τ : Type) (φ : τ → Type) where
  /-- The first address of a table. -/
  base : τ → Nat
  /-- The size of a slot. -/
  stride : τ → Nat
  /-- How many slots there are. -/
  size : τ → Nat
  /-- Where a field is in its slot. -/
  offset : (t : τ) → φ t → Nat
  /-- A field is inside its slot. -/
  offset_lt : ∀ t f, offset t f < stride t
  /-- Two fields of a slot are different addresses. -/
  offset_inj : ∀ t f g, offset t f = offset t g → f = g
  /-- The tables do not overlap. -/
  apart : ∀ t u, t ≠ u →
    base t + size t * stride t ≤ base u ∨ base u + size u * stride u ≤ base t

section Addresses

variable (layout : Layout τ φ) {t u : τ} {i j : Nat} {f : φ t} {g : φ u}

/-- The address of a field in a slot. -/
def Layout.address (t : τ) (slot : Nat) (field : φ t) : Nat :=
  layout.base t + layout.offset t field + slot * layout.stride t

/-- Two entries of a table with one address are the same field of the same slot. -/
theorem Layout.address_inj {f g : φ t} (same : layout.address t i f = layout.address t j g) :
    i = j ∧ f = g := by
  have left := layout.offset_lt t f
  have right := layout.offset_lt t g
  have positive : 0 < layout.stride t := by omega
  have sums : layout.offset t f + layout.stride t * i = layout.offset t g + layout.stride t * j := by
    unfold address at same
    rw [Nat.mul_comm (layout.stride t) i, Nat.mul_comm (layout.stride t) j]
    omega
  have slots : i = j := by
    have quotients := congrArg (· / layout.stride t) sums
    simpa only [Nat.add_mul_div_left _ _ positive, Nat.div_eq_of_lt left, Nat.div_eq_of_lt right,
      Nat.zero_add] using quotients
  have offsets : layout.offset t f = layout.offset t g := by
    rw [slots] at sums
    omega
  exact ⟨slots, layout.offset_inj t f g offsets⟩

/-- An entry of a slot inside the size lies inside the table. -/
theorem Layout.address_lt (inside : i < layout.size t) :
    layout.address t i f < layout.base t + layout.size t * layout.stride t := by
  have within := layout.offset_lt t f
  have rows : (i + 1) * layout.stride t ≤ layout.size t * layout.stride t :=
    Nat.mul_le_mul_right _ inside
  rw [Nat.add_mul, Nat.one_mul] at rows
  unfold address
  omega

/-- Entries of two tables have different addresses. -/
theorem Layout.address_ne (other : t ≠ u) (left : i < layout.size t) (right : j < layout.size u) :
    layout.address t i f ≠ layout.address u j g := by
  have least : layout.base t ≤ layout.address t i f := by
    unfold address
    omega
  have least' : layout.base u ≤ layout.address u j g := by
    unfold address
    omega
  have most := @address_lt τ φ layout t i f left
  have most' := @address_lt τ φ layout u j g right
  rcases layout.apart t u other with before | behind
  · omega
  · omega

end Addresses

/-! ## Writes -/

/-- The array after writes, in their order. -/
def store (array : Nat → α) : List (Nat × α) → Nat → α
  | [] => array
  | write :: writes => store (Function.update array write.1 write.2) writes

/-- Writes to other addresses leave an entry as it was. -/
theorem store_other {array : Nat → α} {writes : List (Nat × α)} {address : Nat}
    (other : ∀ write ∈ writes, write.1 ≠ address) : store array writes address = array address := by
  induction writes generalizing array with
  | nil => rfl
  | cons write writes ih =>
    have first : write.1 ≠ address := other write List.mem_cons_self
    rw [store, ih fun later member => other later (List.mem_cons_of_mem _ member),
      Function.update_of_ne first.symm]

/-- An entry that is written holds the value when all writes to it have that value. -/
theorem store_written {array : Nat → α} {writes : List (Nat × α)} {address : Nat} {value : α}
    (written : (address, value) ∈ writes)
    (agree : ∀ write ∈ writes, write.1 = address → write.2 = value) :
    store array writes address = value := by
  induction writes generalizing array with
  | nil => cases written
  | cons write writes ih =>
    have rest : ∀ later ∈ writes, later.1 = address → later.2 = value :=
      fun later member => agree later (List.mem_cons_of_mem _ member)
    by_cases later : (address, value) ∈ writes
    · exact ih later rest
    · have first : write = (address, value) := by
        rcases List.mem_cons.mp written with same | among
        · exact same.symm
        · exact absurd among later
      have others : ∀ later ∈ writes, later.1 ≠ address := by
        intro after member same
        have value := rest after member same
        exact later (by rwa [← same, ← value])
      rw [store, store_other others, first, Function.update_self]

/-! ## Writes to one slot -/

section Slots

variable (layout : Layout τ φ) {t : τ} {i : Nat} {array : Nat → α} {writes : List (φ t × α)}

/-- Writes to fields of a slot. -/
def Layout.slotWrites (t : τ) (slot : Nat) (writes : List (φ t × α)) : List (Nat × α) :=
  writes.map fun write => (layout.address t slot write.1, write.2)

/-- A field that is written holds the value when all writes to it have that value. -/
theorem Layout.store_slot {f : φ t} {value : α} (written : (f, value) ∈ writes)
    (agree : ∀ write ∈ writes, write.1 = f → write.2 = value) :
    store array (layout.slotWrites t i writes) (layout.address t i f) = value := by
  apply store_written
  · exact List.mem_map.mpr ⟨(f, value), written, rfl⟩
  · intro write member same
    obtain ⟨source, among, rfl⟩ := List.mem_map.mp member
    exact agree source among (layout.address_inj same).2

/-- An address outside the slot stays. -/
theorem Layout.store_outside {address : Nat} (outside : ∀ f, layout.address t i f ≠ address) :
    store array (layout.slotWrites t i writes) address = array address := by
  apply store_other
  intro write member same
  obtain ⟨source, among, rfl⟩ := List.mem_map.mp member
  exact outside source.1 same

/-- Another slot of the table stays. -/
theorem Layout.store_other_slot {j : Nat} (other : j ≠ i) (f : φ t) :
    store array (layout.slotWrites t i writes) (layout.address t j f) =
      array (layout.address t j f) :=
  layout.store_outside fun _ same => other (layout.address_inj same).1.symm

/-- Another table stays. -/
theorem Layout.store_other_table {u : τ} {j : Nat} (other : t ≠ u) (left : i < layout.size t)
    (right : j < layout.size u) (g : φ u) :
    store array (layout.slotWrites t i writes) (layout.address u j g) =
      array (layout.address u j g) :=
  layout.store_outside fun _ => layout.address_ne other left right

end Slots

end FlatTables
