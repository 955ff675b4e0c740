import Mathlib.Algebra.Order.Group.Multiset

/-!
# Ledgers of owned blocks

A program takes blocks, uses them and gives each back with an operation. A ledger is the list of
what it did; settling it keeps the blocks that are held and fails at an operation that does not fit
its block, at a block given back that is not held, and at the use of such a block. A ledger that
settles with nothing held gave back every block once.
-/
namespace BoaIpcam.Ledger

variable {β ω : Type}

/-- What is done with a block. -/
inductive Entry (β ω : Type) where
  | take (block : β)
  | use (block : β)
  | release (op : ω) (block : β)
deriving DecidableEq, Repr

variable [DecidableEq β] (fits : ω → β → Bool)

/-- The blocks held after an entry. -/
def post (held : Multiset β) : Entry β ω → Option (Multiset β)
  | .take block => some (block ::ₘ held)
  | .use block => if block ∈ held then some held else none
  | .release op block => if fits op block ∧ block ∈ held then some (held.erase block) else none

/-- The blocks held after a ledger. -/
def settle : Multiset β → List (Entry β ω) → Option (Multiset β)
  | held, [] => some held
  | held, entry :: rest => (post fits held entry).bind fun held => settle held rest

/-- Every block that is taken is given back once, by an operation that fits it, and is not used
afterwards. -/
def Balanced (entries : List (Entry β ω)) : Prop := settle fits 0 entries = some 0

variable {fits} {held rest : Multiset β} {entries : List (Entry β ω)}

/-- Two ledgers settle one after the other. -/
theorem settle_append (held : Multiset β) (first second : List (Entry β ω)) :
    settle fits held (first ++ second) =
      (settle fits held first).bind fun held => settle fits held second := by
  induction first generalizing held with
  | nil => rfl
  | cons entry first ih =>
    simp only [List.cons_append, settle]
    cases post fits held entry with
    | none => rfl
    | some held => exact ih held

/-- A ledger that settles, followed by another. -/
theorem settle_append_of_settle {first : List (Entry β ω)} {mid : Multiset β}
    (settled : settle fits held first = some mid) (second : List (Entry β ω)) :
    settle fits held (first ++ second) = settle fits mid second := by
  rw [settle_append, settled, Option.bind_some]

/-- A block is taken. -/
@[simp] theorem settle_take (block : β) :
    settle fits held (.take block :: entries) = settle fits (block ::ₘ held) entries := rfl

/-- A block that is held is used. -/
theorem settle_use {block : β} (mem : block ∈ held) :
    settle fits held (.use block :: entries) = settle fits held entries := by
  rw [settle, post, if_pos mem, Option.bind_some]

/-- A block that is held is given back with an operation that fits it. -/
theorem settle_release {op : ω} {block : β} (right : fits op block = true) :
    settle fits (block ::ₘ held) (.release op block :: entries) = settle fits held entries := by
  rw [settle, post, if_pos ⟨right, Multiset.mem_cons_self block held⟩, Option.bind_some,
    Multiset.erase_cons_head]

/-- An operation that does not fit its block spoils the ledger. -/
theorem settle_misfit {op : ω} {block : β} (wrong : fits op block = false) :
    settle fits held (.release op block :: entries) = none := by
  have refused : ¬(fits op block = true ∧ block ∈ held) := by
    rw [wrong]
    exact nofun
  rw [settle, post, if_neg refused, Option.bind_none]

/-- Other blocks do not disturb a ledger. -/
theorem settle_frame {last : Multiset β} (settled : settle fits held entries = some last)
    (rest : Multiset β) : settle fits (held + rest) entries = some (last + rest) := by
  induction entries generalizing held with
  | nil =>
    cases settled
    rfl
  | cons entry entries ih =>
    cases entry with
    | take block =>
      rw [settle_take] at settled ⊢
      rw [← Multiset.cons_add]
      exact ih settled
    | use block =>
      by_cases mem : block ∈ held
      · rw [settle_use mem] at settled
        rw [settle_use (Multiset.mem_add.mpr (.inl mem))]
        exact ih settled
      · rw [settle, post, if_neg mem] at settled
        cases settled
    | release op block =>
      by_cases right : fits op block = true ∧ block ∈ held
      · obtain ⟨others, rfl⟩ := Multiset.exists_cons_of_mem right.2
        rw [settle_release right.1] at settled
        rw [Multiset.cons_add, settle_release right.1]
        exact ih settled
      · rw [settle, post, if_neg right] at settled
        cases settled

/-- A list of blocks is taken. -/
theorem settle_takes (blocks : List β) (held : Multiset β) :
    settle fits held (blocks.map .take) = some ((blocks : Multiset β) + held) := by
  induction blocks generalizing held with
  | nil => rw [Multiset.coe_nil, zero_add]; rfl
  | cons block blocks ih =>
    rw [List.map_cons, settle_take, ih, ← Multiset.cons_coe, Multiset.add_cons, Multiset.cons_add]

/-- A list of blocks is given back. -/
theorem settle_releases {op : ω} (blocks : List β) (held : Multiset β)
    (right : ∀ block ∈ blocks, fits op block = true) :
    settle fits ((blocks : Multiset β) + held) (blocks.map (.release op)) = some held := by
  induction blocks with
  | nil => rw [Multiset.coe_nil, zero_add]; rfl
  | cons block blocks ih =>
    rw [List.map_cons, ← Multiset.cons_coe, Multiset.cons_add,
      settle_release (right block List.mem_cons_self)]
    exact ih fun other mem => right other (List.mem_cons_of_mem block mem)

omit [DecidableEq β] in
/-- Nothing is left over when nothing is left over of either part. -/
theorem nothing_left_iff {first second : Multiset β} :
    first + second = 0 ↔ first = 0 ∧ second = 0 := by
  rw [← Multiset.card_eq_zero, Multiset.card_add, Nat.add_eq_zero_iff, Multiset.card_eq_zero,
    Multiset.card_eq_zero]

/-- A ledger that settles with nothing held is balanced when nothing is left over. -/
theorem balanced_iff {last : Multiset β} (settled : settle fits 0 entries = some last) :
    Balanced fits entries ↔ last = 0 := by
  rw [Balanced, settled, Option.some_inj]

/-- A spoilt ledger is not balanced. -/
theorem not_balanced (spoilt : settle fits 0 entries = none) : ¬Balanced fits entries := by
  rw [Balanced, spoilt]
  exact nofun

end BoaIpcam.Ledger
