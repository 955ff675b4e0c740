import Mathlib.Data.Fin.Basic
import Mathlib.Data.List.Basic
import Mathlib.Data.Nat.Find
import Mathlib.Algebra.Group.Fin.Basic
import Mathlib.Algebra.GroupWithZero.Nat

/-!
# Open addressing

The slots of a table stand in a ring. A key is looked up from the slot it hashes to, slot by slot,
up to one that is free or has the key. In a table that only grows each key stays where its look-up
ends, so that no key is there twice.
-/
namespace BoaIpcam.Probing

variable {size : ℕ} [NeZero size]

/-! ## The ring -/

/-- The slot some steps after another. -/
def after (start : Fin size) (steps : ℕ) : Fin size := start + Fin.ofNat size steps

@[simp] theorem after_zero (start : Fin size) : after start 0 = start := by
  have none : Fin.ofNat size 0 = 0 := rfl
  rw [after, none, add_zero]

/-- One step more. -/
theorem after_succ (start : Fin size) (steps : ℕ) :
    after start (steps + 1) = after start steps + 1 := by
  have more : Fin.ofNat size (steps + 1) = Fin.ofNat size steps + 1 := by
    apply Fin.ext
    simp [Fin.val_add]
  rw [after, after, more, add_assoc]

/-- Once round the ring is every slot. -/
theorem exists_after (start slot : Fin size) : ∃ steps < size, after start steps = slot := by
  refine ⟨(slot - start).val, (slot - start).isLt, ?_⟩
  have same : Fin.ofNat size (slot - start).val = slot - start := by
    apply Fin.ext
    simp
  rw [after, same]
  exact add_sub_cancel start slot

/-- Fewer steps than the ring has slots do not come back. -/
theorem after_ne (start : Fin size) {steps : ℕ} (some : 0 < steps) (few : steps < size) :
    after start steps ≠ start := by
  intro back
  have zero : Fin.ofNat size steps = 0 := by
    simpa [after] using back
  have value := congrArg Fin.val zero
  simp [Nat.mod_eq_of_lt few] at value
  omega

/-! ## The probe -/

/-- The steps from a slot to the first one that stops the probe. -/
def probe (stop : Fin size → Bool) (start : Fin size) : Option ℕ :=
  (List.range size).find? fun steps => stop (after start steps)

variable {stop : Fin size → Bool} {start : Fin size}

/-- The slots before the one that stops the probe do not. -/
theorem probe_eq_some {steps : ℕ} : probe stop start = some steps ↔
    stop (after start steps) = true ∧ steps < size ∧
      ∀ fewer < steps, stop (after start fewer) = false := by
  rw [probe, List.find?_range_eq_some]
  simp

/-- A probe that ends nowhere has been at every slot. -/
theorem probe_eq_none : probe stop start = none ↔ ∀ slot, stop slot = false := by
  rw [probe, List.find?_eq_none]
  constructor
  · intro passed slot
    obtain ⟨steps, few, at_slot⟩ := exists_after start slot
    have here := passed steps (List.mem_range.mpr few)
    rw [at_slot] at here
    simpa using here
  · intro passed steps _
    simp [passed]

/-! ## Keys -/

variable {κ : Type} [DecidableEq κ] {hash : κ → Fin size} {used : Fin size → Option κ}

/-- A slot is free or has the key. -/
def stops (used : Fin size → Option κ) (key : κ) (slot : Fin size) : Bool :=
  used slot = none ∨ used slot = some key

/-- The slot where the look-up of a key ends. -/
def seek (hash : κ → Fin size) (used : Fin size → Option κ) (key : κ) : Option (Fin size) :=
  (probe (stops used key) (hash key)).map (after (hash key))

/-- The look-up of a key that is there ends at its slot. -/
def Reached (hash : κ → Fin size) (used : Fin size → Option κ) : Prop :=
  ∀ slot key, used slot = some key → seek hash used key = some slot

/-- The look-up in steps. -/
theorem seek_eq_some {key : κ} {slot : Fin size} : seek hash used key = some slot ↔
    ∃ steps < size, after (hash key) steps = slot ∧ stops used key slot = true ∧
      ∀ fewer < steps, stops used key (after (hash key) fewer) = false := by
  rw [seek, Option.map_eq_some_iff]
  constructor
  · rintro ⟨steps, found, rfl⟩
    obtain ⟨stopped, few, before⟩ := probe_eq_some.mp found
    exact ⟨steps, few, rfl, stopped, before⟩
  · rintro ⟨steps, few, rfl, stopped, before⟩
    exact ⟨steps, probe_eq_some.mpr ⟨stopped, few, before⟩, rfl⟩

/-- The look-up ends at a slot that is free or has the key. -/
theorem used_of_seek {key : κ} {slot : Fin size} (found : seek hash used key = some slot) :
    used slot = none ∨ used slot = some key := by
  obtain ⟨_, _, _, stopped, _⟩ := seek_eq_some.mp found
  simpa [stops] using stopped

/-- A free slot in the table lets every look-up end. -/
theorem exists_seek {free : Fin size} (empty : used free = none) (key : κ) :
    ∃ slot, seek hash used key = some slot := by
  cases ended : probe (stops used key) (hash key) with
  | none =>
    have passed := probe_eq_none.mp ended free
    simp [stops, empty] at passed
  | some steps => exact ⟨after (hash key) steps, by rw [seek, ended, Option.map_some]⟩

/-- The empty table. -/
theorem reached_empty : Reached hash (fun _ : Fin size => (none : Option κ)) := by
  intro slot key here
  cases here

/-- In a table whose keys are reached no key has two slots. -/
theorem Reached.unique (reached : Reached hash used) {key : κ} {slot other : Fin size}
    (here : used slot = some key) (there : used other = some key) : slot = other := by
  have same := (reached slot key here).symm.trans (reached other key there)
  exact Option.some.inj same

/-- A key put in the free slot where its look-up ends is reached, and so are the others. -/
theorem Reached.insert (reached : Reached hash used) {key : κ} {slot : Fin size}
    (found : seek hash used key = some slot) (free : used slot = none) :
    Reached hash (Function.update used slot (some key)) := by
  -- a slot that a look-up passed before still has another key: only a free slot changes
  have passed : ∀ wanted place, stops used wanted place = false →
      stops (Function.update used slot (some key)) wanted place = false := by
    intro wanted place before
    have other : place ≠ slot := by
      rintro rfl
      simp [stops, free] at before
    simpa only [stops, Function.update_of_ne other] using before
  intro place wanted here
  by_cases same : place = slot
  · subst same
    have itself : key = wanted := by simpa using here
    subst itself
    obtain ⟨steps, few, at_place, -, before⟩ := seek_eq_some.mp found
    have stopped : stops (Function.update used place (some key)) key place = true := by
      simp [stops]
    exact seek_eq_some.mpr ⟨steps, few, at_place, stopped, fun fewer less =>
      passed _ _ (before fewer less)⟩
  · rw [Function.update_of_ne same] at here
    obtain ⟨steps, few, at_place, -, before⟩ := seek_eq_some.mp (reached place wanted here)
    have stopped : stops (Function.update used slot (some key)) wanted place = true := by
      simp [stops, Function.update_of_ne same, here]
    exact seek_eq_some.mpr ⟨steps, few, at_place, stopped, fun fewer less =>
      passed _ _ (before fewer less)⟩

end BoaIpcam.Probing
