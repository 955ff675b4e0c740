import BoaIpcam.Config.Setters
import Mathlib.Tactic.Positivity
import Mathlib.Algebra.Order.Ring.Int

/-!
# Setters store what is written

When a setter hands on the number that is written in the text. The variable that is compared with
the limits holds what is left of the number in 8 or 16 bits, so a number that passes the test may
be another one than the one written; and some tests look at one limit only, or at another
variable.
-/
namespace BoaIpcam

/-- The setters. -/
inductive Setter where
  | numeric (setter : NumericSetter)
  | gio (setter : GioSetter)

namespace Setter

/-- What a setter does. -/
def run : Setter → Config → Bool → List UInt8 → SetResult
  | .numeric setter => setter.run
  | .gio setter => setter.run

/-- The entry, the index and the number to store, as the text says. -/
structure Target where
  /-- The entry and its limits. -/
  range : EntryRange
  /-- The number of the input or output. -/
  index : Int
  /-- The number as it is written. -/
  number : Int

/-- What is written in the text: the number times the factor; for inputs and outputs the number of
the input or output as well. -/
def target (config : Config) (text : List UInt8) : Setter → Option Target
  | .numeric setter =>
    if numericCheck text then
      some ⟨config setter.entry, 0, leadingInt text * setter.scale⟩
    else none
  | .gio setter =>
    (GioSetter.numbers text).map fun (id, number) =>
      ⟨config (setter.entry id.toNat), id, number⟩

end Setter

/-- A setter stores what is written: after OK the number lies within the limits of the entry, all
that was handed on is this number with its index, and if nothing was handed on it is the current
value; after NG nothing is changed, since nothing was handed on or the service failed. -/
def StoresWritten (setter : Setter) (config : Config) (accepted : Bool) (text : List UInt8) :
    Prop :=
  let result := setter.run config accepted text
  (result.reply = .ok → ∃ target, setter.target config text = some target ∧
    target.range.min ≤ target.number ∧ target.number ≤ target.range.max ∧
    (∀ handed ∈ result.handed, (handed.index : Int) = target.index ∧
      (handed.value : Int) = target.number) ∧
    (result.handed = [] → (target.range.value : Int) = target.number)) ∧
  (result.reply = .ng → result.handed = [] ∨ accepted = false) ∧
  (result.reply = .current → result.handed = [])

/-- When a setter stores what is written. If what is left of the number in the variable passes the
test, the number times the factor must fit the variable and lie within the limits; for inputs and
outputs, if the number that is tested does, the number to set must lie within the limits and have
16 bits. -/
def FitsEntry (config : Config) (text : List UInt8) : Setter → Prop
  | .numeric setter =>
    (setter.reads = true → text ≠ []) → numericCheck text = true →
      setter.refuses config (setter.value text) = false →
      leadingInt text * setter.scale < 2 ^ setter.bits ∧
      (config setter.entry).min ≤ leadingInt text * setter.scale ∧
      leadingInt text * setter.scale ≤ (config setter.entry).max
  | .gio setter =>
    ∀ id number, text ≠ [] → GioSetter.numbers text = some (id, number) →
      1 ≤ clampInt id → clampInt id ≤ setter.count →
      ((config (setter.entry id.toNat)).min : Int) ≤
        (if setter.tested then clampInt number else 0) →
      (if setter.tested then clampInt number else 0) ≤ (config (setter.entry id.toNat)).max →
      (config (setter.entry id.toNat)).min ≤ number ∧
      number ≤ (config (setter.entry id.toNat)).max ∧ number < 65536

/-! ## One entry -/

section Numeric

variable {setter : NumericSetter} {config : Config} {accepted : Bool} {text : List UInt8}

/-- A number that fits the variable is the value of the variable. -/
theorem NumericSetter.value_of_fits (numeric : numericCheck text = true)
    (fits : leadingInt text * setter.scale < 2 ^ setter.bits) :
    (setter.value text : Int) = leadingInt text * setter.scale := by
  have factor := setter.positive
  have least : 0 ≤ leadingInt text := by
    rw [leadingInt_of_numeric numeric]
    exact Int.natCast_nonneg _
  have power : (2 : Int) ^ setter.bits ≤ 2 ^ 16 :=
    pow_le_pow_right₀ (by decide) setter.small
  have single : leadingInt text ≤ leadingInt text * setter.scale :=
    le_mul_of_one_le_right least (by omega)
  have read : (narrow setter.bits (atoi text) : Int) = leadingInt text := by
    have int : IsInt (leadingInt text) := by
      unfold IsInt
      omega
    rw [atoi_eq, clampInt_of_isInt int]
    exact narrow_of_fits least (by omega)
  rw [NumericSetter.value, ← read]
  rw [← read] at fits
  exact narrow_of_fits (by positivity) fits

/-- Nothing is handed on when the current value is the value; else it is the value. -/
theorem NumericSetter.handed_cases (setter : NumericSetter) (config : Config) (value : Nat) :
    (setter.handed config value = [] ∧ (config setter.entry).value = value) ∨
    (setter.handed config value ≠ [] ∧
      ∀ handed ∈ setter.handed config value, handed = ⟨0, value⟩) := by
  unfold NumericSetter.handed
  by_cases same : setter.compares = true ∧ (config setter.entry).value = value
  · rw [if_pos same]
    exact .inl ⟨rfl, same.2⟩
  · rw [if_neg same]
    right
    split <;> simp

/-- Handing on is answered OK unless the service fails and the setter looks at it. -/
theorem handOn_cases (checks accepted : Bool) (handed : List Handed) :
    handOn checks accepted handed = ⟨.ok, handed⟩ ∨
      (accepted = false ∧ handOn checks accepted handed = ⟨.ng, handed⟩) := by
  unfold handOn
  split
  · next failed => exact .inr ⟨by simpa using failed.2.2, rfl⟩
  · exact .inl rfl

/-- A setter tells the current value, refuses, or hands on. -/
theorem NumericSetter.run_cases (setter : NumericSetter) (config : Config) (accepted : Bool)
    (text : List UInt8) :
    ((setter.reads = true ∧ text = []) ∧ setter.run config accepted text = ⟨.current, []⟩) ∨
    (¬(setter.reads = true ∧ text = []) ∧
      (numericCheck text = false ∨ setter.refuses config (setter.value text) = true) ∧
      setter.run config accepted text = ⟨.ng, []⟩) ∨
    (¬(setter.reads = true ∧ text = []) ∧ numericCheck text = true ∧
      setter.refuses config (setter.value text) = false ∧
      setter.run config accepted text =
        handOn setter.checks accepted (setter.handed config (setter.value text))) := by
  unfold NumericSetter.run
  by_cases reading : setter.reads = true ∧ text = []
  · exact .inl ⟨reading, by rw [if_pos reading]⟩
  rw [if_neg reading]
  cases numeric : numericCheck text with
  | false => exact .inr (.inl ⟨reading, .inl rfl, by rw [if_pos rfl]⟩)
  | true =>
    rw [if_neg (by simp)]
    cases refused : setter.refuses config (setter.value text) with
    | true => exact .inr (.inl ⟨reading, .inr rfl, by rw [if_pos rfl]⟩)
    | false => exact .inr (.inr ⟨reading, rfl, rfl, by rw [if_neg (by simp)]⟩)

/-- A setter of one entry that meets the condition stores what is written. -/
theorem NumericSetter.stores_of_fits (fits : FitsEntry config text (.numeric setter)) :
    StoresWritten (.numeric setter) config accepted text := by
  unfold StoresWritten
  rcases setter.run_cases config accepted text with
    ⟨-, result⟩ | ⟨-, -, result⟩ | ⟨given, numeric, passed, result⟩
  · simp [Setter.run, result]
  · simp [Setter.run, result]
  · obtain ⟨small, least, most⟩ := fits (fun reads empty => given ⟨reads, empty⟩) numeric passed
    have value := NumericSetter.value_of_fits numeric small
    have handed := setter.handed_cases config (setter.value text)
    simp only [Setter.run, result]
    rcases handOn_cases setter.checks accepted (setter.handed config (setter.value text)) with
      ok | ⟨failed, ng⟩
    · rw [ok]
      refine ⟨fun _ => ?_, by simp, by simp⟩
      refine ⟨_, by rw [Setter.target, if_pos numeric], least, most, ?_, ?_⟩
      · intro item member
        rcases handed with ⟨empty, -⟩ | ⟨-, all⟩
        · rw [empty] at member
          cases member
        · rw [all item member]
          exact ⟨rfl, value⟩
      · intro empty
        rcases handed with ⟨-, same⟩ | ⟨nonempty, -⟩
        · rw [same]
          exact value
        · exact absurd empty nonempty
    · rw [ng]
      exact ⟨by simp, fun _ => .inr failed, by simp⟩

/-- A setter of one entry that stores what is written, when the service accepts it, meets the
condition. -/
theorem NumericSetter.fits_of_stores (stores : StoresWritten (.numeric setter) config true text) :
    FitsEntry config text (.numeric setter) := by
  intro given numeric passed
  rcases setter.run_cases config true text with
    ⟨reading, -⟩ | ⟨-, refused, -⟩ | ⟨-, -, -, result⟩
  · exact absurd reading.2 (given reading.1)
  · rcases refused with letters | refused
    · rw [numeric] at letters
      cases letters
    · rw [passed] at refused
      cases refused
  · have ok : handOn setter.checks true (setter.handed config (setter.value text)) =
        ⟨.ok, setter.handed config (setter.value text)⟩ := by
      rcases handOn_cases setter.checks true (setter.handed config (setter.value text)) with
        ok | ⟨failed, -⟩
      · exact ok
      · cases failed
    unfold StoresWritten at stores
    simp only [Setter.run, result, ok] at stores
    obtain ⟨target, written, least, most, items, kept⟩ := stores.1 trivial
    rw [Setter.target, if_pos numeric] at written
    cases written
    have value : (setter.value text : Int) = leadingInt text * setter.scale := by
      rcases setter.handed_cases config (setter.value text) with ⟨empty, same⟩ | ⟨nonempty, all⟩
      · rw [← same]
        exact kept empty
      · obtain ⟨item, rest, list⟩ := List.exists_cons_of_ne_nil nonempty
        have member : item ∈ setter.handed config (setter.value text) := by simp [list]
        have number := (items item member).2
        rw [all item member] at number
        exact number
    refine ⟨?_, least, most⟩
    rw [← value]
    have below : setter.value text < 2 ^ setter.bits := narrow_lt _ _
    exact_mod_cast below

end Numeric

/-! ## Inputs and outputs -/

section Gio

variable {setter : GioSetter} {config : Config} {accepted : Bool} {text : List UInt8}

/-- Two numbers of 16 bits in one word are taken apart again. -/
theorem GioSetter.handedWord_eq {id number : Int} (first : 0 ≤ id) (last : id < 65536)
    (positive : 0 ≤ number) (small : number < 65536) :
    ((GioSetter.handedWord id number).index : Int) = id ∧
      ((GioSetter.handedWord id number).value : Int) = number := by
  have upper : (narrow 32 id : Int) = id := narrow_of_fits first (by omega)
  have lower : (narrow 32 number : Int) = number := narrow_of_fits positive (by omega)
  have shifted : (narrow 32 id <<< 16) % 4294967296 = 2 ^ 16 * narrow 32 id := by
    rw [Nat.shiftLeft_eq]
    omega
  have word : (2 ^ 16 * narrow 32 id ||| narrow 32 number) =
      2 ^ 16 * narrow 32 id + narrow 32 number :=
    (Nat.two_pow_add_eq_or_of_lt (by omega) _).symm
  simp only [GioSetter.handedWord, shifted, word]
  constructor <;> omega

/-- The lower half of the word is the value. -/
theorem GioSetter.handedWord_value_lt (id number : Int) :
    (GioSetter.handedWord id number).value < 65536 := Nat.mod_lt _ (by decide)

/-- A setter tells the current value, refuses, or hands on. -/
theorem GioSetter.run_cases (setter : GioSetter) (config : Config) (accepted : Bool)
    (text : List UInt8) :
    (text = [] ∧ setter.run config accepted text = ⟨.current, []⟩) ∨
    (setter.run config accepted text = ⟨.ng, []⟩ ∧ ∀ id number, text ≠ [] →
      GioSetter.numbers text = some (id, number) → 1 ≤ clampInt id → clampInt id ≤ setter.count →
      ((config (setter.entry id.toNat)).min : Int) ≤
        (if setter.tested then clampInt number else 0) →
      (if setter.tested then clampInt number else 0) ≤ (config (setter.entry id.toNat)).max →
      False) ∨
    (text ≠ [] ∧ ∃ id number, GioSetter.numbers text = some (id, number) ∧
      1 ≤ id ∧ id ≤ setter.count ∧
      ((config (setter.entry id.toNat)).min : Int) ≤
        (if setter.tested then clampInt number else 0) ∧
      (if setter.tested then clampInt number else 0) ≤ (config (setter.entry id.toNat)).max ∧
      setter.run config accepted text = handOn true accepted
        (if (config (setter.entry id.toNat)).value = clampInt number then []
          else [GioSetter.handedWord id (clampInt number)])) := by
  have bound := setter.small
  unfold GioSetter.run
  by_cases empty : text = []
  · exact .inl ⟨empty, by rw [if_pos empty]⟩
  rw [if_neg empty]
  cases read : GioSetter.numbers text with
  | none => exact .inr (.inl ⟨rfl, by simp⟩)
  | some pair =>
    obtain ⟨id, number⟩ := pair
    dsimp only
    by_cases outside : clampInt id < 1 ∨ setter.count < clampInt id
    · refine .inr (.inl ⟨by rw [if_pos outside], ?_⟩)
      intro id' number' _ same least most
      cases same
      omega
    have plain : clampInt id = id := by
      unfold clampInt at outside ⊢
      omega
    rw [if_neg outside, plain]
    by_cases refused : (if setter.tested then clampInt number else 0) <
          ((config (setter.entry id.toNat)).min : Int) ∨
        ((config (setter.entry id.toNat)).max : Int) <
          (if setter.tested then clampInt number else 0)
    · refine .inr (.inl ⟨by rw [if_pos refused], ?_⟩)
      intro id' number' _ same _ _ least most
      cases same
      omega
    · rw [if_neg refused]
      rw [plain] at outside
      exact .inr (.inr ⟨empty, id, number, rfl, by omega, by omega, by omega, by omega, rfl⟩)

/-- A setter of inputs or outputs that meets the condition stores what is written. -/
theorem GioSetter.stores_of_fits (fits : FitsEntry config text (.gio setter)) :
    StoresWritten (.gio setter) config accepted text := by
  have bound := setter.small
  unfold StoresWritten
  rcases setter.run_cases config accepted text with
    ⟨-, result⟩ | ⟨result, -⟩ | ⟨given, id, number, read, first, last, least, most, result⟩
  · simp [Setter.run, result]
  · simp [Setter.run, result]
  · have plain : clampInt id = id := clampInt_of_isInt (by unfold IsInt; omega)
    obtain ⟨above, below, small⟩ := fits id number given read (by omega) (by omega) least most
    have positive : 0 ≤ number := (Int.natCast_nonneg _).trans above
    have same : clampInt number = number := clampInt_of_isInt (by unfold IsInt; omega)
    rw [same] at result
    simp only [Setter.run, result]
    rcases handOn_cases true accepted (if (config (setter.entry id.toNat)).value = number then []
        else [GioSetter.handedWord id number]) with ok | ⟨failed, ng⟩
    · rw [ok]
      refine ⟨fun _ => ?_, by simp, by simp⟩
      refine ⟨_, by rw [Setter.target, read, Option.map_some], above, below, ?_, ?_⟩
      · intro item member
        by_cases current : (config (setter.entry id.toNat)).value = number
        · rw [if_pos current] at member
          cases member
        · rw [if_neg current, List.mem_singleton] at member
          rw [member]
          exact GioSetter.handedWord_eq (by omega) (by omega) positive small
      · intro empty
        by_contra other
        rw [if_neg other] at empty
        cases empty
    · rw [ng]
      exact ⟨by simp, fun _ => .inr failed, by simp⟩

/-- A setter of inputs or outputs that stores what is written, when the service accepts it, meets
the condition. -/
theorem GioSetter.fits_of_stores (stores : StoresWritten (.gio setter) config true text) :
    FitsEntry config text (.gio setter) := by
  intro id number given read first last least most
  rcases setter.run_cases config true text with
    ⟨empty, -⟩ | ⟨-, refused⟩ | ⟨-, id', number', read', -, -, -, -, result⟩
  · exact absurd empty given
  · exact (refused id number given read first last least most).elim
  · rw [read] at read'
    cases read'
    unfold StoresWritten at stores
    rw [Setter.run, result, handOn, if_neg (by simp)] at stores
    obtain ⟨target, written, above, below, items, kept⟩ := stores.1 rfl
    rw [Setter.target, read] at written
    cases written
    refine ⟨above, below, ?_⟩
    by_cases current : (config (setter.entry id.toNat)).value = clampInt number
    · have value := kept (if_pos current)
      have small := (config (setter.entry id.toNat)).small
      change ((config (setter.entry id.toNat)).value : Int) = number at value
      omega
    · have value := (items (GioSetter.handedWord id (clampInt number))
        (by simp [if_neg current])).2
      have small := GioSetter.handedWord_value_lt id (clampInt number)
      change ((GioSetter.handedWord id (clampInt number)).value : Int) = number at value
      omega

end Gio

/-! ## All setters -/

/-- A setter stores what is written, whatever the service does, exactly when the value that passes
its test is the number written and lies within the limits of the entry. -/
theorem setter_stores_written_iff (setter : Setter) (config : Config) (text : List UInt8) :
    (∀ accepted, StoresWritten setter config accepted text) ↔ FitsEntry config text setter := by
  cases setter with
  | numeric setter =>
    exact ⟨fun stores => NumericSetter.fits_of_stores (stores true),
      fun fits accepted => NumericSetter.stores_of_fits fits⟩
  | gio setter =>
    exact ⟨fun stores => GioSetter.fits_of_stores (stores true),
      fun fits accepted => GioSetter.stores_of_fits fits⟩

/-- A configuration in which every entry has the same limits and the value 1. -/
def evenConfig (max : Nat) : Config := fun _ => ⟨0, max, 1, by decide⟩

/-- With the factor 29 the brightness 9 is handed on as 5; 65536 is handed on as 0; and the type
of an input is not compared with its limit 1. -/
theorem setter_stores_other :
    ¬StoresWritten (.numeric (setBrightness true)) (evenConfig 255) true (ascii "9") ∧
    ¬StoresWritten (.numeric setMotioncvalue) (evenConfig 65535) true (ascii "65536") ∧
    ¬StoresWritten (.gio (setGiointype 1 (by decide) (by decide))) (evenConfig 1) true
      (ascii "1:7") := by
  refine ⟨fun stores => ?_, fun stores => ?_, fun stores => ?_⟩
  · have fits := NumericSetter.fits_of_stores stores (by decide) (by decide) (by decide)
    exact absurd fits.1 (by decide)
  · have fits := NumericSetter.fits_of_stores stores (by decide) (by decide) (by decide)
    exact absurd fits.1 (by decide)
  · have fits := GioSetter.fits_of_stores stores 1 7 (by decide) (by decide) (by decide) (by decide)
      (by decide) (by decide)
    exact absurd fits.2.1 (by decide)

end BoaIpcam
