import BoaIpcam.Numeral
import BoaIpcam.Lib.Run
import BoaIpcam.Lib.Tables
import Mathlib.Data.List.Infix

/-!
# Presets and the home position of a VISCA camera

The handlers of `request.c` keep a table of preset texts, each a number and a name. The home
position is marked twice: the text of its preset ends in `(H)`, and two more entries tell whether
there is one and its number. A preset that is not set has the name `nonsetting`.
-/
namespace BoaIpcam.Visca

open TransitionSystem

/-! ## Texts of presets -/

/-- `strstr`: where the first occurrence starts. -/
def strstr (needle : List UInt8) : List UInt8 → Option Nat
  | [] => if needle = [] then some 0 else none
  | c :: rest =>
    if needle.isPrefixOf (c :: rest) then some 0 else (strstr needle rest).map (· + 1)

/-- The text of a preset, with the format `%d-%s`. -/
def presetText (number : Int) (name : List UInt8) : List UInt8 := intText number ++ 45 :: name

/-- The variables `tmp` and `string_cmp`. -/
structure Scratch where
  /-- The number. -/
  tmp : Int
  /-- The name. -/
  stringCmp : List UInt8
deriving DecidableEq, Repr

/-- The variables after `sscanf` with the format `%d-%s`; what is not read stays. -/
def Scratch.scan (before : Scratch) (text : List UInt8) : Scratch :=
  match scanInt text with
  | none => before
  | some (tmp, rest) =>
    match scanChar 45 rest with
    | none => { before with tmp := tmp }
    | some rest => ⟨tmp, (scanWord rest).getD before.stringCmp⟩

/-- The mark of the home position. -/
def homeMark : List UInt8 := ascii "(H)"

/-- The name of a preset that is not set. -/
def nonsetting : List UInt8 := ascii "nonsetting"

/-! ## The handlers -/

/-- The entries from `VISCA_PRESET_ID01` on, `VISCA_HOME_NUMBER` and `VISCA_HOME_POSITION`. -/
structure Presets where
  /-- The texts of the presets. -/
  text : Int → List UInt8
  /-- `VISCA_HOME_NUMBER`. -/
  homeNumber : Nat
  /-- `VISCA_HOME_POSITION`. -/
  homePosition : Nat

/-- What the camera does: whether the line opens and it stops its tour, and whether it takes the
preset or the line closes. -/
structure Serial where
  /-- The line opens and the tour stops. -/
  ready : Bool
  /-- The camera takes the preset, or the line closes. -/
  done : Bool

/-- What a handler leads to. A handler crashes when it uses the answer NULL of `strstr`. -/
structure Outcome where
  /-- The presets that are left. -/
  presets : Presets
  /-- The result. -/
  code : Int := 0
  /-- Whether NULL was used. -/
  crashed : Bool := false

section Handlers

variable (maxViscapreset : Nat) (presets : Presets)

/-- `viscapreset_add`. -/
def viscapresetAdd (index : Int) (name : List UInt8) (serial : Serial) : Outcome :=
  if ¬serial.ready then { presets := presets, code := 1 }
  else if ∃ i < maxViscapreset, (Scratch.scan ⟨0, []⟩ (presets.text (i : Nat))).stringCmp = name then
    { presets := presets, code := 2 }
  else
    let text := presetText (index + 1) name
    { presets := { presets with text := Function.update presets.text index text }
      code := if serial.done then 0 else 1 }

/-- `viscapreset_del`; the file of the sequences says whether the preset is used. The variables are
not set at first. -/
def viscapresetDel (index : Int) (used : Bool) (serial : Serial) (stack : Scratch) : Outcome :=
  if used then { presets := presets, code := 1 }
  else if ¬serial.ready then { presets := presets, code := -1 }
  else
    let scanned := stack.scan (presets.text index)
    let presets :=
      if strstr homeMark scanned.stringCmp ≠ none then
        { presets with homeNumber := 0, homePosition := 0 }
      else presets
    let text := presetText scanned.tmp nonsetting
    { presets := { presets with text := Function.update presets.text index text }
      code := if serial.done then 0 else -1 }

/-- `viscahome_set`. The marked text is cut to 31 characters. -/
def viscahomeSet (num : List UInt8) (stack : Scratch) : Outcome :=
  let value : Int := narrow 16 (atoi num - 1)
  if (stack.scan (presets.text value)).stringCmp = nonsetting then { presets := presets }
  else if presets.homePosition ≠ 0 then { presets := presets }
  else
    let text := (presets.text value ++ homeMark).take 31
    { presets :=
        { text := Function.update presets.text value text
          homeNumber := narrow 16 (value + 1)
          homePosition := 1 } }

/-- `viscahome_reset`. -/
def viscahomeReset (stack : Scratch) : Outcome :=
  if presets.homePosition ≠ 0 then
    let homeVal : Int := presets.homeNumber - 1
    let scanned := stack.scan (presets.text homeVal)
    match strstr homeMark scanned.stringCmp with
    | none => { presets := presets, crashed := true }
    | some diff =>
      let text := presetText scanned.tmp (scanned.stringCmp.take diff)
      { presets :=
          { text := Function.update presets.text homeVal text, homeNumber := 0, homePosition := 0 } }
  else { presets := { presets with homeNumber := 0, homePosition := 0 } }

/-- `serach_visca_presetid`: the number in the first text with the name, or −1. -/
def serachViscaPresetid (name : List UInt8) : Scratch → List Nat → Int
  | _, [] => -1
  | before, i :: rest =>
    let scanned := before.scan (presets.text i)
    if scanned.stringCmp = name then scanned.tmp else serachViscaPresetid name scanned rest

/-- `serach_visca_empty_presetid`. -/
def serachViscaEmptyPresetid (stack : Scratch) (slots : List Nat) : Int :=
  serachViscaPresetid presets nonsetting stack slots

/-- A call of a handler; the last two are those of `uri_ptz_preset`. -/
inductive ViscaCall where
  | add (index : Int) (name : List UInt8) (serial : Serial)
  | del (index : Int) (used : Bool) (serial : Serial) (stack : Scratch)
  | homeSet (num : List UInt8) (stack : Scratch)
  | homeReset (stack : Scratch)
  | ptzAdd (name : List UInt8) (serial : Serial) (stack : Scratch)
  | ptzDel (name : List UInt8) (used : Bool) (serial : Serial) (stack : Scratch)

/-- What a call does. -/
def ViscaCall.run : ViscaCall → Outcome
  | .add index name serial => viscapresetAdd maxViscapreset presets index name serial
  | .del index used serial stack => viscapresetDel presets index used serial stack
  | .homeSet num stack => viscahomeSet presets num stack
  | .homeReset stack => viscahomeReset presets stack
  | .ptzAdd name serial stack =>
    let index := serachViscaEmptyPresetid presets stack (List.range maxViscapreset) - 1
    viscapresetAdd maxViscapreset presets index name serial
  | .ptzDel name used serial stack =>
    let index := serachViscaPresetid presets name stack (List.range maxViscapreset) - 1
    viscapresetDel presets index used serial stack

end Handlers

/-! ## What is asked -/

/-- The name that is read of a slot. -/
def Presets.nameIn (presets : Presets) (i : Int) : List UInt8 :=
  (Scratch.scan ⟨0, []⟩ (presets.text i)).stringCmp

/-- The home position is set exactly when one text has the mark and its number is the home
number. -/
def MarkedOnce (maxViscapreset : Nat) (presets : Presets) : Prop :=
  presets.homePosition = 1 ↔
    ∃ i < maxViscapreset, homeMark <:+ presets.text i ∧
      (∀ j < maxViscapreset, homeMark <:+ presets.text j → j = i) ∧ presets.homeNumber = i + 1

/-- The presets and the text that the home preset had when it was marked. -/
structure Traced where
  /-- The presets. -/
  presets : Presets
  /-- The text before the mark. -/
  unmarked : List UInt8

/-- The traced presets after a call. -/
def Traced.step (maxViscapreset : Nat) (s : Traced) (call : ViscaCall) : Traced :=
  let next := (call.run maxViscapreset s.presets).presets
  ⟨next, if s.presets.homePosition = 0 ∧ next.homePosition ≠ 0 then
      s.presets.text (next.homeNumber - 1)
    else s.unmarked⟩

/-- What is asked of a call: the home position stays marked once, no other entry is written,
`strstr` finds the mark, and a reset gives the home preset the text that it had. -/
structure Kept (maxViscapreset : Nat) (s : Traced) (call : ViscaCall) : Prop where
  /-- The home position is marked once. -/
  marked : MarkedOnce maxViscapreset (call.run maxViscapreset s.presets).presets
  /-- Other entries stay. -/
  outside : ∀ k : Int, k < 0 ∨ maxViscapreset ≤ k →
    (call.run maxViscapreset s.presets).presets.text k = s.presets.text k
  /-- The mark is found. -/
  found : (call.run maxViscapreset s.presets).crashed = false
  /-- A reset takes the mark away. -/
  restored : ∀ stack, call = .homeReset stack → s.presets.homePosition ≠ 0 →
    (call.run maxViscapreset s.presets).presets.text (s.presets.homeNumber - 1) = s.unmarked

/-- The presets of a camera on which none is set. -/
def Presets.Unset (maxViscapreset : Nat) (presets : Presets) : Prop :=
  (∀ i < maxViscapreset, presets.text (i : Nat) = presetText (i + 1) nonsetting) ∧
    presets.homeNumber = 0 ∧ presets.homePosition = 0

/-! ## When it is kept -/

/-- A name that can be marked: it is not empty, has no white space and not the mark. -/
structure Plain (name : List UInt8) : Prop where
  /-- The name has no white space. -/
  solid : Solid name
  /-- There is a name. -/
  nonempty : name ≠ []
  /-- The mark is not in it. -/
  unmarked : ¬homeMark <:+: name

/-- A preset is written: the line opens and no preset has the name. -/
def Writes (maxViscapreset : Nat) (presets : Presets) (name : List UInt8) (serial : Serial) :
    Prop :=
  serial.ready = true ∧ ∀ i < maxViscapreset, presets.nameIn (i : Nat) ≠ name

/-- When a call keeps the presets. A name that is written must be plain, the slot must be one of
the table and not the home position; a deletion must be of a slot of the table; and a preset that
is marked must be one of the table with a text that leaves room for the mark. By name, an addition
needs a slot that is not set and a deletion a preset with the name. -/
def Meets (maxViscapreset : Nat) (presets : Presets) : ViscaCall → Prop
  | .add index name serial => Writes maxViscapreset presets name serial →
    Plain name ∧ 0 ≤ index ∧ index < maxViscapreset ∧
      ¬(presets.homePosition ≠ 0 ∧ presets.homeNumber = index + 1)
  | .del index used serial _ => used = false → serial.ready = true →
    0 ≤ index ∧ index < maxViscapreset
  | .homeSet num stack => presets.homePosition = 0 →
    (stack.scan (presets.text (narrow 16 (atoi num - 1)))).stringCmp ≠ nonsetting →
      (1 ≤ atoi num ∧ atoi num ≤ maxViscapreset) ∧
        (presets.text (atoi num - 1)).length + homeMark.length ≤ 31
  | .homeReset _ => True
  | .ptzAdd name serial _ => Writes maxViscapreset presets name serial →
    Plain name ∧ ∃ i < maxViscapreset, presets.nameIn (i : Nat) = nonsetting
  | .ptzDel name used serial _ => used = false → serial.ready = true →
    ∃ i < maxViscapreset, presets.nameIn (i : Nat) = name

/-! ## Marks in names -/

/-- `strstr` finds nothing exactly when the text does not contain what it looks for. -/
theorem strstr_eq_none {needle text : List UInt8} (nonempty : needle ≠ []) :
    strstr needle text = none ↔ ¬needle <:+: text := by
  induction text with
  | nil => simp [strstr, nonempty, List.infix_nil]
  | cons c rest ih =>
    unfold strstr
    by_cases here : needle.isPrefixOf (c :: rest)
    · have start : needle <+: c :: rest := List.isPrefixOf_iff_prefix.mp here
      simp [here, start.isInfix]
    · have start : ¬needle <+: c :: rest := fun start => here (List.isPrefixOf_iff_prefix.mpr start)
      rw [if_neg here, Option.map_eq_none_iff, ih, List.infix_cons_iff]
      simp [start]

/-- In a marked name `strstr` finds the mark at the end. -/
theorem strstr_marked {name : List UInt8} (plain : ¬homeMark <:+: name) :
    strstr homeMark (name ++ homeMark) = some name.length := by
  induction name with
  | nil => rfl
  | cons c rest ih =>
    have others : ¬homeMark <:+: rest := fun inside => plain (List.infix_cons inside)
    have start : ¬homeMark.isPrefixOf (c :: rest ++ homeMark) := by
      intro start
      have start := List.isPrefixOf_iff_prefix.mp start
      -- The mark does not overlap with itself, so it would start in the name.
      match rest with
      | [] => simp [homeMark, ascii, List.cons_prefix_cons] at start
      | [d] => simp [homeMark, ascii, List.cons_prefix_cons] at start
      | d :: e :: rest =>
        simp only [homeMark, ascii] at start plain
        simp [List.cons_prefix_cons] at start
        refine plain (List.IsPrefix.isInfix ?_)
        simp [List.cons_prefix_cons, start]
    rw [List.cons_append, strstr, if_neg (by simpa using start), ih others]
    rfl

/-- The text of a preset is read as it was written. -/
theorem scan_presetText {number : Int} {name : List UInt8} (int : IsInt number)
    (solid : Solid name) (nonempty : name ≠ []) (before : Scratch) :
    before.scan (presetText number name) = ⟨number, name⟩ := by
  have dash : NoDigit (45 :: name) := by
    intro c first
    cases first
    rfl
  have mark : scanChar 45 (45 :: name) = some name := rfl
  rw [Scratch.scan, presetText, scanInt_intText int dash]
  simp only [mark, scanWord_solid solid, if_neg nonempty, Option.getD_some]

/-- A marked name can be read. -/
theorem Plain.solid_marked {name : List UInt8} (plain : Plain name) : Solid (name ++ homeMark) := by
  have mark : Solid homeMark := by decide
  intro c member
  rcases List.mem_append.mp member with old | last
  · exact plain.solid c old
  · exact mark c last

/-- The text of a preset ends in the mark exactly when the name does. -/
theorem mark_suffix_presetText (number : Int) (name : List UInt8) :
    homeMark <:+ presetText number name ↔ homeMark <:+ name := by
  have dash : (45 : UInt8) ∉ homeMark := by decide
  constructor
  · intro suffix
    have behind : 45 :: name <:+ presetText number name := List.suffix_append _ _
    have inside : homeMark <:+ 45 :: name := by
      rcases List.suffix_or_suffix_of_suffix suffix behind with short | long
      · exact short
      · exact absurd (long.subset List.mem_cons_self) dash
    rcases List.suffix_cons_iff.mp inside with same | short
    · rw [same] at dash
      exact absurd List.mem_cons_self dash
    · exact short
  · intro suffix
    exact suffix.trans ((List.suffix_cons 45 name).trans (List.suffix_append _ _))

/-! ## The invariant -/

/-- The slot of the home position. -/
def Presets.IsHome (presets : Presets) (i : Nat) : Prop :=
  presets.homePosition ≠ 0 ∧ presets.homeNumber = i + 1

instance (presets : Presets) (i : Nat) : Decidable (presets.IsHome i) :=
  inferInstanceAs (Decidable (_ ∧ _))

/-- A name in its slot, with the mark in that of the home position. -/
def Presets.slotName (presets : Presets) (i : Nat) (name : List UInt8) : List UInt8 :=
  if presets.IsHome i then name ++ homeMark else name

/-- Every slot has the text of a plain name, with the mark in that of the home position, and the
home preset had the text without the mark when it was marked. -/
structure Held (maxViscapreset : Nat) (s : Traced) : Prop where
  /-- A slot has the text of a plain name. -/
  slot : ∀ i < maxViscapreset, ∃ name, Plain name ∧
    s.presets.text i = presetText (i + 1) (s.presets.slotName i name)
  /-- The home position is marked, or there is none. -/
  home : s.presets.homePosition = 0 ∧ s.presets.homeNumber = 0 ∨
    s.presets.homePosition = 1 ∧ ∃ i < maxViscapreset, s.presets.homeNumber = i + 1 ∧
      s.presets.text i = s.unmarked ++ homeMark

section Slots

variable {maxViscapreset : Nat} {s : Traced} {i : Nat} {name : List UInt8}

/-- A name in its slot can be read. -/
theorem Plain.slotName (plain : Plain name) (presets : Presets) (i : Nat) :
    Solid (presets.slotName i name) ∧ presets.slotName i name ≠ [] := by
  unfold Presets.slotName
  split
  · exact ⟨plain.solid_marked, List.append_ne_nil_of_left_ne_nil plain.nonempty _⟩
  · exact ⟨plain.solid, plain.nonempty⟩

/-- The text of a slot is read as it was written. -/
theorem Plain.scan_slot (small : maxViscapreset < 65536) (inside : i < maxViscapreset)
    (plain : Plain name) (presets : Presets) (before : Scratch) :
    before.scan (presetText (i + 1) (presets.slotName i name)) =
      ⟨i + 1, presets.slotName i name⟩ := by
  have int : IsInt (i + 1 : Int) := by
    unfold IsInt
    omega
  obtain ⟨solid, nonempty⟩ := plain.slotName presets i
  exact scan_presetText int solid nonempty before

/-- The text of a slot ends in the mark exactly in the home position. -/
theorem Plain.mark_iff (plain : Plain name) (presets : Presets) (i : Nat) (number : Int) :
    homeMark <:+ presetText number (presets.slotName i name) ↔ presets.IsHome i := by
  rw [mark_suffix_presetText]
  unfold Presets.slotName
  by_cases home : presets.IsHome i
  · rw [if_pos home]
    exact iff_of_true (List.suffix_append _ _) home
  · rw [if_neg home]
    exact iff_of_false (fun suffix => plain.unmarked suffix.isInfix) home

/-- Then the home position is marked once. -/
theorem Held.markedOnce (held : Held maxViscapreset s) : MarkedOnce maxViscapreset s.presets := by
  have marked : ∀ j < maxViscapreset, homeMark <:+ s.presets.text j ↔ s.presets.IsHome j := by
    intro j inside
    obtain ⟨name, plain, text⟩ := held.slot j inside
    rw [text]
    exact plain.mark_iff _ _ _
  constructor
  · intro set
    rcases held.home with ⟨none, -⟩ | ⟨-, i, inside, number, -⟩
    · omega
    · refine ⟨i, inside, (marked i inside).mpr ⟨by omega, number⟩, fun j inside' suffix => ?_,
        number⟩
      have other := ((marked j inside').mp suffix).2
      omega
  · rintro ⟨i, inside, -, -, number⟩
    rcases held.home with ⟨-, none⟩ | ⟨set, -⟩
    · omega
    · exact set

/-- A plain name is written to a slot that is not the home position. -/
theorem Held.write (held : Held maxViscapreset s) (plain : Plain name)
    (other : ¬s.presets.IsHome i) :
    Held maxViscapreset
      ⟨{ s.presets with text := Function.update s.presets.text i (presetText (i + 1) name) },
        s.unmarked⟩ := by
  refine ⟨fun k inside => ?_, ?_⟩
  · by_cases here : k = i
    · refine ⟨name, plain, ?_⟩
      have same : s.presets.slotName k name = name := by
        rw [here]
        exact if_neg other
      dsimp only
      rw [Tables.update_slot, if_pos here]
      change _ = presetText (k + 1) (s.presets.slotName k name)
      rw [same, here]
    · dsimp only
      rw [Tables.update_slot, if_neg here]
      exact held.slot k inside
  · rcases held.home with none | ⟨set, j, inside, number, text⟩
    · exact .inl none
    · refine .inr ⟨set, j, inside, number, ?_⟩
      have apart : j ≠ i := by
        rintro rfl
        exact other ⟨by omega, number⟩
      dsimp only
      rw [Tables.update_slot, if_neg apart]
      exact text

/-- The home position is taken away, and its slot gets a plain name. -/
theorem Held.unmark (held : Held maxViscapreset s) (plain : Plain name)
    (home : s.presets.IsHome i) (unmarked : List UInt8) :
    Held maxViscapreset
      ⟨⟨Function.update s.presets.text i (presetText (i + 1) name), 0, 0⟩, unmarked⟩ := by
  have none : ∀ (text : Int → List UInt8) k name, (Presets.mk text 0 0).slotName k name = name :=
    fun text k name => if_neg fun home => home.1 rfl
  refine ⟨fun k inside => ?_, .inl ⟨rfl, rfl⟩⟩
  by_cases here : k = i
  · refine ⟨name, plain, ?_⟩
    dsimp only
    rw [Tables.update_slot, if_pos here, none, here]
  · obtain ⟨old, oldPlain, text⟩ := held.slot k inside
    have other : ¬s.presets.IsHome k := fun home' => here (by
      have numbers := home.2.symm.trans home'.2
      omega)
    refine ⟨old, oldPlain, ?_⟩
    dsimp only
    rw [Tables.update_slot, if_neg here, none, text]
    exact congrArg _ (if_neg other)

/-- A slot is marked when there is no home position. -/
theorem Held.mark (held : Held maxViscapreset s) (inside : i < maxViscapreset)
    (none : s.presets.homePosition = 0) :
    Held maxViscapreset
      ⟨⟨Function.update s.presets.text i (s.presets.text i ++ homeMark), i + 1, 1⟩,
        s.presets.text i⟩ := by
  refine ⟨fun k below => ?_, .inr ⟨rfl, i, inside, rfl, ?_⟩⟩
  · obtain ⟨name, plain, text⟩ := held.slot k below
    have plainName : s.presets.slotName k name = name := if_neg fun home => home.1 none
    rw [plainName] at text
    refine ⟨name, plain, ?_⟩
    by_cases here : k = i
    · subst here
      have marked : ∀ table : Int → List UInt8,
          (Presets.mk table (k + 1) 1).slotName k name = name ++ homeMark :=
        fun table => if_pos ⟨Nat.one_ne_zero, rfl⟩
      dsimp only
      rw [Tables.update_slot, if_pos rfl, text, marked, presetText, presetText, List.append_assoc,
        List.cons_append]
    · have other : ∀ table : Int → List UInt8,
          (Presets.mk table (i + 1) 1).slotName k name = name := by
        intro table
        refine if_neg fun home => here ?_
        have numbers := home.2
        simp only at numbers
        omega
      dsimp only
      rw [Tables.update_slot, if_neg here, text, other]
  · dsimp only
    rw [Tables.update_slot, if_pos rfl]

end Slots

/-! ## The calls -/

section Calls

variable {maxViscapreset : Nat} {s : Traced}

/-- The name that is read of a slot is the one in the slot. -/
theorem Held.nameIn (held : Held maxViscapreset s) (small : maxViscapreset < 65536) {i : Nat}
    (inside : i < maxViscapreset) :
    ∃ name, Plain name ∧ s.presets.nameIn i = s.presets.slotName i name ∧
      ∀ before : Scratch, before.scan (s.presets.text i) = ⟨i + 1, s.presets.nameIn i⟩ := by
  obtain ⟨name, plain, text⟩ := held.slot i inside
  have scanned := plain.scan_slot small inside s.presets
  have read : s.presets.nameIn i = s.presets.slotName i name := by
    rw [Presets.nameIn, text, scanned]
  refine ⟨name, plain, read, fun before => ?_⟩
  rw [read, text, scanned]

/-- The slot of the home position has the mark in its name. -/
theorem Held.strstr_nameIn (held : Held maxViscapreset s) (small : maxViscapreset < 65536) {i : Nat}
    (inside : i < maxViscapreset) :
    strstr homeMark (s.presets.nameIn i) = none ↔ ¬s.presets.IsHome i := by
  obtain ⟨name, plain, read, -⟩ := held.nameIn small inside
  have nonempty : homeMark ≠ [] := by decide
  rw [read, strstr_eq_none nonempty]
  unfold Presets.slotName
  by_cases home : s.presets.IsHome i
  · rw [if_pos home]
    exact iff_of_false (fun none => none (List.suffix_append _ _).isInfix) (fun none => none home)
  · rw [if_neg home]
    exact iff_of_true plain.unmarked home

/-- An addition that writes. -/
theorem viscapresetAdd_writes {presets : Presets} {index : Int} {name : List UInt8}
    {serial : Serial} (writes : Writes maxViscapreset presets name serial) :
    viscapresetAdd maxViscapreset presets index name serial =
      { presets := { presets with
          text := Function.update presets.text index (presetText (index + 1) name) }
        code := if serial.done then 0 else 1 } := by
  have fresh : ¬∃ i < maxViscapreset,
      (Scratch.scan ⟨0, []⟩ (presets.text (i : Nat))).stringCmp = name :=
    fun ⟨i, inside, same⟩ => writes.2 i inside same
  rw [viscapresetAdd, if_neg (by simp [writes.1]), if_neg fresh]

/-- An addition that does not write changes nothing. -/
theorem viscapresetAdd_same {presets : Presets} {index : Int} {name : List UInt8}
    {serial : Serial} (writes : ¬Writes maxViscapreset presets name serial) :
    (viscapresetAdd maxViscapreset presets index name serial).presets = presets ∧
      (viscapresetAdd maxViscapreset presets index name serial).crashed = false := by
  unfold viscapresetAdd
  by_cases ready : serial.ready = true
  · have taken : ∃ i < maxViscapreset,
        (Scratch.scan ⟨0, []⟩ (presets.text (i : Nat))).stringCmp = name := by
      by_contra fresh
      exact writes ⟨ready, fun i inside same => fresh ⟨i, inside, same⟩⟩
    rw [if_neg (by simp [ready]), if_pos taken]
    exact ⟨rfl, rfl⟩
  · rw [if_pos (by simpa using ready)]
    exact ⟨rfl, rfl⟩

/-- A call that marks no preset leaves what is traced of the home position. -/
theorem step_of_run {call : ViscaCall} {next : Presets}
    (run : (call.run maxViscapreset s.presets).presets = next)
    (marks : next.homePosition ≠ 0 → s.presets.homePosition ≠ 0) :
    s.step maxViscapreset call = ⟨next, s.unmarked⟩ := by
  rw [Traced.step, run, if_neg (fun both => marks both.2 both.1)]

/-- A call that changes nothing is kept. -/
theorem kept_of_same {call : ViscaCall} (held : Held maxViscapreset s)
    (same : (call.run maxViscapreset s.presets).presets = s.presets)
    (found : (call.run maxViscapreset s.presets).crashed = false)
    (other : ∀ stack, call ≠ .homeReset stack) :
    Kept maxViscapreset s call ∧ Held maxViscapreset (s.step maxViscapreset call) := by
  have step : s.step maxViscapreset call = s := step_of_run same id
  refine ⟨⟨?_, fun k _ => by rw [same], found, fun stack reset => absurd reset (other stack)⟩, ?_⟩
  · rw [same]
    exact held.markedOnce
  · rw [step]
    exact held

/-- A call that writes the text of a slot is kept when the slots hold. -/
theorem kept_of_write {call : ViscaCall} {i : Nat} {text : List UInt8} {next : Presets}
    (inside : i < maxViscapreset) (run : (call.run maxViscapreset s.presets).presets = next)
    (written : next.text = Function.update s.presets.text i text)
    (held : Held maxViscapreset (s.step maxViscapreset call))
    (found : (call.run maxViscapreset s.presets).crashed = false)
    (restored : ∀ stack, call = .homeReset stack → s.presets.homePosition ≠ 0 →
      next.text (s.presets.homeNumber - 1) = s.unmarked) :
    Kept maxViscapreset s call ∧ Held maxViscapreset (s.step maxViscapreset call) := by
  refine ⟨⟨?_, fun k out => ?_, found, ?_⟩, held⟩
  · have marked := held.markedOnce
    rwa [Traced.step] at marked
  · rw [run, written, Function.update_of_ne (by omega)]
  · rw [run]
    exact restored

/-- A plain name is written to a slot that is not the home position. -/
theorem add_kept {call : ViscaCall} {i : Nat} {name : List UInt8} {serial : Serial}
    (held : Held maxViscapreset s) (inside : i < maxViscapreset) (plain : Plain name)
    (other : ¬s.presets.IsHome i) (writes : Writes maxViscapreset s.presets name serial)
    (run : call.run maxViscapreset s.presets =
      viscapresetAdd maxViscapreset s.presets i name serial)
    (add : ∀ stack, call ≠ .homeReset stack) :
    Kept maxViscapreset s call ∧ Held maxViscapreset (s.step maxViscapreset call) := by
  have result := run.trans (viscapresetAdd_writes writes)
  refine kept_of_write inside (congrArg Outcome.presets result) rfl ?_ (by rw [result]) ?_
  · rw [step_of_run (congrArg Outcome.presets result) id]
    exact held.write plain other
  · exact fun stack reset => absurd reset (add stack)

/-- The name of a preset that is not set is plain. -/
theorem plain_nonsetting : Plain nonsetting := by
  refine ⟨by decide, by decide, ?_⟩
  rw [← strstr_eq_none (by decide)]
  decide

/-- A deletion that is refused changes nothing. -/
theorem viscapresetDel_same {presets : Presets} {index : Int} {used : Bool} {serial : Serial}
    {stack : Scratch} (writes : ¬(used = false ∧ serial.ready = true)) :
    (viscapresetDel presets index used serial stack).presets = presets ∧
      (viscapresetDel presets index used serial stack).crashed = false := by
  unfold viscapresetDel
  cases used with
  | true => exact ⟨rfl, rfl⟩
  | false =>
    have closed : ¬serial.ready = true := fun ready => writes ⟨rfl, ready⟩
    rw [if_neg (by decide), if_pos closed]
    exact ⟨rfl, rfl⟩

/-- A slot is emptied; the home position is taken away if it is there. -/
theorem del_kept {call : ViscaCall} {i : Nat} {serial : Serial} {stack : Scratch}
    (held : Held maxViscapreset s) (small : maxViscapreset < 65536) (inside : i < maxViscapreset)
    (ready : serial.ready = true)
    (run : call.run maxViscapreset s.presets = viscapresetDel s.presets i false serial stack)
    (del : ∀ stack, call ≠ .homeReset stack) :
    Kept maxViscapreset s call ∧ Held maxViscapreset (s.step maxViscapreset call) := by
  obtain ⟨-, -, -, scanned⟩ := held.nameIn small inside
  have marked := held.strstr_nameIn small inside
  have result : (viscapresetDel s.presets i false serial stack).presets =
      (if s.presets.IsHome i then
        ⟨Function.update s.presets.text i (presetText (i + 1) nonsetting), 0, 0⟩
      else
        { s.presets with
          text := Function.update s.presets.text i (presetText (i + 1) nonsetting) }) ∧
      (viscapresetDel s.presets i false serial stack).crashed = false := by
    rw [viscapresetDel, if_neg (by decide), if_neg (by simp [ready])]
    simp only [scanned, ne_eq, marked, not_not]
    split <;> exact ⟨rfl, trivial⟩
  obtain ⟨presets, crashed⟩ := result
  by_cases home : s.presets.IsHome i
  · rw [if_pos home, ← run] at presets
    refine kept_of_write inside presets rfl ?_ (by rw [run]; exact crashed) ?_
    · rw [step_of_run presets (fun set => (set rfl).elim)]
      exact held.unmark plain_nonsetting home _
    · exact fun stack reset => absurd reset (del stack)
  · rw [if_neg home, ← run] at presets
    refine kept_of_write inside presets rfl ?_ (by rw [run]; exact crashed) ?_
    · rw [step_of_run presets id]
      exact held.write plain_nonsetting home
    · exact fun stack reset => absurd reset (del stack)

/-- A preset is marked. -/
theorem homeSet_kept {num : List UInt8} {stack : Scratch} (held : Held maxViscapreset s)
    (small : maxViscapreset < 65536)
    (meets : Meets maxViscapreset s.presets (.homeSet num stack)) :
    Kept maxViscapreset s (.homeSet num stack) ∧
      Held maxViscapreset (s.step maxViscapreset (.homeSet num stack)) := by
  by_cases unset : (stack.scan (s.presets.text (narrow 16 (atoi num - 1)))).stringCmp = nonsetting
  · have result : viscahomeSet s.presets num stack = { presets := s.presets } := by
      simp only [viscahomeSet, if_pos unset]
    exact kept_of_same held (congrArg Outcome.presets result) (congrArg Outcome.crashed result)
      (by simp)
  by_cases set : s.presets.homePosition ≠ 0
  · have result : viscahomeSet s.presets num stack = { presets := s.presets } := by
      simp only [viscahomeSet, if_neg unset, if_pos set]
    exact kept_of_same held (congrArg Outcome.presets result) (congrArg Outcome.crashed result)
      (by simp)
  obtain ⟨⟨first, last⟩, room⟩ := meets (by omega) unset
  obtain ⟨i, index⟩ : ∃ i : Nat, atoi num - 1 = i := ⟨(atoi num - 1).toNat, by omega⟩
  have inside : i < maxViscapreset := by omega
  have value : (narrow 16 (atoi num - 1) : Int) = i := by
    rw [narrow_of_fits (by omega) (by omega)]
    exact index
  have number : narrow 16 ((i : Int) + 1) = i + 1 := by
    have fits : (narrow 16 ((i : Int) + 1) : Int) = i + 1 := narrow_of_fits (by omega) (by omega)
    omega
  rw [index] at room
  rw [value] at unset
  have whole : (s.presets.text i ++ homeMark).take 31 = s.presets.text i ++ homeMark := by
    refine List.take_of_length_le ?_
    rw [List.length_append]
    exact room
  have result : viscahomeSet s.presets num stack =
      { presets := ⟨Function.update s.presets.text i (s.presets.text i ++ homeMark), i + 1, 1⟩ } := by
    simp only [viscahomeSet, if_neg unset, if_neg set, value, number, whole]
  have step : s.step maxViscapreset (.homeSet num stack) =
      ⟨⟨Function.update s.presets.text i (s.presets.text i ++ homeMark), i + 1, 1⟩,
        s.presets.text i⟩ := by
    have same : ((i + 1 : Nat) : Int) - 1 = i := by omega
    simp only [Traced.step, ViscaCall.run, result, same]
    rw [if_pos ⟨by omega, Nat.one_ne_zero⟩]
  refine kept_of_write inside (congrArg Outcome.presets result) rfl ?_
    (congrArg Outcome.crashed result) (by simp)
  rw [step]
  exact held.mark inside (by omega)

/-- The home position is reset. -/
theorem homeReset_kept {stack : Scratch} (held : Held maxViscapreset s)
    (small : maxViscapreset < 65536) :
    Kept maxViscapreset s (.homeReset stack) ∧
      Held maxViscapreset (s.step maxViscapreset (.homeReset stack)) := by
  rcases held.home with ⟨none, number⟩ | ⟨set, i, inside, number, text⟩
  · have result : viscahomeReset s.presets stack = { presets := s.presets } := by
      rw [viscahomeReset, if_neg (by omega)]
      conv_rhs => rw [show s.presets = ⟨s.presets.text, s.presets.homeNumber,
        s.presets.homePosition⟩ from rfl, none, number]
    have step : s.step maxViscapreset (.homeReset stack) = s :=
      step_of_run (congrArg Outcome.presets result) id
    refine ⟨⟨?_, fun k _ => ?_, congrArg Outcome.crashed result, fun _ _ set => absurd none set⟩, ?_⟩
    · rw [ViscaCall.run, result]
      exact held.markedOnce
    · rw [ViscaCall.run, result]
    · rw [step]
      exact held
  · have home : s.presets.IsHome i := ⟨by omega, number⟩
    obtain ⟨name, plain, read, scanned⟩ := held.nameIn small inside
    have marked : s.presets.nameIn i = name ++ homeMark := read.trans (if_pos home)
    have homeVal : (s.presets.homeNumber : Int) - 1 = i := by omega
    have unmarked : presetText (i + 1) name = s.unmarked := by
      obtain ⟨other, otherPlain, written⟩ := held.slot i inside
      have same := scanned ⟨0, []⟩
      rw [written, otherPlain.scan_slot small inside, marked] at same
      have names : s.presets.slotName i other = name ++ homeMark := congrArg Scratch.stringCmp same
      rw [written, names, presetText, ← List.cons_append, ← List.append_assoc] at text
      exact List.append_cancel_right text
    have result : (ViscaCall.homeReset stack).run maxViscapreset s.presets =
        { presets := ⟨Function.update s.presets.text i (presetText (i + 1) name), 0, 0⟩ } := by
      rw [ViscaCall.run, viscahomeReset, if_pos (by omega)]
      simp only [homeVal, scanned, marked, strstr_marked plain.unmarked, List.take_left]
    refine kept_of_write inside (congrArg Outcome.presets result) rfl ?_
      (congrArg Outcome.crashed result) ?_
    · rw [step_of_run (congrArg Outcome.presets result) (fun set => (set rfl).elim)]
      exact held.unmark plain home _
    · intro _ _ _
      dsimp only
      rw [homeVal, Function.update_self]
      exact unmarked

/-- The search for a preset finds the number of the first slot with the name. -/
theorem serachViscaPresetid_of_exists {name : List UInt8} (held : Held maxViscapreset s)
    (small : maxViscapreset < 65536) (stack : Scratch)
    (exists' : ∃ i < maxViscapreset, s.presets.nameIn (i : Nat) = name) :
    ∃ i < maxViscapreset, s.presets.nameIn (i : Nat) = name ∧
      serachViscaPresetid s.presets name stack (List.range maxViscapreset) - 1 = i := by
  have search : ∀ (slots : List Nat) (before : Scratch), (∀ i ∈ slots, i < maxViscapreset) →
      (∃ i ∈ slots, s.presets.nameIn (i : Nat) = name) →
      ∃ i ∈ slots, s.presets.nameIn (i : Nat) = name ∧
        serachViscaPresetid s.presets name before slots = i + 1 := by
    intro slots
    induction slots with
    | nil => exact fun _ _ ⟨i, member, _⟩ => absurd member (by simp)
    | cons i slots ih =>
      intro before inside given
      obtain ⟨-, -, -, scanned⟩ := held.nameIn small (inside i List.mem_cons_self)
      by_cases here : s.presets.nameIn i = name
      · refine ⟨i, List.mem_cons_self, here, ?_⟩
        simp only [serachViscaPresetid, scanned, if_pos here]
      · obtain ⟨j, member, named⟩ := given
        have later : j ∈ slots := by
          rcases List.mem_cons.mp member with rfl | later
          · exact absurd named here
          · exact later
        obtain ⟨k, among, found, value⟩ := ih ⟨i + 1, s.presets.nameIn i⟩
          (fun k member => inside k (List.mem_cons_of_mem _ member)) ⟨j, later, named⟩
        refine ⟨k, List.mem_cons_of_mem _ among, found, ?_⟩
        simp only [serachViscaPresetid, scanned, if_neg here]
        exact value
  obtain ⟨i, inside, named⟩ := exists'
  obtain ⟨k, member, found, value⟩ := search (List.range maxViscapreset) stack
    (fun i member => List.mem_range.mp member) ⟨i, List.mem_range.mpr inside, named⟩
  exact ⟨k, List.mem_range.mp member, found, by omega⟩

/-- A slot that is not set is not the home position. -/
theorem not_isHome_of_nonsetting (held : Held maxViscapreset s) (small : maxViscapreset < 65536)
    {i : Nat} (inside : i < maxViscapreset) (unset : s.presets.nameIn i = nonsetting) :
    ¬s.presets.IsHome i := by
  rw [← held.strstr_nameIn small inside, unset]
  decide

/-- A call that meets the condition is kept. -/
theorem call_kept {call : ViscaCall} (held : Held maxViscapreset s)
    (small : maxViscapreset < 65536) (meets : Meets maxViscapreset s.presets call) :
    Kept maxViscapreset s call ∧ Held maxViscapreset (s.step maxViscapreset call) := by
  cases call with
  | add index name serial =>
    by_cases writes : Writes maxViscapreset s.presets name serial
    · obtain ⟨plain, least, most, other⟩ := meets writes
      obtain ⟨i, rfl⟩ := Int.eq_ofNat_of_zero_le least
      have apart : ¬s.presets.IsHome i := fun home => other ⟨home.1, by have := home.2; omega⟩
      exact add_kept held (by omega) plain apart writes rfl (by simp)
    · obtain ⟨same, found⟩ := @viscapresetAdd_same maxViscapreset s.presets index name serial writes
      exact kept_of_same held same found (by simp)
  | del index used serial stack =>
    by_cases writes : used = false ∧ serial.ready = true
    · obtain ⟨rfl, ready⟩ := writes
      obtain ⟨least, most⟩ := meets rfl ready
      obtain ⟨i, rfl⟩ := Int.eq_ofNat_of_zero_le least
      exact del_kept held small (by omega) ready rfl (by simp)
    · obtain ⟨same, found⟩ := @viscapresetDel_same s.presets index used serial stack writes
      exact kept_of_same held same found (by simp)
  | homeSet num stack => exact homeSet_kept held small meets
  | homeReset stack => exact homeReset_kept held small
  | ptzAdd name serial stack =>
    by_cases writes : Writes maxViscapreset s.presets name serial
    · obtain ⟨plain, given⟩ := meets writes
      obtain ⟨i, inside, unset, index⟩ := serachViscaPresetid_of_exists held small stack given
      refine add_kept held inside plain (not_isHome_of_nonsetting held small inside unset) writes ?_
        (by simp)
      rw [← index]
      rfl
    · obtain ⟨same, found⟩ := @viscapresetAdd_same maxViscapreset s.presets
        (serachViscaEmptyPresetid s.presets stack (List.range maxViscapreset) - 1) name serial writes
      exact kept_of_same held same found (by simp)
  | ptzDel name used serial stack =>
    by_cases writes : used = false ∧ serial.ready = true
    · obtain ⟨rfl, ready⟩ := writes
      obtain ⟨i, inside, -, index⟩ :=
        serachViscaPresetid_of_exists held small stack (meets rfl ready)
      have run : (ViscaCall.ptzDel name false serial stack).run maxViscapreset s.presets =
          viscapresetDel s.presets i false serial stack := by
        rw [← index]
        rfl
      exact del_kept held small inside ready run (by simp)
    · obtain ⟨same, found⟩ := @viscapresetDel_same s.presets
        (serachViscaPresetid s.presets name stack (List.range maxViscapreset) - 1) used serial stack
        writes
      exact kept_of_same held same found (by simp)

end Calls

/-! ## Runs -/

/-- In every run from presets that are not set whose calls meet the condition, the home position
is marked once, no entry besides is written, `strstr` finds the mark and a reset restores the
text of the preset. -/
theorem home_mark_kept (maxViscapreset : Nat) (presets : Presets) (calls : List ViscaCall)
    (small : maxViscapreset < 65536) (unset : presets.Unset maxViscapreset)
    (meets : Throughout (Traced.step maxViscapreset)
      (fun s call => Meets maxViscapreset s.presets call) ⟨presets, []⟩ calls) :
    Throughout (Traced.step maxViscapreset) (Kept maxViscapreset) ⟨presets, []⟩ calls := by
  refine Throughout.of_invariant (Held maxViscapreset)
    (fun s call held met => call_kept held small met) ⟨fun i inside => ?_, .inl ?_⟩ meets
  · refine ⟨nonsetting, plain_nonsetting, ?_⟩
    have plain : presets.slotName i nonsetting = nonsetting := if_neg fun home => home.1 unset.2.2
    rw [unset.1 i inside, plain]
  · exact ⟨unset.2.2, unset.2.1⟩

/-- A camera with two presets. -/
def twoPresets : Presets := ⟨fun i => presetText (i + 1) nonsetting, 0, 0⟩

/-- A camera that takes everything. -/
def readySerial : Serial := ⟨true, true⟩

/-- A preset is set, marked, and the home position is reset; another one is set and deleted. -/
theorem home_mark_kept_small :
    Throughout (Traced.step 2) (Kept 2) ⟨twoPresets, []⟩
      [.add 0 (ascii "gate") readySerial, .homeSet (ascii "1") ⟨0, []⟩, .homeReset ⟨0, []⟩,
        .ptzAdd (ascii "door") readySerial ⟨0, []⟩, .ptzDel (ascii "door") false readySerial ⟨0, []⟩] :=
  home_mark_kept 2 twoPresets _ (by decide) ⟨fun _ _ => rfl, rfl, rfl⟩ (by
    have plain : ∀ name ∈ [ascii "gate", ascii "door"], Plain name := by
      have all : ∀ name ∈ [ascii "gate", ascii "door"], Solid name ∧ name ≠ [] ∧
          strstr homeMark name = none := by decide
      intro name member
      obtain ⟨solid, nonempty, none⟩ := all name member
      exact ⟨solid, nonempty, (strstr_eq_none (by decide)).mp none⟩
    refine ⟨fun _ => ⟨plain _ (by simp), by decide, by decide, fun home => home.1 rfl⟩,
      fun _ _ => ⟨by decide, by decide⟩, trivial,
      fun _ => ⟨plain _ (by simp), 1, by decide, by decide⟩,
      fun _ _ => ⟨1, by decide, by decide⟩, trivial⟩)

/-- When the home preset is renamed the mark is lost and `strstr` finds nothing at the reset. -/
theorem home_mark_lost :
    ¬Throughout (Traced.step 2) (Kept 2) ⟨twoPresets, []⟩
      [.add 0 (ascii "gate") readySerial, .homeSet (ascii "1") ⟨0, []⟩, .add 0 (ascii "door") readySerial,
        .homeReset ⟨0, []⟩] := by
  rintro ⟨-, -, -, kept, -⟩
  exact absurd kept.found (by decide)

end BoaIpcam.Visca
