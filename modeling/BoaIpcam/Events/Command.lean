import BoaIpcam.Events.Entries
import Mathlib.Data.List.Nodup

/-!
# The commands for events

The four commands that set a slot have one shape: they count the parameters, read them, test them
one after the other, and then either write the entries of the slot and answer `=1`, or write
nothing and answer with the first test that failed. The commands that delete a slot write the
defaults of a list of entries.
-/
namespace BoaIpcam.Events

open FlatTables

/-- A test of a command: whether it fails, and the answer then. -/
structure Test where
  /-- Whether the text is refused. -/
  fails : Bool
  /-- What is answered then. -/
  answer : Line

/-- The answer of the first test that fails. -/
def firstRefusal : List Test → Option Line
  | [] => none
  | test :: tests => if test.fails then some test.answer else firstRefusal tests

/-- No test refuses exactly when none fails. -/
theorem firstRefusal_eq_none {tests : List Test} :
    firstRefusal tests = none ↔ ∀ test ∈ tests, test.fails = false := by
  induction tests with
  | nil => simp [firstRefusal]
  | cons test tests ih =>
    cases fails : test.fails with
    | true => simp [firstRefusal, fails]
    | false => simp [firstRefusal, fails, ih]

/-- The answer is that of a test. -/
theorem mem_of_firstRefusal {tests : List Test} {line : Line}
    (refused : firstRefusal tests = some line) : ∃ test ∈ tests, test.answer = line := by
  induction tests with
  | nil => cases refused
  | cons test tests ih =>
    cases fails : test.fails with
    | true =>
      rw [firstRefusal, if_pos fails] at refused
      cases refused
      exact ⟨test, List.mem_cons_self, rfl⟩
    | false =>
      rw [firstRefusal, if_neg (by simp [fails])] at refused
      have found := ih refused
      obtain ⟨later, member, same⟩ := found
      exact ⟨later, List.mem_cons_of_mem _ member, same⟩

/-- A command that sets a slot: the number of parameters, the tests and what is done when none
fails. The null pointer that the loop over the colons writes behind its array is not modelled. -/
def command (paraNum : Nat) (text : List UInt8) (tests : List (List UInt8) → List Test)
    (carryOut : List (List UInt8) → Outcome) : Outcome :=
  match parameters paraNum text with
  | none => .answer .count
  | some ptr =>
    match firstRefusal (tests ptr) with
    | some line => .answer line
    | none => carryOut ptr

/-- The text has the right number of parameters and none of the tests fails. -/
structure Passes (paraNum : Nat) (text : List UInt8) (tests : List (List UInt8) → List Test)
    (ptr : List (List UInt8)) : Prop where
  /-- The text has its parameters. -/
  found : parameters paraNum text = some ptr
  /-- No test refuses them. -/
  passed : ∀ test ∈ tests ptr, test.fails = false

section Commands

variable {paraNum : Nat} {text : List UInt8} {tests : List (List UInt8) → List Test}
  {carryOut : List (List UInt8) → Outcome}

/-- The parameters of a text whose tests pass. -/
theorem Passes.ptr_eq {ptr : List (List UInt8)} (passes : Passes paraNum text tests ptr) :
    ptr = parametersOf paraNum text := by
  rw [parametersOf, passes.found]
  rfl

/-- A command whose tests all pass is carried out. -/
theorem Passes.command_eq {ptr : List (List UInt8)} (passes : Passes paraNum text tests ptr) :
    command paraNum text tests carryOut = carryOut ptr := by
  have none : firstRefusal (tests ptr) = none := firstRefusal_eq_none.mpr passes.passed
  simp only [command, passes.found, none]

/-- A command is carried out, or one of the tests does not pass and it only answers. -/
theorem command_cases (paraNum : Nat) (text : List UInt8)
    (tests : List (List UInt8) → List Test) (carryOut : List (List UInt8) → Outcome) :
    (∃ ptr, Passes paraNum text tests ptr) ∨
      (¬∃ ptr, Passes paraNum text tests ptr) ∧
      ∃ line, command paraNum text tests carryOut = .answer line ∧
        (line = .count ∨ ∃ ptr, ∃ test ∈ tests ptr, test.answer = line) := by
  cases found : parameters paraNum text with
  | none =>
    right
    constructor
    · intro passes
      obtain ⟨ptr, passes⟩ := passes
      have same := passes.found
      rw [found] at same
      cases same
    · exact ⟨.count, by simp only [command, found], .inl rfl⟩
  | some ptr =>
    cases refused : firstRefusal (tests ptr) with
    | none => exact .inl ⟨ptr, found, firstRefusal_eq_none.mp refused⟩
    | some line =>
      right
      constructor
      · intro passes
        obtain ⟨other, passes⟩ := passes
        have same := passes.found
        rw [found] at same
        cases same
        rw [firstRefusal_eq_none.mpr passes.passed] at refused
        cases refused
      · exact ⟨line, by simp only [command, found, refused],
          .inr ⟨ptr, mem_of_firstRefusal refused⟩⟩

/-- What a command of which nothing is known but this: it changes nothing unless it is carried
out. -/
theorem after_command (info : SysInfo) :
    (∃ ptr, Passes paraNum text tests ptr ∧
      (command paraNum text tests carryOut).after info = (carryOut ptr).after info) ∨
    (command paraNum text tests carryOut).after info = info := by
  rcases command_cases paraNum text tests carryOut with passes | ⟨-, line, only, -⟩
  · obtain ⟨ptr, passes⟩ := passes
    exact .inl ⟨ptr, passes, by rw [passes.command_eq]⟩
  · exact .inr (by rw [only]; rfl)

end Commands

/-! ## What is written -/

section Entries

variable {build : Build} {info : SysInfo} {t : Table} {i : Nat}
  {writes : List (t.Field × Datum)} {lines : List Line}

/-- An entry that is written. -/
theorem entry_written {f : t.Field} {value : Datum} (written : (f, value) ∈ writes)
    (agree : ∀ write ∈ writes, write.1 = f → write.2 = value) :
    build.entry (Outcome.after ⟨build.layout.slotWrites t i writes, lines⟩ info) t i f = value :=
  build.layout.store_slot written agree

/-- An entry that is written, when every entry is written once. -/
theorem entry_written_once {f : t.Field} {value : Datum} (once : (writes.map Prod.fst).Nodup)
    (written : (f, value) ∈ writes) :
    build.entry (Outcome.after ⟨build.layout.slotWrites t i writes, lines⟩ info) t i f = value := by
  apply entry_written written
  intro write member same
  have pair := List.inj_on_of_nodup_map once member written same
  rw [pair]

/-- An entry of another slot. -/
theorem entry_other_slot {j : Nat} (other : j ≠ i) (f : t.Field) :
    build.entry (Outcome.after ⟨build.layout.slotWrites t i writes, lines⟩ info) t j f =
      build.entry info t j f := build.layout.store_other_slot other f

/-- An entry of another table. -/
theorem entry_other_table {u : Table} {j : Nat} (other : t ≠ u) (left : i < build.layout.size t)
    (right : j < build.layout.size u) (g : u.Field) :
    build.entry (Outcome.after ⟨build.layout.slotWrites t i writes, lines⟩ info) u j g =
      build.entry info u j g := build.layout.store_other_table other left right g

/-- An entry outside the slot. -/
theorem ipcam_outside {address : Nat} (outside : ∀ f, build.layout.address t i f ≠ address) :
    (Outcome.after ⟨build.layout.slotWrites t i writes, lines⟩ info).ipcam address =
      info.ipcam address := build.layout.store_outside outside

end Entries

/-! ## Deleting -/

/-- What an entry holds after `info_write` of the address of its default with the size 0. A number
is the default, for which these calls are there. -/
def Build.resetOf (build : Build) (t : Table) (slot : Nat) (field : t.Field) : Datum :=
  if field ∈ t.texts then .text (build.resetText (build.layout.address t slot field))
  else build.defaultOf (build.layout.address t slot field)

/-- An entry that holds a number has its default. -/
theorem Build.resetOf_number {build : Build} {t : Table} {slot : Nat} {field : t.Field}
    (number : field ∉ t.texts) :
    build.resetOf t slot field = build.defaultOf (build.layout.address t slot field) :=
  if_neg number

/-- Some entries of a slot are reset. -/
def Build.resets (build : Build) (t : Table) (slot : Nat) (fields : List t.Field) :
    List (Nat × Datum) :=
  build.layout.slotWrites t slot (fields.map fun field => (field, build.resetOf t slot field))

/-- A command that deletes a slot. -/
def deleteSlot (build : Build) (t : Table) (fields : List t.Field) (text : List UInt8) : Outcome :=
  let id := narrow 32 (atoi text)
  if build.layout.size t ≤ id then .answer (.ng [])
  else ⟨build.resets t id fields, [.ok []]⟩

/-- An entry that is reset. -/
theorem entry_reset {build : Build} {info : SysInfo} {t : Table} {i : Nat} {fields : List t.Field}
    {lines : List Line} {f : t.Field} (listed : f ∈ fields) :
    build.entry (Outcome.after ⟨build.resets t i fields, lines⟩ info) t i f =
      build.resetOf t i f := by
  apply entry_written
  · exact List.mem_map.mpr ⟨f, listed, rfl⟩
  · intro write member same
    obtain ⟨field, among, rfl⟩ := List.mem_map.mp member
    rw [← same]

/-! ## All or nothing -/

/-- The front of a text without special characters, as long as an array for a name of files. -/
def Build.Filename (build : Build) (name : List UInt8) : Prop :=
  name.length ≤ build.fileNameLen ∧ ∃ rest, build.special (name ++ rest) = false

/-- The front of a text that is tested. -/
theorem Build.filename_take (build : Build) {text : List UInt8}
    (plain : build.special text = false) :
    build.Filename (text.take build.fileNameLen) :=
  ⟨List.length_take_le _ _, text.drop build.fileNameLen, by rw [List.take_append_drop, plain]⟩

/-- A command either succeeds with one answer and writes only entries of the slot with the number
at the start of the text, all inside the limits, or refuses with one answer and writes nothing. -/
def AllOrNothing (build : Build) (t : Table) (limit : t.Field → Datum → Prop) (text : List UInt8)
    (outcome : Outcome) : Prop :=
  (outcome.lines = [.done] ∧ ∀ write ∈ outcome.writes, ∃ (slot : Nat) (field : t.Field),
    (slot : Int) = leadingInt text ∧ write.1 = build.layout.address t slot field ∧
      limit field write.2) ∨
  ((∃ line : Line, line.Refuses ∧ outcome.lines = [line]) ∧ outcome.writes = [])

section AllOrNothing

variable {build : Build} {t : Table} {limit : t.Field → Datum → Prop} {text : List UInt8}
  {writes : List (t.Field × Datum)} {lines : List Line}

/-- A refusal is nothing. -/
theorem AllOrNothing.of_answer {line : Line} (refuses : line.Refuses) :
    AllOrNothing build t limit text (.answer line) := .inr ⟨⟨line, refuses, rfl⟩, rfl⟩

/-- No line that refuses is the answer of success. -/
theorem Line.Refuses.ne_done {line : Line} (refuses : line.Refuses) : line ≠ .done := by
  intro same
  subst same
  revert refuses
  unfold Refuses
  decide

/-- What is written to a slot is all of it exactly when the slot is the number of the text, there
is one answer and what is written keeps the limits. -/
theorem allOrNothing_slotWrites (nonempty : writes ≠ []) :
    AllOrNothing build t limit text ⟨build.layout.slotWrites t (slotOf text) writes, lines⟩ ↔
      SlotFits text ∧ lines = [.done] ∧ ∀ write ∈ writes, limit write.1 write.2 := by
  constructor
  · intro all
    rcases all with ⟨answer, slots⟩ | ⟨-, empty⟩
    · have number : ∀ write ∈ writes, (slotOf text : Int) = leadingInt text ∧
          limit write.1 write.2 := by
        intro write member
        have written := slots _ (List.mem_map.mpr ⟨write, member, rfl⟩)
        obtain ⟨slot, field, same, address, inside⟩ := written
        obtain ⟨slots_eq, fields_eq⟩ := build.layout.address_inj address
        rw [slots_eq, fields_eq]
        exact ⟨same, inside⟩
      obtain ⟨first, member⟩ := List.exists_mem_of_ne_nil writes nonempty
      exact ⟨slotOf_eq_iff.mp (number first member).1, answer,
        fun write member => (number write member).2⟩
    · exact absurd (List.map_eq_nil_iff.mp empty) nonempty
  · intro facts
    obtain ⟨fits, answer, inside⟩ := facts
    refine .inl ⟨answer, fun write member => ?_⟩
    obtain ⟨source, among, rfl⟩ := List.mem_map.mp member
    exact ⟨slotOf text, source.1, slotOf_eq_iff.mpr fits, rfl, inside source among⟩

/-- When a command is all or nothing: if its tests pass, the number of the text is the slot, there
is one answer and what is written keeps the limits. -/
theorem allOrNothing_command {paraNum : Nat} {tests : List (List UInt8) → List Test}
    {writesOf : List (List UInt8) → List (t.Field × Datum)}
    {linesOf : List (List UInt8) → List Line}
    (refuses : ∀ ptr, ∀ test ∈ tests ptr, test.answer.Refuses)
    (nonempty : ∀ ptr, writesOf ptr ≠ []) :
    AllOrNothing build t limit text (command paraNum text tests fun ptr =>
        ⟨build.layout.slotWrites t (slotOf text) (writesOf ptr), linesOf ptr⟩) ↔
      ∀ ptr, Passes paraNum text tests ptr →
        SlotFits text ∧ linesOf ptr = [.done] ∧ ∀ write ∈ writesOf ptr, limit write.1 write.2 := by
  constructor
  · intro all ptr passes
    rw [passes.command_eq] at all
    exact (allOrNothing_slotWrites (nonempty ptr)).mp all
  · intro facts
    rcases command_cases paraNum text tests fun ptr =>
      (⟨build.layout.slotWrites t (slotOf text) (writesOf ptr), linesOf ptr⟩ : Outcome)
      with passes | ⟨-, line, only, origin⟩
    · obtain ⟨ptr, passes⟩ := passes
      rw [passes.command_eq]
      exact (allOrNothing_slotWrites (nonempty ptr)).mpr (facts ptr passes)
    · rw [only]
      apply AllOrNothing.of_answer
      rcases origin with count | ⟨ptr, test, member, same⟩
      · exact .inr (.inl count)
      · rw [← same]
        exact refuses ptr test member

end AllOrNothing

end BoaIpcam.Events
