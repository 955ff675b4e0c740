import BoaIpcam.Numeral
import BoaIpcam.Lib.Run
import BoaIpcam.Lib.Tables
import Mathlib.Data.Finset.Card
import Mathlib.Data.Int.Interval
import Mathlib.Order.Interval.Finset.Nat

/-!
# Presets of a camera on the serial line

In a build with `SUPPORT_RS485` the request `uri_ptz_preset` of `request.c` and the commands
`set_createpreset` and `set_deletepreset` of `appro_api.c` keep a table of presets: the names are
entries of the configuration, and so are the numbers under which the camera knows the presets. A
slot is free when its name is empty.
-/
namespace BoaIpcam.Rs485

open TransitionSystem

/-! ## The handlers -/

/-- The entries from `PRESETPOSITION0_INDEX` and from `PRESETPOSITION0_NAME` on. -/
structure PresetTable where
  /-- The numbers of the presets. -/
  index : Int → Int
  /-- Their names. -/
  name : Int → List UInt8

/-- `MAX_PTZPRESET_NUM` and `MAX_PTZPRESETNAME_LEN`. -/
structure Sizes where
  /-- The number of slots. -/
  maxPtzpresetNum : Nat
  /-- The size of the arrays for a name, with its end. -/
  maxPtzpresetnameLen : Nat
  /-- There is a slot. -/
  positive : 0 < maxPtzpresetNum
  /-- The number of slots is an `int`. -/
  small : maxPtzpresetNum < 2147483647

/-- One line of an answer. -/
inductive Line where
  | ok | ng
deriving DecidableEq, Repr

/-- The mode of the program `ptzctrl`. -/
inductive Mode where
  | clearPreset | setPreset | gotoPreset
deriving DecidableEq, Repr

/-- What a handler leads to: the table, its answers and the numbers that are sent to the camera. -/
structure Outcome where
  /-- The table after the handler. -/
  table : PresetTable
  /-- The lines that it prints. -/
  answers : List Line
  /-- What it starts `ptzctrl` with. -/
  sent : List (Mode × Int)

/-- Both entries of a slot are written. -/
def PresetTable.put (table : PresetTable) (addr index : Int) (name : List UInt8) : PresetTable :=
  ⟨Function.update table.index addr index, Function.update table.name addr name⟩

section Handlers

variable (sizes : Sizes) (table : PresetTable)

/-- The first slot with a name. -/
def PresetTable.find (name : List UInt8) : Option Nat :=
  (List.range sizes.maxPtzpresetNum).find? fun i : Nat => table.name i = name

/-- The slots whose number is at least one that the search still may choose. -/
def slotsFrom (size : Nat) (index : Nat → Int) (point : Int) : Finset Nat :=
  (Finset.range size).filter fun k => point ≤ index k

/-- There are fewer when the search goes on with the next number. -/
theorem card_slotsFrom_lt {size : Nat} {index : Nat → Int} {i : Nat} {point : Int}
    (inside : i < size) (same : index i = point) :
    (slotsFrom size index (point + 1)).card < (slotsFrom size index point).card := by
  apply Finset.card_lt_card
  refine ⟨?_, ?_⟩
  · intro k member
    rw [slotsFrom, Finset.mem_filter] at member ⊢
    exact ⟨member.1, by omega⟩
  · intro subset
    have member : i ∈ slotsFrom size index point :=
      Finset.mem_filter.mpr ⟨Finset.mem_range.mpr inside, by omega⟩
    have above := (Finset.mem_filter.mp (subset member)).2
    omega

/-- The loop of an addition that looks for a number: a slot with the number starts it over with the
next number, and the increment of the loop leaves out slot 0 then. -/
def choosePoint (size : Nat) (index : Nat → Int) (i : Nat) (point : Int) : Int :=
  if i < size then
    if index i = point then choosePoint size index 1 (point + 1)
    else choosePoint size index (i + 1) point
  else point
termination_by ((slotsFrom size index point).card, size - i)
decreasing_by
  · apply Prod.Lex.left
    apply card_slotsFrom_lt <;> assumption
  · apply Prod.Lex.right
    omega

/-- What is sent to the camera of a number. -/
def send (mode : Mode) (point : Int) : List (Mode × Int) := if 0 < point then [(mode, point)] else []

/-- The name of a request, after every argument `name` was copied to the array `name_tmp`; none when
one does not fit it or there is none. -/
def copiedName (names : List (List UInt8)) : Option (List UInt8) :=
  if ∀ name ∈ names, name.length < sizes.maxPtzpresetnameLen then names.getLast? else none

/-- The answer of a request fits `buf[256]` with its longest `act`, and is printed as a format. -/
def Answerable (name : List UInt8) : Prop := name.length + 16 < 256 ∧ 37 ∉ name

instance (name : List UInt8) : Decidable (Answerable name) := inferInstanceAs (Decidable (_ ∧ _))

/-- `uri_ptz_preset` with `act=add`. -/
def uriAdd (name : List UInt8) : Outcome :=
  let addr := (table.find sizes []).getD 0
  let point := choosePoint sizes.maxPtzpresetNum (fun i : Nat => table.index i) 0 0
  ⟨table.put addr point name, [.ok], send .setPreset point⟩

/-- `uri_ptz_preset` with `act=del`. -/
def uriDel (name : List UInt8) : Outcome :=
  match table.find sizes name with
  | some addr => ⟨table.put addr 0 [], [.ok], send .clearPreset (table.index addr)⟩
  | none => ⟨table.put 0 0 [], [.ok], []⟩

/-- `uri_ptz_preset` with `act=go`; the last slot with the name counts. -/
def uriGo (name : List UInt8) : Outcome :=
  let point := (List.range sizes.maxPtzpresetNum).foldl
    (fun addr (i : Nat) => if table.name i = name then table.index i else addr) 0
  ⟨table, [.ok], send .gotoPreset point⟩

/-- `uri_ptz_preset` with its arguments `name` and what its `act` does. None when it writes outside
its arrays or compares with a name that is missing. -/
def uriPtzPreset (act : List UInt8 → Outcome) (names : List (List UInt8)) : Option Outcome := do
  let name ← copiedName sizes names
  if Answerable name then some (act name) else none

/-- The text that `strtok` leaves in memory from the first token on, with whatever is behind the
text; nothing if there is no token. -/
def tokenMemory (stack text : List UInt8) : Option (List UInt8) :=
  let rest := text.dropWhile (· = 58)
  if rest = [] then none
  else
    let token := rest.takeWhile (· ≠ 58)
    some (token ++ 0 :: ((rest.drop (token.length + 1)) ++ 0 :: stack))

/-- The name that `set_createpreset` reads: it starts two or three characters behind the start of
the token. -/
def createName (stack text : List UInt8) : Option (List UInt8) :=
  (tokenMemory stack text).map fun memory =>
    (memory.drop (if 9 < atoi text then 3 else 2)).takeWhile (· ≠ 0)

/-- What the stack holds that `set_createpreset` does not set. -/
structure Stack where
  /-- The bytes behind the text in `buf`. -/
  behind : List UInt8
  /-- The variable `addr`. -/
  addr : Int

/-- `set_createpreset`. None when it writes outside `buf[64]` or its array for a name, or there is no
token. The variable `addr` is set only when a slot is free. -/
def setCreatepreset (stack : Stack) (text : List UInt8) : Option Outcome :=
  let presetPoint := atoi text
  if 64 ≤ text.length then none
  else do
    let name ← createName stack.behind text
    if sizes.maxPtzpresetnameLen ≤ name.length then none
    else
      let addr := ((table.find sizes []).map fun i : Nat => (i : Int)).getD stack.addr
      if presetPoint ≤ sizes.maxPtzpresetNum ∧ presetPoint ≠ 0 then
        some ⟨table.put addr presetPoint name, [.ok], []⟩
      else some ⟨table, [.ng], []⟩

/-- The loop of `set_deletepreset` over the slots that counts those with a name. -/
def deleteSearch (delIndex : Int) : Int → List Nat → Int
  | _, [] => -1
  | presetNum, i :: rest =>
    if table.name i ≠ [] then
      if presetNum = delIndex then i else deleteSearch delIndex (presetNum + 1) rest
    else deleteSearch delIndex presetNum rest

/-- `set_deletepreset`. -/
def setDeletepreset (text : List UInt8) : Outcome :=
  let delIndex := atoi text
  let tooLarge := if delIndex > sizes.maxPtzpresetNum then [Line.ng] else []
  let addr := deleteSearch table delIndex 0 (List.range sizes.maxPtzpresetNum)
  let missing := if addr = -1 then [Line.ng] else []
  if addr < sizes.maxPtzpresetNum then
    ⟨table.put addr 0 [], tooLarge ++ missing ++ [.ok], []⟩
  else ⟨table, tooLarge ++ missing ++ [.ng], []⟩

/-- A request, with the values of its arguments `name`, or a command, with its value. -/
inductive PresetCommand where
  | add (names : List (List UInt8))
  | del (names : List (List UInt8))
  | go (names : List (List UInt8))
  | create (stack : Stack) (text : List UInt8) (plain : 0 ∉ text)
  | delete (text : List UInt8)

/-- What a request or a command does, none when its behaviour is not defined. -/
def PresetCommand.run : PresetCommand → Option Outcome
  | .add names => uriPtzPreset sizes (uriAdd sizes table) names
  | .del names => uriPtzPreset sizes (uriDel sizes table) names
  | .go names => uriPtzPreset sizes (uriGo sizes table) names
  | .create stack text _ => setCreatepreset sizes table stack text
  | .delete text => some (setDeletepreset sizes table text)

end Handlers

/-! ## What is asked -/

/-- The slot of a preset. -/
def PresetTable.Named (table : PresetTable) (sizes : Sizes) (i : Nat) : Prop :=
  i < sizes.maxPtzpresetNum ∧ table.name i ≠ []

/-- The presets have different numbers, from 1 to the size of the table. -/
structure Numbered (sizes : Sizes) (table : PresetTable) : Prop where
  /-- The numbers are those of the table. -/
  range : ∀ i, table.Named sizes i → 1 ≤ table.index i ∧ table.index i ≤ sizes.maxPtzpresetNum
  /-- No number is there twice. -/
  distinct : ∀ i j, table.Named sizes i → table.Named sizes j → table.index i = table.index j →
    i = j

/-- A table with the number that each slot was assigned when its name was put into it. -/
structure Traced where
  /-- The presets. -/
  table : PresetTable
  /-- The number that each slot was assigned. -/
  assigned : Int → Int

/-- The traced table after the next one. -/
def Traced.follow (s : Traced) (next : PresetTable) : Traced :=
  ⟨next, fun k => if next.name k = s.table.name k then s.assigned k else next.index k⟩

/-- The traced table after a command. -/
def Traced.step (sizes : Sizes) (s : Traced) (command : PresetCommand) : Traced :=
  match command.run sizes s.table with
  | some outcome => s.follow outcome.table
  | none => s

/-- The name in the value of `set_createpreset`: what is behind the first colon. -/
def writtenName (text : List UInt8) : List UInt8 := (text.dropWhile (· ≠ 58)).drop 1

/-- The slots of the presets. -/
def PresetTable.namedSlots (table : PresetTable) (sizes : Sizes) : List Nat :=
  (List.range sizes.maxPtzpresetNum).filter fun i : Nat => table.name i ≠ []

/-- The slot that `set_deletepreset` designates: presets are counted from 0. -/
def PresetTable.designated (table : PresetTable) (sizes : Sizes) (number : Int) : Option Nat :=
  if 0 ≤ number then (table.namedSlots sizes)[number.toNat]? else none

/-- The last slot with a name. -/
def PresetTable.last (table : PresetTable) (sizes : Sizes) (name : List UInt8) : Option Nat :=
  ((List.range sizes.maxPtzpresetNum).filter fun i : Nat => table.name i = name).getLast?

/-- What is asked of the table after a command and of what is sent. -/
def Effect (sizes : Sizes) (s : Traced) (outcome : Outcome) : PresetCommand → Prop
  | .add names => ∃ name, names.getLast? = some name ∧
    ((∃ i < sizes.maxPtzpresetNum, s.table.name i = [] ∧
        ∃ index, outcome.table = s.table.put i index name) ∨
      (∀ i < sizes.maxPtzpresetNum, s.table.name i ≠ []) ∧ outcome.table = s.table)
  | .create _ text _ =>
    (outcome.answers = [.ok] → ∃ i < sizes.maxPtzpresetNum, s.table.name i = [] ∧
      outcome.table = s.table.put i (leadingInt text) (writtenName text)) ∧
    (outcome.answers = [.ng] → outcome.table = s.table)
  | .del names => ∃ name, names.getLast? = some name ∧
    match s.table.find sizes name with
    | some i => if name = [] then outcome.table = s.table else outcome.table = s.table.put i 0 []
    | none => outcome.table = s.table
  | .delete text =>
    match s.table.designated sizes (leadingInt text) with
    | some i => outcome.table = s.table.put i 0 []
    | none => outcome.table = s.table
  | .go names => ∃ name, names.getLast? = some name ∧ outcome.table = s.table ∧ outcome.sent =
      match s.table.last sizes name with
      | some i => if name = [] then [] else [(.gotoPreset, s.assigned i)]
      | none => []

/-- What is asked of a command. -/
def Kept (sizes : Sizes) (s : Traced) (command : PresetCommand) : Prop :=
  Numbered sizes (s.step sizes command).table ∧
    ∃ outcome, command.run sizes s.table = some outcome ∧ outcome.answers.length = 1 ∧
      Effect sizes s outcome command

/-! ## When it is kept -/

/-- A slot is free. -/
def PresetTable.HasFree (table : PresetTable) (sizes : Sizes) : Prop :=
  ∃ i < sizes.maxPtzpresetNum, table.name i = []

/-- The number of slot 0 is not in the way of an addition: the slot is free, or a lower number is
not used in the slots behind it. -/
def PresetTable.FirstApart (table : PresetTable) (sizes : Sizes) : Prop :=
  table.name 0 = [] ∨ ∃ point, 1 ≤ point ∧ point < table.index 0 ∧
    ∀ i : Nat, 1 ≤ i → i < sizes.maxPtzpresetNum → table.index i ≠ point

/-- The arguments `name` of a request fit the arrays that they are copied to, the last one counts,
and the answer can be printed. -/
def Copies (sizes : Sizes) (names : List (List UInt8)) (name : List UInt8) : Prop :=
  (∀ name ∈ names, name.length < sizes.maxPtzpresetnameLen) ∧ names.getLast? = some name ∧
    Answerable name

/-- The value of `set_createpreset` and the name that is read from it fit their arrays. -/
def CopiesCreated (sizes : Sizes) (stack : Stack) (text : List UInt8) : Prop :=
  text.length < 64 ∧ ∃ name, createName stack.behind text = some name ∧
    name.length < sizes.maxPtzpresetnameLen

/-- When a command keeps the table. What is copied must fit its array. An addition needs a name, a
free slot and a number that slot 0 does not have. A deletion must find the preset; by name it may
also find slot 0 free. A value that `set_createpreset` takes must have a number of one digit, or two
from 10 on, that is positive and not in use, a colon and a name, and a slot must be free. -/
def Meets (sizes : Sizes) (table : PresetTable) : PresetCommand → Prop
  | .add names => ∃ name, Copies sizes names name ∧ name ≠ [] ∧ table.HasFree sizes ∧
      table.FirstApart sizes
  | .del names => ∃ name, Copies sizes names name ∧
      ((∃ i < sizes.maxPtzpresetNum, table.name i = name) ∨ table.name 0 = [])
  | .go names => ∃ name, Copies sizes names name
  | .create stack text _ =>
    CopiesCreated sizes stack text ∧ (atoi text ≤ sizes.maxPtzpresetNum → atoi text ≠ 0 →
      (text.takeWhile (· ≠ 58)).length = (if 9 < atoi text then 2 else 1) ∧
      writtenName text ≠ [] ∧ 0 < atoi text ∧ table.HasFree sizes ∧
      ∀ i, table.Named sizes i → table.index i ≠ atoi text)
  | .delete text =>
    0 ≤ leadingInt text ∧ leadingInt text < (table.namedSlots sizes).length

/-! ## The number of an addition -/

/-- The number that a search chooses from a slot and a number on. When it passes the number it
starts over behind slot 0; the numbers that it passes are in use. -/
structure Chosen (size : Nat) (index : Nat → Int) (i : Nat) (point chosen : Int) : Prop where
  /-- The search goes up. -/
  least : point ≤ chosen
  /-- A number chosen behind the first is not in use. -/
  unused : point < chosen → ∀ k, 1 ≤ k → k < size → index k ≠ chosen
  /-- The first number is chosen when it is not in use from the slot on. -/
  first : chosen = point → ∀ k, i ≤ k → k < size → index k ≠ point
  /-- It is passed when it is. -/
  used : point < chosen → ∃ k, i ≤ k ∧ k < size ∧ index k = point
  /-- The numbers in between are in use. -/
  passed : ∀ r, point < r → r < chosen → ∃ k, 1 ≤ k ∧ k < size ∧ index k = r

/-- The search chooses such a number. -/
theorem choosePoint_chosen (size : Nat) (index : Nat → Int) (i : Nat) (point : Int) :
    Chosen size index i point (choosePoint size index i point) := by
  fun_induction choosePoint size index i point with
  | case1 i inside ih =>
    refine ⟨by have := ih.least; omega, fun _ k late below => ?_, fun equal => ?_,
      fun _ => ⟨i, Nat.le_refl i, inside, rfl⟩, fun r above below => ?_⟩
    · by_cases stays : choosePoint size index 1 (index i + 1) = index i + 1
      · rw [stays]
        exact ih.first stays k late below
      · have least := ih.least
        exact ih.unused (by omega) k late below
    · have least := ih.least
      omega
    · by_cases next : r = index i + 1
      · rw [next]
        exact ih.used (by omega)
      · exact ih.passed r (by omega) below
  | case2 i point inside other ih =>
    refine ⟨ih.least, ih.unused, fun equal k late below => ?_, fun later => ?_, ih.passed⟩
    · by_cases here : k = i
      · rw [here]
        exact other
      · exact ih.first equal k (by omega) below
    · obtain ⟨k, late, below, same⟩ := ih.used later
      exact ⟨k, by omega, below, same⟩
  | case3 i point outside =>
    exact ⟨Int.le_refl _, fun later => absurd later (Int.lt_irrefl _),
      fun _ k late below => absurd below (by omega), fun later => absurd later (Int.lt_irrefl _),
      fun r above below => absurd below (by omega)⟩

/-- The number that is chosen is no larger than the table. -/
theorem Chosen.le {size : Nat} {index : Nat → Int} {i : Nat} {chosen : Int} (positive : 0 < size)
    (spec : Chosen size index i 0 chosen) : chosen ≤ size := by
  have subset : Finset.Ioo 0 chosen ⊆ (Finset.Ico 1 size).image index := by
    intro r member
    obtain ⟨above, below⟩ := Finset.mem_Ioo.mp member
    obtain ⟨k, late, inside, same⟩ := spec.passed r above below
    exact Finset.mem_image.mpr ⟨k, Finset.mem_Ico.mpr ⟨late, inside⟩, same⟩
  have cards := (Finset.card_le_card subset).trans Finset.card_image_le
  rw [Int.card_Ioo, Nat.card_Ico] at cards
  omega

/-! ## Writes to the table -/

/-- The presets have their numbers, the free slots have the number zero, and the numbers are those
that were assigned. -/
structure Held (sizes : Sizes) (s : Traced) : Prop where
  /-- The presets have their numbers. -/
  numbered : Numbered sizes s.table
  /-- A free slot has the number zero. -/
  free : ∀ i : Nat, i < sizes.maxPtzpresetNum → s.table.name i = [] → s.table.index i = 0
  /-- A number is the one that was assigned. -/
  assigned : ∀ i : Nat, s.table.Named sizes i → s.assigned i = s.table.index i

section Writes

variable {sizes : Sizes} {s : Traced} {table : PresetTable} {i k : Nat} {index : Int}
  {name : List UInt8}

/-- The name of a slot after a write. -/
theorem put_name (table : PresetTable) (i k : Nat) (index : Int) (name : List UInt8) :
    (table.put i index name).name k = if k = i then name else table.name k :=
  Tables.update_slot _ _ _ _

/-- The number of a slot after a write. -/
theorem put_index (table : PresetTable) (i k : Nat) (index : Int) (name : List UInt8) :
    (table.put i index name).index k = if k = i then index else table.index k :=
  Tables.update_slot _ _ _ _

/-- To clear a free slot changes nothing. -/
theorem put_free (number : table.index i = 0) (free : table.name i = []) :
    table.put i 0 [] = table := by
  rw [PresetTable.put, ← number, Function.update_eq_self, ← free, Function.update_eq_self]

/-- Without a change the numbers hold. -/
theorem Held.same (held : Held sizes s) : Held sizes (s.follow s.table) :=
  ⟨held.numbered, held.free, fun i named => (if_pos rfl).trans (held.assigned i named)⟩

/-- The number that is traced of a slot that a write leaves. -/
theorem follow_assigned (apart : k ≠ i) :
    (s.follow (s.table.put i index name)).assigned k = s.assigned k := by
  refine if_pos ?_
  rw [put_name, if_neg apart]

/-- A preset is put into a free slot with a number that is not in use. -/
theorem Held.put (held : Held sizes s) (free : s.table.name i = []) (named : name ≠ [])
    (range : 1 ≤ index ∧ index ≤ sizes.maxPtzpresetNum)
    (unused : ∀ k, s.table.Named sizes k → s.table.index k ≠ index) :
    Held sizes (s.follow (s.table.put i index name)) := by
  have other : ∀ k, (s.table.put i index name).Named sizes k → k ≠ i → s.table.Named sizes k := by
    intro k slot apart
    have given := slot.2
    rw [put_name, if_neg apart] at given
    exact ⟨slot.1, given⟩
  refine ⟨⟨fun k slot => ?_, fun j k slot slot' same => ?_⟩, fun k below empty => ?_,
    fun k slot => ?_⟩
  · change 1 ≤ (s.table.put i index name).index k ∧ (s.table.put i index name).index k ≤ _
    rw [put_index]
    by_cases here : k = i
    · rw [if_pos here]
      exact range
    · rw [if_neg here]
      exact held.numbered.range k (other k slot here)
  · change (s.table.put i index name).index j = (s.table.put i index name).index k at same
    rw [put_index, put_index] at same
    by_cases first : j = i
    · by_cases second : k = i
      · omega
      · rw [if_pos first, if_neg second] at same
        exact absurd same.symm (unused k (other k slot' second))
    · by_cases second : k = i
      · rw [if_neg first, if_pos second] at same
        exact absurd same (unused j (other j slot first))
      · rw [if_neg first, if_neg second] at same
        exact held.numbered.distinct j k (other j slot first) (other k slot' second) same
  · change (s.table.put i index name).name k = [] at empty
    change (s.table.put i index name).index k = 0
    rw [put_name] at empty
    by_cases here : k = i
    · rw [if_pos here] at empty
      exact absurd empty named
    · rw [if_neg here] at empty
      rw [put_index, if_neg here]
      exact held.free k below empty
  · by_cases here : k = i
    · refine if_neg ?_
      rw [put_name, if_pos here, here, free]
      exact named
    · rw [follow_assigned here]
      change s.assigned k = (s.table.put i index name).index k
      rw [put_index, if_neg here]
      exact held.assigned k (other k slot here)

/-- A slot is cleared. -/
theorem Held.clear (held : Held sizes s) (i : Nat) :
    Held sizes (s.follow (s.table.put i 0 [])) := by
  have other : ∀ k, (s.table.put i 0 []).Named sizes k → k ≠ i ∧ s.table.Named sizes k := by
    intro k slot
    have given := slot.2
    rw [put_name] at given
    by_cases here : k = i
    · rw [if_pos here] at given
      exact absurd rfl given
    · rw [if_neg here] at given
      exact ⟨here, slot.1, given⟩
  refine ⟨⟨fun k slot => ?_, fun j k slot slot' same => ?_⟩, fun k below empty => ?_,
    fun k slot => ?_⟩
  · change 1 ≤ (s.table.put i 0 []).index k ∧ (s.table.put i 0 []).index k ≤ _
    rw [put_index, if_neg (other k slot).1]
    exact held.numbered.range k (other k slot).2
  · change (s.table.put i 0 []).index j = (s.table.put i 0 []).index k at same
    rw [put_index, put_index, if_neg (other j slot).1, if_neg (other k slot').1] at same
    exact held.numbered.distinct j k (other j slot).2 (other k slot').2 same
  · change (s.table.put i 0 []).name k = [] at empty
    change (s.table.put i 0 []).index k = 0
    rw [put_name] at empty
    rw [put_index]
    by_cases here : k = i
    · rw [if_pos here]
    · rw [if_neg here] at empty ⊢
      exact held.free k below empty
  · rw [follow_assigned (other k slot).1]
    change s.assigned k = (s.table.put i 0 []).index k
    rw [put_index, if_neg (other k slot).1]
    exact held.assigned k (other k slot).2

/-- The first slot with a name. -/
theorem find_some (found : table.find sizes name = some i) :
    i < sizes.maxPtzpresetNum ∧ table.name i = name := by
  obtain ⟨named, member, -⟩ := List.find?_range_eq_some.mp found
  exact ⟨List.mem_range.mp member, of_decide_eq_true named⟩

/-- A slot with a name is found. -/
theorem find_of_exists (slot : ∃ i < sizes.maxPtzpresetNum, table.name (i : Nat) = name) :
    ∃ i, table.find sizes name = some i := by
  obtain ⟨i, inside, named⟩ := slot
  cases found : table.find sizes name with
  | some j => exact ⟨j, rfl⟩
  | none =>
    have none := List.find?_range_eq_none.mp found i inside
    rw [named] at none
    exact absurd none (by simp)

end Writes

/-! ## The commands -/

section Commands

variable {sizes : Sizes} {s : Traced}

/-- A command with one answer after which the numbers hold. -/
theorem kept_of {command : PresetCommand} {next : PresetTable} {line : Line}
    {sent : List (Mode × Int)} (outcome : command.run sizes s.table = some ⟨next, [line], sent⟩)
    (held : Held sizes (s.follow next)) (effect : Effect sizes s ⟨next, [line], sent⟩ command) :
    Kept sizes s command ∧ Held sizes (s.step sizes command) := by
  have step : s.step sizes command = s.follow next := by rw [Traced.step, outcome]
  rw [Kept, step]
  exact ⟨⟨held.numbered, _, outcome, rfl, effect⟩, held⟩

/-- A request whose names fit does what its `act` does with the last one. -/
theorem uriPtzPreset_eq {act : List UInt8 → Outcome} {names : List (List UInt8)}
    {name : List UInt8} (copies : Copies sizes names name) :
    uriPtzPreset sizes act names = some (act name) := by
  obtain ⟨fit, last, answerable⟩ := copies
  have copied : copiedName sizes names = some name := by rw [copiedName, if_pos fit, last]
  rw [uriPtzPreset, copied]
  exact if_pos answerable

/-- An addition keeps the table. -/
theorem add_kept {names : List (List UInt8)} (held : Held sizes s)
    (meets : Meets sizes s.table (.add names)) :
    Kept sizes s (.add names) ∧ Held sizes (s.step sizes (.add names)) := by
  obtain ⟨name, copies, named, free, apart⟩ := meets
  obtain ⟨i, found⟩ := find_of_exists free
  obtain ⟨inside, empty⟩ := find_some found
  have spec := choosePoint_chosen sizes.maxPtzpresetNum (fun i : Nat => s.table.index i) 0 0
  generalize chosen : choosePoint sizes.maxPtzpresetNum (fun i : Nat => s.table.index i) 0 0 =
    point at spec
  have outcome : (PresetCommand.add names).run sizes s.table =
      some ⟨s.table.put i point name, [.ok], send .setPreset point⟩ := by
    simp only [PresetCommand.run, uriPtzPreset_eq copies, uriAdd, found, chosen, Option.getD_some]
  have positive : 1 ≤ point := by
    have zero := held.free i inside empty
    have least := spec.least
    by_contra small
    exact spec.first (by omega) i (Nat.zero_le i) inside zero
  have unused : ∀ k, s.table.Named sizes k → s.table.index k ≠ point := by
    intro k slot
    by_cases later : 1 ≤ k
    · exact spec.unused (by omega) k later slot.1
    · have first : k = 0 := by omega
      subst first
      rcases apart with none | ⟨r, least, below, other⟩
      · exact absurd none slot.2
      · intro same
        obtain ⟨j, late, before, used⟩ := spec.passed r (by omega) (by
          rw [← same]
          exact below)
        exact other j late before used
  refine kept_of outcome (held.put empty named ⟨positive, spec.le sizes.positive⟩ unused) ?_
  exact ⟨name, copies.2.1, .inl ⟨i, inside, empty, point, rfl⟩⟩

/-- A deletion by name keeps the table. -/
theorem del_kept {names : List (List UInt8)} (held : Held sizes s)
    (meets : Meets sizes s.table (.del names)) :
    Kept sizes s (.del names) ∧ Held sizes (s.step sizes (.del names)) := by
  obtain ⟨name, copies, meets⟩ := meets
  cases found : s.table.find sizes name with
  | some i =>
    obtain ⟨inside, named⟩ := find_some found
    have outcome : (PresetCommand.del names).run sizes s.table =
        some ⟨s.table.put i 0 [], [.ok], send .clearPreset (s.table.index i)⟩ := by
      simp only [PresetCommand.run, uriPtzPreset_eq copies, uriDel, found]
    refine kept_of outcome (held.clear i) ⟨name, copies.2.1, ?_⟩
    simp only [found]
    split
    · next empty =>
      rw [empty] at named
      exact put_free (held.free i inside named) named
    · trivial
  | none =>
    have free : s.table.name ((0 : Nat) : Int) = [] := by
      rcases meets with slot | free
      · obtain ⟨i, some⟩ := find_of_exists slot
        rw [found] at some
        cases some
      · exact free
    have same : s.table.put 0 0 [] = s.table := put_free (held.free 0 sizes.positive free) free
    have outcome : (PresetCommand.del names).run sizes s.table = some ⟨s.table, [.ok], []⟩ := by
      simp only [PresetCommand.run, uriPtzPreset_eq copies, uriDel, found, same]
    refine kept_of outcome held.same ⟨name, copies.2.1, ?_⟩
    simp only [found]

/-- The loop that keeps the last slot ends with the last one that is filtered. -/
theorem foldl_last (index : Nat → Int) (wanted : Nat → Prop) [DecidablePred wanted]
    (slots : List Nat) :
    slots.foldl (fun addr i => if wanted i then index i else addr) 0 =
      match (slots.filter wanted).getLast? with
      | some i => index i
      | none => 0 := by
  induction slots using List.reverseRecOn with
  | nil => rfl
  | append_singleton slots i ih =>
    rw [List.foldl_append, List.filter_append, List.foldl_cons, List.foldl_nil, ih]
    by_cases here : wanted i
    · simp [here]
    · simp [here]

/-- A request for a preset keeps the table and sends its number. -/
theorem go_kept {names : List (List UInt8)} (held : Held sizes s)
    (meets : Meets sizes s.table (.go names)) :
    Kept sizes s (.go names) ∧ Held sizes (s.step sizes (.go names)) := by
  obtain ⟨name, copies⟩ := meets
  have outcome : (PresetCommand.go names).run sizes s.table = some (uriGo sizes s.table name) :=
    uriPtzPreset_eq copies
  refine kept_of outcome held.same ⟨name, copies.2.1, rfl, ?_⟩
  have point := foldl_last (fun i : Nat => s.table.index i) (fun i : Nat => s.table.name i = name)
    (List.range sizes.maxPtzpresetNum)
  simp only [point]
  change send _ (match s.table.last sizes name with
    | some i => s.table.index i
    | none => 0) = _
  cases found : s.table.last sizes name with
  | none => rfl
  | some i =>
    obtain ⟨member, named⟩ := List.mem_filter.mp (List.mem_of_getLast? found)
    have inside : i < sizes.maxPtzpresetNum := List.mem_range.mp member
    have named : s.table.name i = name := of_decide_eq_true named
    dsimp only
    by_cases empty : name = []
    · rw [if_pos empty, held.free i inside (named.trans empty)]
      rfl
    · have slot : s.table.Named sizes i := ⟨inside, by rw [named]; exact empty⟩
      have positive := (held.numbered.range i slot).1
      rw [if_neg empty, held.assigned i slot]
      exact if_pos (by omega)

/-- The name that `set_createpreset` reads behind one or two characters and a colon is the one that
is written. -/
theorem createName_written {stack text : List UInt8} (plain : 0 ∉ text)
    (width : (text.takeWhile (· ≠ 58)).length = if 9 < atoi text then 2 else 1)
    (named : writtenName text ≠ []) : createName stack text = some (writtenName text) := by
  obtain ⟨tail, back⟩ : ∃ tail, text.dropWhile (· ≠ 58) = 58 :: tail := by
    cases rest : text.dropWhile (· ≠ 58) with
    | nil =>
      rw [writtenName, rest] at named
      exact absurd rfl named
    | cons c tail =>
      have first := List.head_dropWhile_not (· ≠ (58 : UInt8)) (l := text) (by rw [rest]; simp)
      simp only [rest, List.head_cons] at first
      exact ⟨tail, by rw [show c = 58 by simpa using first]⟩
  have written : writtenName text = tail := by
    rw [writtenName, back]
    rfl
  generalize token : text.takeWhile (· ≠ 58) = front at width
  have whole : text = front ++ 58 :: tail := by
    rw [← token, ← back]
    exact List.takeWhile_append_dropWhile.symm
  have rest : text.dropWhile (· = 58) = text := by
    cases front with
    | nil =>
      rw [List.length_nil] at width
      split at width <;> cases width
    | cons c front =>
      have other : c ≠ 58 := by
        have member : c ∈ text.takeWhile (· ≠ 58) := by
          rw [token]
          exact List.mem_cons_self
        simpa using List.mem_takeWhile_imp member
      rw [whole, List.cons_append, List.dropWhile_cons_of_neg (by simpa using other)]
  have nonempty : text ≠ [] := by simp [whole]
  have behind : text.drop (front.length + 1) = tail := by
    rw [whole, List.drop_append, List.drop_eq_nil_of_le (by omega)]
    simp
  have offset : (if 9 < atoi text then 3 else 2) = front.length + 1 := by
    rw [width]
    split <;> rfl
  have memory : tokenMemory stack text = some (front ++ 0 :: (tail ++ 0 :: stack)) := by
    simp only [tokenMemory, rest, if_neg nonempty, token, behind]
  have stop : (tail ++ 0 :: stack).takeWhile (· ≠ 0) = tail := by
    have solid : ∀ c ∈ tail, decide (c ≠ 0) = true := by
      intro c member
      have inside : c ∈ text := by simp [whole, member]
      simp only [decide_eq_true_eq]
      rintro rfl
      exact plain inside
    rw [List.takeWhile_append_of_pos solid]
    simp
  rw [createName, memory, Option.map_some, offset, written, List.drop_append,
    List.drop_eq_nil_of_le (by omega)]
  simp only [Nat.add_sub_cancel_left, List.drop_succ_cons, List.drop_zero, List.nil_append, stop]

/-- A creation keeps the table. -/
theorem create_kept {stack : Stack} {text : List UInt8} {plain : 0 ∉ text}
    (held : Held sizes s) (meets : Meets sizes s.table (.create stack text plain)) :
    Kept sizes s (.create stack text plain) ∧
      Held sizes (s.step sizes (.create stack text plain)) := by
  obtain ⟨⟨fits, name, read, short⟩, meets⟩ := meets
  by_cases accepted : atoi text ≤ sizes.maxPtzpresetNum ∧ atoi text ≠ 0
  · obtain ⟨width, named, positive, free, unused⟩ := meets accepted.1 accepted.2
    have written := read.symm.trans (createName_written plain width named)
    cases written
    obtain ⟨i, found⟩ := find_of_exists free
    obtain ⟨inside, empty⟩ := find_some found
    have bound := sizes.small
    have number : atoi text = leadingInt text := by
      have most := accepted.1
      rw [atoi_eq] at positive most ⊢
      unfold clampInt at positive most ⊢
      omega
    have outcome : (PresetCommand.create stack text plain).run sizes s.table =
        some ⟨s.table.put i (atoi text) (writtenName text), [.ok], []⟩ := by
      simp only [PresetCommand.run, setCreatepreset, if_neg (Nat.not_le.mpr fits), read,
        Option.bind_eq_bind, Option.bind_some, if_neg (Nat.not_le.mpr short), if_pos accepted,
        found, Option.map_some, Option.getD_some]
    refine kept_of outcome (held.put empty named ⟨by omega, accepted.1⟩ unused) ⟨fun _ => ?_, ?_⟩
    · refine ⟨i, inside, empty, ?_⟩
      rw [number]
    · intro refused
      cases refused
  · have outcome : (PresetCommand.create stack text plain).run sizes s.table =
        some ⟨s.table, [.ng], []⟩ := by
      simp only [PresetCommand.run, setCreatepreset, if_neg (Nat.not_le.mpr fits), read,
        Option.bind_eq_bind, Option.bind_some, if_neg (Nat.not_le.mpr short), if_neg accepted]
    refine kept_of outcome held.same ⟨?_, fun _ => rfl⟩
    intro taken
    cases taken

/-- The loop of a deletion finds the slot with the number among those with a name. -/
theorem deleteSearch_eq (table : PresetTable) (delIndex : Int) (num : Int) (slots : List Nat) :
    deleteSearch table delIndex num slots =
      if num ≤ delIndex then
        match (slots.filter fun i : Nat => table.name i ≠ [])[(delIndex - num).toNat]? with
        | some i => (i : Int)
        | none => -1
      else -1 := by
  induction slots generalizing num with
  | nil => simp [deleteSearch]
  | cons i slots ih =>
    unfold deleteSearch
    by_cases named : table.name i ≠ []
    · rw [if_pos named, List.filter_cons_of_pos (by simpa using named), ih]
      by_cases here : num = delIndex
      · rw [if_pos here, if_pos (by omega), here, Int.sub_self]
        rfl
      · rw [if_neg here]
        by_cases later : num ≤ delIndex
        · have count : (delIndex - num).toNat = (delIndex - (num + 1)).toNat + 1 := by omega
          rw [if_pos later, if_pos (by omega), count, List.getElem?_cons_succ]
        · rw [if_neg later, if_neg (by omega)]
    · rw [if_neg named, List.filter_cons_of_neg (by simpa using named), ih]

/-- A deletion by place keeps the table. -/
theorem delete_kept {text : List UInt8} (held : Held sizes s)
    (meets : Meets sizes s.table (.delete text)) :
    Kept sizes s (.delete text) ∧ Held sizes (s.step sizes (.delete text)) := by
  obtain ⟨least, most⟩ := meets
  have bound := sizes.small
  have length : (s.table.namedSlots sizes).length ≤ sizes.maxPtzpresetNum := by
    have filtered := List.length_filter_le (fun i : Nat => decide (s.table.name i ≠ []))
      (List.range sizes.maxPtzpresetNum)
    rw [List.length_range] at filtered
    exact filtered
  have number : atoi text = leadingInt text := by
    rw [atoi_eq]
    unfold clampInt
    omega
  have at_i : (s.table.namedSlots sizes)[(leadingInt text).toNat]? =
      some (s.table.namedSlots sizes)[(leadingInt text).toNat] :=
    List.getElem?_eq_getElem (by omega)
  generalize (s.table.namedSlots sizes)[(leadingInt text).toNat] = i at at_i
  have inside : i < sizes.maxPtzpresetNum :=
    List.mem_range.mp (List.mem_of_mem_filter (List.mem_of_getElem? at_i))
  have found : deleteSearch s.table (atoi text) 0 (List.range sizes.maxPtzpresetNum) = i := by
    rw [deleteSearch_eq, number, if_pos least, Int.sub_zero]
    rw [PresetTable.namedSlots] at at_i
    rw [at_i]
  have outcome : (PresetCommand.delete text).run sizes s.table =
      some ⟨s.table.put i 0 [], [.ok], []⟩ := by
    have size : ¬atoi text > sizes.maxPtzpresetNum := by omega
    have missing : ¬(i : Int) = -1 := by omega
    have last : (i : Int) < sizes.maxPtzpresetNum := by omega
    simp only [PresetCommand.run, setDeletepreset, found, if_neg size, if_neg missing, if_pos last,
      List.nil_append]
  refine kept_of outcome (held.clear i) ?_
  simp only [Effect, PresetTable.designated, if_pos least, at_i]

end Commands

/-! ## Runs -/

/-- A command that meets the condition keeps the table. -/
theorem command_kept {sizes : Sizes} {s : Traced} {command : PresetCommand}
    (held : Held sizes s) (meets : Meets sizes s.table command) :
    Kept sizes s command ∧ Held sizes (s.step sizes command) := by
  cases command with
  | add names => exact add_kept held meets
  | del names => exact del_kept held meets
  | go names => exact go_kept held meets
  | create stack text plain => exact create_kept held meets
  | delete text => exact delete_kept held meets

/-- An empty table. -/
def PresetTable.empty : PresetTable := ⟨fun _ => 0, fun _ => []⟩

end BoaIpcam.Rs485
