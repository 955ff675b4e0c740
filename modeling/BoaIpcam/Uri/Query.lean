import BoaIpcam.CString
import Mathlib.Data.List.Basic

/-!
# Decoding of the query string

`uri_decoding` of `cgi.c` copies the query string into the buffer `cmd_string`, byte by byte,
and keeps in `cmd_arg` where the name and the value of each argument start. The text is read
up to its terminating NUL; a read beyond it is no value here. Whether plain `char` is signed
decides what the entries `-1` of the table `hex_ascii` are, so it is a parameter.

Above the function stands what it computes: the text is scanned into items, the items between
two ampersands are the field of an argument, and the buffer and the offsets are those of the
fields.
-/
namespace BoaIpcam

/-! ## The function -/

/-- `MAX_CMD_LENGTH`. -/
def maxCmdLength : Nat := 2048

/-- `MAX_CMD_NUM`. -/
def maxCmdNum : Nat := 64

/-- An entry of `hex_ascii`, promoted to `int`. -/
def hexAscii (signed : Bool) (c : UInt8) : BitVec 32 :=
  if 48 ≤ c ∧ c ≤ 57 then BitVec.ofNat 32 (c.toNat - 48)
  else if 65 ≤ c ∧ c ≤ 70 then BitVec.ofNat 32 (c.toNat - 55)
  else if 97 ≤ c ∧ c ≤ 102 then BitVec.ofNat 32 (c.toNat - 87)
  else if signed then -1#32
  else 255#32

/-- `ascii_to_hex` after the two look-ups. -/
def joinHex (high low : BitVec 32) : BitVec 32 := high <<< 4 ||| low

/-- `ascii_to_hex`. -/
def asciiToHex (signed : Bool) (c d : UInt8) : BitVec 32 :=
  joinHex (hexAscii signed c) (hexAscii signed d)

/-- The conversion of an `int` to `char`. -/
def toChar (hex : BitVec 32) : UInt8 := UInt8.ofBitVec (hex.setWidth 8)

/-- `COMMAND_ARGUMENT`. The name is its offset in the buffer, and so is the value unless it is
the constant `zero`. -/
structure CommandArgument where
  /-- The offset of the name. -/
  name : Nat
  /-- The offset of the value. -/
  value : Option Nat
  /-- `flags`. -/
  flags : Int
deriving DecidableEq, Repr

/-- What `uri_decoding` leaves in the request: the bytes written to `cmd_string` and the first
`cmd_count` entries of `cmd_arg`. -/
structure CommandLine where
  /-- The bytes of the buffer. -/
  cmdString : List UInt8
  /-- The arguments. -/
  cmdArg : List CommandArgument
deriving DecidableEq, Repr

/-- `cmd_count`. -/
def CommandLine.cmdCount (line : CommandLine) : Nat := line.cmdArg.length

/-- The state of the loop: the bytes before `buf`, the arguments before `cmd_count` and the one
at it. -/
structure Decoding where
  /-- The bytes that were written. -/
  written : List UInt8
  /-- The arguments that have ended. -/
  finished : List CommandArgument
  /-- The one that has not. -/
  current : CommandArgument
deriving DecidableEq, Repr

namespace Decoding

/-- The state before the loop. -/
def start : Decoding := ⟨[], [], ⟨0, none, 0⟩⟩

/-- `*buf++ = c`. -/
def write (state : Decoding) (c : UInt8) : Decoding := { state with written := state.written ++ [c] }

/-- `*buf = '\0'` and `cmd_count++`, which end the function. -/
def close (state : Decoding) : CommandLine :=
  ⟨state.written ++ [0], state.finished ++ [state.current]⟩

/-- The case `'&'` while there is room for another argument. -/
def nextArgument (state : Decoding) : Decoding :=
  ⟨state.written ++ [0], state.finished ++ [state.current], ⟨state.written.length + 1, none, 0⟩⟩

/-- The case `'='`. -/
def startValue (state : Decoding) : Decoding :=
  { state with
    written := state.written ++ [0]
    current := { state.current with value := some (state.written.length + 1) } }

/-- The end of the loop's body: it goes on while `buf < buf_end`. -/
def proceed (state : Decoding) (next : Decoding → Option CommandLine) : Option CommandLine :=
  if state.written.length < maxCmdLength - 1 then next state else some state.close

/-- The case `'&'`: the function returns when all arguments are used. -/
def ampersand (state : Decoding) (next : Decoding → Option CommandLine) : Option CommandLine :=
  if maxCmdNum ≤ state.finished.length + 1 then some state.close
  else state.nextArgument.proceed next

end Decoding

/-- The loop of `uri_decoding` on the bytes that are left, the terminator included; none when
it reads beyond them. -/
def decodeFrom (signed : Bool) : List UInt8 → Decoding → Option CommandLine
  | [], _ => none
  | 43 :: rest, state => (state.write 32).proceed fun next => decodeFrom signed rest next
  | 37 :: c :: d :: rest, state =>
    if 0 < (asciiToHex signed c d).toInt then
      (state.write (toChar (asciiToHex signed c d))).proceed fun next => decodeFrom signed rest next
    else state.proceed fun next => decodeFrom signed (c :: d :: rest) next
  | 37 :: _, _ => none
  | 38 :: rest, state => state.ampersand fun next => decodeFrom signed rest next
  | 61 :: rest, state => state.startValue.proceed fun next => decodeFrom signed rest next
  | 0 :: _, state => some state.close
  | 10 :: _, state => some state.close
  | 13 :: _, state => some state.close
  | 32 :: _, state => some state.close
  | c :: rest, state => (state.write c).proceed fun next => decodeFrom signed rest next

/-- `uri_decoding` on the text of the query string, if there is one: `-1` or the command line. -/
def uriDecoding (signed memory : Bool) (data : Option (List UInt8)) :
    Option (Except Int CommandLine) :=
  match data with
  | none => some (.error (-1))
  | some text =>
    if memory then (decodeFrom signed (text ++ [0]) .start).map .ok
    else some (.error (-1))

/-- The C string at an offset of the buffer, if it ends inside what was written. -/
def CommandLine.string (line : CommandLine) (offset : Nat) : Option (List UInt8) :=
  (splitAtByte 0 (line.cmdString.drop offset)).map (·.1)

/-- `cmd_arg[i].name`. -/
def CommandLine.nameOf (line : CommandLine) (arg : CommandArgument) : Option (List UInt8) :=
  line.string arg.name

/-- `cmd_arg[i].value`. -/
def CommandLine.valueOf (line : CommandLine) (arg : CommandArgument) : Option (List UInt8) :=
  match arg.value with
  | none => some []
  | some offset => line.string offset

example : (decodeFrom true (ascii "a=b+%41&c" ++ [0]) .start).map (fun line =>
    line.cmdArg.map fun arg => (line.nameOf arg, line.valueOf arg)) =
    some [(some (ascii "a"), some (ascii "b A")), (some (ascii "c"), some [])] := by decide

/-! ## The items of the text -/

/-- What one step of the loop adds to the buffer. -/
inductive Item where
  | byte (c : UInt8)
  | amp
  | equals
deriving DecidableEq, Repr

/-- The byte that an item puts into the buffer. -/
def Item.stored : Item → UInt8
  | .byte c => c
  | .amp => 0
  | .equals => 0

/-- The byte that an item stands for. -/
def Item.meant : Item → UInt8
  | .byte c => c
  | .amp => 38
  | .equals => 61

/-- The items of the text and whether they are followed by one of the bytes that end it. The
scan stops without one when an escape reaches beyond the text. -/
def scan (signed : Bool) : List UInt8 → List Item × Bool
  | [] => ([], false)
  | 43 :: rest => (.byte 32 :: (scan signed rest).1, (scan signed rest).2)
  | 37 :: c :: d :: rest =>
    if 0 < (asciiToHex signed c d).toInt then
      (.byte (toChar (asciiToHex signed c d)) :: (scan signed rest).1, (scan signed rest).2)
    else scan signed (c :: d :: rest)
  | 37 :: _ => ([], false)
  | 38 :: rest => (.amp :: (scan signed rest).1, (scan signed rest).2)
  | 61 :: rest => (.equals :: (scan signed rest).1, (scan signed rest).2)
  | 0 :: _ => ([], true)
  | 10 :: _ => ([], true)
  | 13 :: _ => ([], true)
  | 32 :: _ => ([], true)
  | c :: rest => (.byte c :: (scan signed rest).1, (scan signed rest).2)

/-- The loop on the items of the text. -/
def consume (ended : Bool) : List Item → Decoding → Option CommandLine
  | [], state => if ended then some state.close else none
  | .byte c :: rest, state => (state.write c).proceed fun next => consume ended rest next
  | .amp :: rest, state => state.ampersand fun next => consume ended rest next
  | .equals :: rest, state => state.startValue.proceed fun next => consume ended rest next

/-- A state that has room goes on. -/
theorem Decoding.proceed_room {state : Decoding} (room : state.written.length < maxCmdLength - 1)
    (next : Decoding → Option CommandLine) : state.proceed next = next state := if_pos room

/-- A state without room is closed. -/
theorem Decoding.proceed_full {state : Decoding}
    (full : ¬state.written.length < maxCmdLength - 1) (next : Decoding → Option CommandLine) :
    state.proceed next = some state.close := if_neg full

/-- Two continuations that agree on the states with room are the same. -/
theorem Decoding.proceed_congr {first second : Decoding → Option CommandLine}
    (same : ∀ next : Decoding, next.written.length < maxCmdLength - 1 → first next = second next)
    (state : Decoding) : state.proceed first = state.proceed second := by
  by_cases room : state.written.length < maxCmdLength - 1
  · rw [proceed_room room, proceed_room room, same state room]
  · rw [proceed_full room, proceed_full room]

/-- So are they after an ampersand. -/
theorem Decoding.ampersand_congr {first second : Decoding → Option CommandLine}
    (same : ∀ next : Decoding, next.written.length < maxCmdLength - 1 → first next = second next)
    (state : Decoding) : state.ampersand first = state.ampersand second := by
  unfold ampersand
  rw [proceed_congr same]

/-- The loop depends on the text through its items only. -/
theorem decodeFrom_eq_consume (signed : Bool) (text : List UInt8) (state : Decoding)
    (room : state.written.length < maxCmdLength - 1) :
    decodeFrom signed text state = consume (scan signed text).2 (scan signed text).1 state := by
  fun_induction scan signed text generalizing state with
  | case1 => rfl
  | case2 rest ih => exact Decoding.proceed_congr ih _
  | case3 c d rest positive ih =>
    simp only [decodeFrom, if_pos positive]
    exact Decoding.proceed_congr ih _
  | case4 c d rest invalid ih =>
    simp only [decodeFrom, if_neg invalid, Decoding.proceed_room room]
    exact ih state room
  | case5 rest short =>
    match rest with
    | [] => rfl
    | [_] => rfl
    | c :: d :: rest => exact absurd rfl (short c d rest)
  | case6 rest ih => exact Decoding.ampersand_congr ih _
  | case7 rest ih => exact Decoding.proceed_congr ih _
  | case8 => rfl
  | case9 => rfl
  | case10 => rfl
  | case11 => rfl
  | case12 c rest _ _ _ _ _ _ _ _ _ ih =>
    rw [decodeFrom]
    · exact Decoding.proceed_congr ih _
    all_goals assumption

/-! ## The fields of the arguments -/

/-- Where the value of a field starts: after its last equals sign. -/
def valueStart : List Item → Option Nat
  | [] => none
  | item :: rest =>
    match valueStart rest with
    | some offset => some (offset + 1)
    | none => if item = .equals then some 1 else none

/-- The argument of a field that is stored from an offset on. -/
def argumentAt (offset : Nat) (field : List Item) : CommandArgument :=
  ⟨offset, (valueStart field).map (offset + ·), 0⟩

/-- The bytes of the fields, each followed by a NUL. -/
def storedFields (fields : List (List Item)) : List UInt8 :=
  fields.flatMap fun field => field.map Item.stored ++ [0]

/-- The arguments of fields that are stored from an offset on. -/
def argumentsFrom (offset : Nat) : List (List Item) → List CommandArgument
  | [] => []
  | field :: fields => argumentAt offset field :: argumentsFrom (offset + field.length + 1) fields

/-- The command line of some fields. -/
def lineOf (fields : List (List Item)) : CommandLine :=
  ⟨storedFields fields, argumentsFrom 0 fields⟩

/-- The state in which some fields are finished and another has begun. -/
def Decoding.of (done : List (List Item)) (field : List Item) : Decoding :=
  ⟨storedFields done ++ field.map Item.stored, argumentsFrom 0 done,
    argumentAt (storedFields done).length field⟩

/-- A byte does not move the value of its field. -/
theorem valueStart_byte (field : List Item) (c : UInt8) :
    valueStart (field ++ [.byte c]) = valueStart field := by
  induction field with
  | nil => rfl
  | cons item rest ih => simp only [List.cons_append, valueStart, ih]

/-- An equals sign starts the value anew. -/
theorem valueStart_equals (field : List Item) :
    valueStart (field ++ [.equals]) = some (field.length + 1) := by
  induction field with
  | nil => rfl
  | cons item rest ih => simp only [List.cons_append, valueStart, ih, List.length_cons]

/-- There are as many arguments as fields. -/
@[simp] theorem argumentsFrom_length (offset : Nat) (fields : List (List Item)) :
    (argumentsFrom offset fields).length = fields.length := by
  induction fields generalizing offset with
  | nil => rfl
  | cons field fields ih => simp only [argumentsFrom, List.length_cons, ih]

/-- The argument of a last field starts after the fields before it. -/
theorem argumentsFrom_append (offset : Nat) (done : List (List Item)) (field : List Item) :
    argumentsFrom offset (done ++ [field]) =
      argumentsFrom offset done ++ [argumentAt (offset + (storedFields done).length) field] := by
  induction done generalizing offset with
  | nil => rfl
  | cons first done ih =>
    have place : offset + first.length + 1 + (storedFields done).length =
        offset + (storedFields (first :: done)).length := by
      simp only [storedFields, List.flatMap_cons, List.length_append, List.length_map,
        List.length_cons, List.length_nil]
      omega
    simp only [List.cons_append, argumentsFrom, ih, place]

/-- The bytes of a last field stand behind those before it. -/
theorem storedFields_append (done : List (List Item)) (field : List Item) :
    storedFields (done ++ [field]) = storedFields done ++ (field.map Item.stored ++ [0]) := by
  simp only [storedFields, List.flatMap_append, List.flatMap_cons, List.flatMap_nil,
    List.append_nil]

namespace Decoding

/-- Writing a byte extends the field. -/
theorem of_write (done : List (List Item)) (field : List Item) (c : UInt8) :
    (Decoding.of done field).write c = Decoding.of done (field ++ [.byte c]) := by
  simp only [of, write, argumentAt, valueStart_byte, List.map_append, List.map_cons,
    List.map_nil, Item.stored, List.append_assoc]

/-- Starting the value extends the field by an equals sign. -/
theorem of_startValue (done : List (List Item)) (field : List Item) :
    (Decoding.of done field).startValue = Decoding.of done (field ++ [.equals]) := by
  simp only [of, startValue, argumentAt, valueStart_equals, List.map_append, List.map_cons,
    List.map_nil, Item.stored, List.append_assoc, List.length_append, List.length_map,
    Option.map_some, Nat.add_assoc]

/-- An ampersand finishes the field. -/
theorem of_nextArgument (done : List (List Item)) (field : List Item) :
    (Decoding.of done field).nextArgument = Decoding.of (done ++ [field]) [] := by
  simp only [of, nextArgument, argumentAt, argumentsFrom_append, storedFields_append,
    List.map_nil, List.append_nil, List.append_assoc, valueStart, Option.map_none,
    List.length_append, List.length_cons, List.length_nil, Nat.zero_add, Nat.add_assoc]

/-- Closing the state finishes the field too. -/
theorem of_close (done : List (List Item)) (field : List Item) :
    (Decoding.of done field).close = lineOf (done ++ [field]) := by
  simp only [of, close, lineOf, argumentsFrom_append, storedFields_append, List.append_assoc,
    Nat.zero_add]

end Decoding

/-- The fields that fit: those of the items before the end of the buffer, up to the last
argument. -/
def keptFields (items : List Item) : List (List Item) :=
  ((items.take (maxCmdLength - 1)).splitOn .amp).take maxCmdNum

/-- The items of a text bring the loop to its end: the text ends, or the buffer or the table of
arguments is full before. -/
def ScanStops (ended : Bool) (items : List Item) : Prop :=
  ended = true ∨ maxCmdLength - 1 ≤ items.length ∨ maxCmdNum ≤ items.count .amp

instance (ended : Bool) (items : List Item) : Decidable (ScanStops ended items) :=
  inferInstanceAs (Decidable (_ ∨ _ ∨ _))

/-- An item that is no ampersand extends the field in front of it. -/
theorem splitOn_take_cons {item : Item} (inside : item ≠ .amp) (field rest : List Item)
    {room : Nat} (positive : 0 < room) :
    (((item :: rest).take room).splitOn .amp).modifyHead (field ++ ·) =
      ((rest.take (room - 1)).splitOn .amp).modifyHead ((field ++ [item]) ++ ·) := by
  obtain ⟨less, rfl⟩ := Nat.exists_eq_add_of_lt positive
  rw [Nat.zero_add, Nat.add_sub_cancel, List.take_succ_cons, List.splitOn_cons_eq_if_modifyHead,
    if_neg (by simpa using inside), List.modifyHead_modifyHead]
  simp only [Function.comp_def, List.append_assoc, List.singleton_append]

/-- What is left of the buffer in a state. -/
def Decoding.room (state : Decoding) : Nat := maxCmdLength - 1 - state.written.length

/-- What the loop makes of the items that follow some finished fields and a field begun. -/
def outcome (ended : Bool) (items : List Item) (done : List (List Item)) (field : List Item) :
    Option CommandLine :=
  if ended = true ∨ (Decoding.of done field).room ≤ items.length ∨
      maxCmdNum ≤ done.length + items.count .amp then
    some (lineOf ((done ++ ((items.take (Decoding.of done field).room).splitOn .amp).modifyHead
      (field ++ ·)).take maxCmdNum))
  else none

/-- Every item takes one byte of the room. -/
theorem Decoding.of_room_append (done : List (List Item)) (field : List Item) (item : Item) :
    (Decoding.of done (field ++ [item])).room = (Decoding.of done field).room - 1 := by
  simp only [room, of, List.length_append, List.length_map, List.length_cons, List.length_nil]
  omega

/-- So does the ampersand that finishes a field. -/
theorem Decoding.of_room_next (done : List (List Item)) (field : List Item) :
    (Decoding.of (done ++ [field]) []).room = (Decoding.of done field).room - 1 := by
  simp only [room, of, storedFields_append, List.length_append, List.length_map,
    List.length_cons, List.length_nil, List.map_nil]
  omega

/-- The state has room exactly when the loop goes on. -/
theorem Decoding.room_pos {state : Decoding} :
    0 < state.room ↔ state.written.length < maxCmdLength - 1 := by
  unfold room
  omega

/-- An item that is no ampersand extends the field. -/
theorem outcome_cons {item : Item} (inside : item ≠ .amp) (ended : Bool) (rest : List Item)
    (done : List (List Item)) (field : List Item) (room : 0 < (Decoding.of done field).room) :
    outcome ended (item :: rest) done field = outcome ended rest done (field ++ [item]) := by
  have count : (item :: rest).count .amp = rest.count .amp := List.count_cons_of_ne inside
  have fits : (Decoding.of done field).room ≤ (item :: rest).length ↔
      (Decoding.of done field).room - 1 ≤ rest.length := by
    rw [List.length_cons]
    omega
  simp only [outcome, count, fits, Decoding.of_room_append,
    splitOn_take_cons inside field rest room]

/-- Without room the field is the last one. -/
theorem outcome_full (ended : Bool) (items : List Item) {done : List (List Item)}
    {field : List Item} (few : done.length < maxCmdNum)
    (full : ¬0 < (Decoding.of done field).room) :
    outcome ended items done field = some (Decoding.of done field).close := by
  have none : (Decoding.of done field).room = 0 := by omega
  have all : (done ++ [field]).take maxCmdNum = done ++ [field] :=
    List.take_of_length_le (by rw [List.length_append, List.length_singleton]; omega)
  rw [outcome, if_pos (Or.inr (Or.inl (by omega))), none, List.take_zero, List.splitOn_nil,
    List.modifyHead_cons, List.append_nil, all, Decoding.of_close]

/-- Adding nothing to the first field changes nothing. -/
theorem modifyHead_self (fields : List (List Item)) :
    fields.modifyHead (fun field => field) = fields := by
  cases fields <;> rfl

/-- An ampersand ends the field in front of it. -/
theorem splitOn_take_amp (field rest : List Item) {room : Nat} (positive : 0 < room) :
    (((Item.amp :: rest).take room).splitOn .amp).modifyHead (field ++ ·) =
      field :: (rest.take (room - 1)).splitOn .amp := by
  obtain ⟨less, rfl⟩ := Nat.exists_eq_add_of_lt positive
  rw [Nat.zero_add, Nat.add_sub_cancel, List.take_succ_cons, List.splitOn_cons_eq_if_modifyHead,
    if_pos (by rfl), List.modifyHead_cons, List.append_nil]

/-- After an ampersand the next field begins. -/
theorem outcome_amp (ended : Bool) (rest : List Item) (done : List (List Item))
    (field : List Item) (room : 0 < (Decoding.of done field).room) :
    outcome ended (.amp :: rest) done field = outcome ended rest (done ++ [field]) [] := by
  have count : (Item.amp :: rest).count .amp = rest.count .amp + 1 := List.count_cons_self
  have fits : (Decoding.of done field).room ≤ (Item.amp :: rest).length ↔
      (Decoding.of done field).room - 1 ≤ rest.length := by
    rw [List.length_cons]
    omega
  have fewer : maxCmdNum ≤ done.length + (rest.count Item.amp + 1) ↔
      maxCmdNum ≤ (done ++ [field]).length + rest.count .amp := by
    rw [List.length_append, List.length_singleton]
    omega
  simp only [outcome, count, fits, fewer, splitOn_take_amp field rest room,
    Decoding.of_room_next, List.nil_append, modifyHead_self, List.append_assoc,
    List.singleton_append]

/-- When all arguments are used, the fields that follow are dropped. -/
theorem outcome_last (ended : Bool) (items : List Item) {done : List (List Item)}
    {field : List Item} (last : (done ++ [field]).length = maxCmdNum) :
    outcome ended items (done ++ [field]) [] = some (lineOf (done ++ [field])) := by
  rw [outcome, if_pos (Or.inr (Or.inr (by omega))), List.take_append_of_le_length (by omega),
    List.take_of_length_le (by omega)]

/-- The loop computes the outcome. -/
theorem consume_eq_outcome (ended : Bool) (items : List Item) (done : List (List Item))
    (field : List Item) (few : done.length < maxCmdNum)
    (room : 0 < (Decoding.of done field).room) :
    consume ended items (Decoding.of done field) = outcome ended items done field := by
  -- The test of the room, at the state that an item leads to.
  have test : ∀ (rest : List Item) (done : List (List Item)) (field : List Item),
      done.length < maxCmdNum →
      (0 < (Decoding.of done field).room →
        consume ended rest (Decoding.of done field) = outcome ended rest done field) →
      ((Decoding.of done field).proceed fun next => consume ended rest next) =
        outcome ended rest done field := by
    intro rest done field few ih
    by_cases free : 0 < (Decoding.of done field).room
    · rw [Decoding.proceed_room (Decoding.room_pos.mp free)]
      exact ih free
    · rw [Decoding.proceed_full (mt Decoding.room_pos.mpr free), outcome_full ended rest few free]
  induction items generalizing done field with
  | nil =>
    have unfinished : ¬((Decoding.of done field).room ≤ ([] : List Item).length ∨
        maxCmdNum ≤ done.length + ([] : List Item).count .amp) := by
      simp only [List.length_nil, List.count_nil]
      omega
    have all : (done ++ [field]).take maxCmdNum = done ++ [field] :=
      List.take_of_length_le (by rw [List.length_append, List.length_singleton]; omega)
    simp only [consume, outcome, or_iff_left unfinished, List.take_nil, List.splitOn_nil,
      List.modifyHead_cons, List.append_nil, all, Decoding.of_close]
  | cons item rest ih =>
    cases item with
    | byte c =>
      show ((Decoding.of done field).write c).proceed _ = _
      rw [Decoding.of_write, outcome_cons (by simp) ended rest done field room]
      exact test rest done _ few (ih done _ few)
    | equals =>
      show (Decoding.of done field).startValue.proceed _ = _
      rw [Decoding.of_startValue, outcome_cons (by simp) ended rest done field room]
      exact test rest done _ few (ih done _ few)
    | amp =>
      have count : (Decoding.of done field).finished.length = done.length :=
        argumentsFrom_length 0 done
      show (Decoding.of done field).ampersand _ = _
      rw [outcome_amp ended rest done field room, Decoding.ampersand, count]
      by_cases full : maxCmdNum ≤ done.length + 1
      · have last : (done ++ [field]).length = maxCmdNum := by
          rw [List.length_append, List.length_singleton]
          omega
        rw [if_pos full, outcome_last ended rest last, Decoding.of_close]
      · have fewer : (done ++ [field]).length < maxCmdNum := by
          rw [List.length_append, List.length_singleton]
          omega
        rw [if_neg full, Decoding.of_nextArgument]
        exact test rest _ [] fewer (ih _ [] fewer)

/-- The loop returns exactly when the items of the text bring it to its end, with the command
line of the fields that fit. -/
theorem decodeFrom_start (signed : Bool) (text : List UInt8) :
    decodeFrom signed text .start =
      if ScanStops (scan signed text).2 (scan signed text).1 then
        some (lineOf (keptFields (scan signed text).1))
      else none := by
  have first : Decoding.start = Decoding.of [] [] := rfl
  have room : (Decoding.of [] []).room = maxCmdLength - 1 := rfl
  rw [decodeFrom_eq_consume signed text .start (by decide), first,
    consume_eq_outcome _ _ [] [] (by decide) (by decide)]
  simp only [outcome, room, modifyHead_self, List.nil_append, List.length_nil, Nat.zero_add,
    keptFields]
  rfl

end BoaIpcam
