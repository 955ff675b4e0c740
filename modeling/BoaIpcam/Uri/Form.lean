import BoaIpcam.Uri.Query
import BoaIpcam.Lib.Splits

/-!
# The arguments of a query string

The names and values that a caller of `uri_decoding` reads are those of the fields of the text:
a name is what stands before the first equals sign, and a value is what stands after the last.
A text that is the encoding of some pairs decodes to these pairs; on any text the function is
safe exactly when no escape reaches beyond the text before the function has stopped.
-/
namespace BoaIpcam

/-! ## Strings of the buffer -/

/-- The name of a field. -/
def fieldName (field : List Item) : List UInt8 :=
  (field.takeWhile (· ≠ .equals)).map Item.meant

/-- What stands after the last equals sign of a field, nothing without one. -/
def fieldValue (field : List Item) : List UInt8 :=
  match valueStart field with
  | none => []
  | some offset => (field.drop offset).map Item.meant

/-- What stands after the first equals sign of a field, nothing without one. -/
def afterFirst (field : List Item) : List UInt8 :=
  ((field.dropWhile (· ≠ .equals)).drop 1).map Item.meant

/-- An item that a field can hold: no ampersand and no NUL. -/
def Item.Inner : Item → Prop
  | .byte c => c ≠ 0
  | .amp => False
  | .equals => True

/-- The string in front of a NUL. -/
theorem splitAtByte_zero (text rest : List UInt8) :
    (splitAtByte 0 (text ++ 0 :: rest)).map (·.1) = some (text.takeWhile (· ≠ 0)) := by
  induction text with
  | nil => rfl
  | cons c text ih =>
    by_cases zero : c = 0
    · simp [splitAtByte, zero]
    · simp only [List.cons_append, splitAtByte, if_neg zero, Option.map_map]
      have inner := congrArg (Option.map (c :: ·)) ih
      rw [Option.map_map, Option.map_some] at inner
      rw [List.takeWhile_cons_of_pos (by simpa using zero)]
      exact inner

/-- In the buffer an equals sign ends the string. -/
theorem takeWhile_stored {field : List Item} (inner : ∀ item ∈ field, item.Inner) :
    (field.map Item.stored).takeWhile (· ≠ 0) = (field.takeWhile (· ≠ .equals)).map Item.meant := by
  induction field with
  | nil => rfl
  | cons item field ih =>
    have rest := ih fun other member => inner other (List.mem_cons_of_mem _ member)
    cases item with
    | byte c =>
      have proper : c ≠ 0 := inner (.byte c) List.mem_cons_self
      simp only [List.map_cons, Item.stored]
      rw [List.takeWhile_cons_of_pos (by simpa using proper),
        List.takeWhile_cons_of_pos (by simp), List.map_cons, rest, Item.meant]
    | amp => exact absurd (inner .amp List.mem_cons_self) id
    | equals => simp [Item.stored]

/-- The string at an offset inside a field. -/
theorem lineOf_string (before : List (List Item)) {field : List Item} (later : List (List Item))
    (inner : ∀ item ∈ field, item.Inner) {offset : Nat} (inside : offset ≤ field.length) :
    (lineOf (before ++ field :: later)).string ((storedFields before).length + offset) =
      some (fieldName (field.drop offset)) := by
  have text : (storedFields (before ++ field :: later)).drop
      ((storedFields before).length + offset) =
        (field.drop offset).map Item.stored ++ 0 :: storedFields later := by
    simp only [storedFields, List.flatMap_append, List.flatMap_cons, List.append_assoc]
    rw [← List.drop_drop, List.drop_left, List.drop_append_of_le_length (by simpa using inside),
      List.map_drop]
    rfl
  have members : ∀ item ∈ field.drop offset, item.Inner := fun item member =>
    inner item (List.mem_of_mem_drop member)
  rw [CommandLine.string, lineOf, text, splitAtByte_zero, takeWhile_stored members, fieldName]

/-- Where the value starts: nowhere without an equals sign, else after the last one. -/
theorem valueStart_cases (field : List Item) :
    (valueStart field = none ∧ .equals ∉ field) ∨
      ∃ before value, field = before ++ .equals :: value ∧ .equals ∉ value ∧
        valueStart field = some (before.length + 1) := by
  induction field with
  | nil => exact Or.inl ⟨rfl, List.not_mem_nil⟩
  | cons item field ih =>
    obtain ⟨start, absent⟩ | ⟨before, value, rfl, absent, start⟩ := ih
    · by_cases here : item = .equals
      · subst here
        exact Or.inr ⟨[], field, rfl, absent, by simp [valueStart, start]⟩
      · refine Or.inl ⟨by simp [valueStart, start, here], ?_⟩
        rw [List.mem_cons, not_or]
        exact ⟨fun same => here same.symm, absent⟩
    · exact Or.inr ⟨item :: before, value, rfl, absent, by simp [valueStart, start]⟩

/-- The part before an equals sign ends the name. -/
theorem fieldName_of_not_mem {field : List Item} (absent : Item.equals ∉ field) :
    fieldName field = field.map Item.meant := by
  have others : ∀ item ∈ field, decide (item ≠ .equals) = true := by
    intro item member
    exact decide_eq_true fun same => absent (same ▸ member)
  have all := @List.takeWhile_append_of_pos _ (fun item => decide (item ≠ .equals)) field [] others
  rw [List.append_nil, List.takeWhile_nil, List.append_nil] at all
  rw [fieldName, all]

/-- The strings of an argument are the name and the value of its field. -/
theorem lineOf_argument (before : List (List Item)) {field : List Item}
    (later : List (List Item)) (inner : ∀ item ∈ field, item.Inner) :
    let line := lineOf (before ++ field :: later)
    let arg := argumentAt (storedFields before).length field
    line.nameOf arg = some (fieldName field) ∧ line.valueOf arg = some (fieldValue field) := by
  constructor
  · exact lineOf_string before later inner (Nat.zero_le _)
  · obtain ⟨start, absent⟩ | ⟨first, value, rfl, absent, start⟩ := valueStart_cases field
    · simp only [CommandLine.valueOf, argumentAt, start, Option.map_none, fieldValue]
    · have drop : (first ++ .equals :: value).drop (first.length + 1) = value := by
        rw [← List.drop_drop, List.drop_left, List.drop_one, List.tail_cons]
      simp only [CommandLine.valueOf, argumentAt, start, Option.map_some, fieldValue]
      rw [lineOf_string before later inner (by simp), drop, fieldName_of_not_mem absent]

/-- The strings of all arguments. -/
theorem lineOf_strings (fields : List (List Item))
    (inner : ∀ field ∈ fields, ∀ item ∈ field, item.Inner) :
    (lineOf fields).cmdArg.map (fun arg => ((lineOf fields).nameOf arg, (lineOf fields).valueOf arg)) =
      fields.map fun field => (some (fieldName field), some (fieldValue field)) := by
  -- The induction is on the fields that follow those already read.
  have general : ∀ later before : List (List Item),
      (∀ field ∈ later, ∀ item ∈ field, item.Inner) → fields = before ++ later →
      (argumentsFrom (storedFields before).length later).map
          (fun arg => ((lineOf fields).nameOf arg, (lineOf fields).valueOf arg)) =
        later.map fun field => (some (fieldName field), some (fieldValue field)) := by
    intro later
    induction later with
    | nil => exact fun _ _ _ => rfl
    | cons field later ih =>
      intro before inner same
      have place : (storedFields before).length + field.length + 1 =
          (storedFields (before ++ [field])).length := by
        rw [storedFields_append, List.length_append, List.length_append, List.length_map,
          List.length_singleton, Nat.add_assoc]
      have strings := lineOf_argument before later (inner field List.mem_cons_self)
      rw [← same] at strings
      have rest := ih (before ++ [field])
        (fun other member => inner other (List.mem_cons_of_mem _ member))
        (by rw [same, List.append_assoc, List.singleton_append])
      rw [argumentsFrom, List.map_cons, List.map_cons, place, rest, strings.1, strings.2]
  exact general fields [] inner rfl

/-! ## Arbitrary text -/

/-- The entries of `hex_ascii`: the values of the digits, and what stands for no digit. -/
def hexEntry (signed : Bool) (entry : Fin 17) : BitVec 32 :=
  if entry.val < 16 then BitVec.ofNat 32 entry.val else if signed then -1#32 else 255#32

/-- Every look-up yields one of them. -/
theorem hexAscii_entry (signed : Bool) (c : UInt8) :
    ∃ entry : Fin 17, hexAscii signed c = hexEntry signed entry := by
  have digit : ∀ value : Nat, value < 16 →
      ∃ entry : Fin 17, BitVec.ofNat 32 value = hexEntry signed entry := by
    intro value bound
    exact ⟨⟨value, by omega⟩, (if_pos bound).symm⟩
  unfold hexAscii
  split_ifs with decimal upper lower kind
  · have bound : c.toNat ≤ 57 := decimal.2
    exact digit _ (by omega)
  · have bound : c.toNat ≤ 70 := upper.2
    exact digit _ (by omega)
  · have bound : c.toNat ≤ 102 := lower.2
    exact digit _ (by omega)
  · exact ⟨⟨16, by omega⟩, by simp [hexEntry, kind]⟩
  · exact ⟨⟨16, by omega⟩, by simp [hexEntry, kind]⟩

/-- No escape that is taken writes a NUL. -/
theorem toChar_ne_zero {signed : Bool} {c d : UInt8}
    (positive : 0 < (asciiToHex signed c d).toInt) : toChar (asciiToHex signed c d) ≠ 0 := by
  have table : ∀ (signed : Bool) (high low : Fin 17),
      0 < (joinHex (hexEntry signed high) (hexEntry signed low)).toInt →
        toChar (joinHex (hexEntry signed high) (hexEntry signed low)) ≠ 0 := by
    decide
  obtain ⟨high, first⟩ := hexAscii_entry signed c
  obtain ⟨low, second⟩ := hexAscii_entry signed d
  rw [asciiToHex, first, second] at positive ⊢
  exact table signed high low positive

/-- An item of a text is an ampersand or one that a field can hold. -/
theorem scan_inner (signed : Bool) (text : List UInt8) :
    ∀ item ∈ (scan signed text).1, item = .amp ∨ item.Inner := by
  have cons : ∀ {item : Item} {items : List Item}, item = .amp ∨ item.Inner →
      (∀ item ∈ items, item = .amp ∨ item.Inner) →
      ∀ other ∈ item :: items, other = .amp ∨ other.Inner := by
    intro item items first rest
    exact List.forall_mem_cons.mpr ⟨first, rest⟩
  fun_induction scan signed text with
  | case1 => exact List.forall_mem_nil _
  | case2 rest ih => exact cons (Or.inr (by decide : (32 : UInt8) ≠ 0)) ih
  | case3 c d rest positive ih => exact cons (Or.inr (toChar_ne_zero positive)) ih
  | case4 c d rest invalid ih => exact ih
  | case5 rest short => exact List.forall_mem_nil _
  | case6 rest ih => exact cons (Or.inl rfl) ih
  | case7 rest ih => exact cons (Or.inr trivial) ih
  | case8 => exact List.forall_mem_nil _
  | case9 => exact List.forall_mem_nil _
  | case10 => exact List.forall_mem_nil _
  | case11 => exact List.forall_mem_nil _
  | case12 c rest _ _ _ _ _ zero _ _ _ ih => exact cons (Or.inr zero) ih

/-- The fields of some items take a byte for each item and one for the end. -/
theorem storedFields_splitOn (items : List Item) :
    (storedFields (items.splitOn .amp)).length = items.length + 1 := by
  induction items with
  | nil => rfl
  | cons first rest ih =>
    rw [List.splitOn_cons_eq_if_modifyHead]
    split_ifs with amp
    · simp only [storedFields, List.flatMap_cons, List.map_nil, List.nil_append,
        List.length_append, List.length_cons, List.length_nil] at ih ⊢
      omega
    · cases split : rest.splitOn Item.amp with
      | nil => exact absurd split (List.splitOn_ne_nil _ _)
      | cons head fields =>
        simp only [split, storedFields, List.modifyHead_cons, List.flatMap_cons, List.map_cons,
          List.length_append, List.length_cons, List.length_map] at ih ⊢
        omega

/-- A part of the fields takes no more bytes than all of them. -/
theorem storedFields_take (fields : List (List Item)) (count : Nat) :
    (storedFields (fields.take count)).length ≤ (storedFields fields).length := by
  conv_rhs => rw [← List.take_append_drop count fields]
  rw [storedFields, storedFields, List.flatMap_append, List.length_append]
  exact Nat.le_add_right _ _

/-- What stands after the first equals sign. -/
theorem afterFirst_append {before : List Item} (absent : .equals ∉ before) (value : List Item) :
    afterFirst (before ++ .equals :: value) = value.map Item.meant := by
  have skipped : (before ++ .equals :: value).dropWhile (· ≠ .equals) = .equals :: value := by
    rw [List.dropWhile_append_of_pos]
    · simp
    · intro item member
      exact decide_eq_true fun same => absent (same ▸ member)
  rw [afterFirst, skipped, List.drop_one, List.tail_cons]

/-- Without an equals sign the value starts nowhere. -/
theorem valueStart_of_not_mem {field : List Item} (absent : .equals ∉ field) :
    valueStart field = none := by
  obtain ⟨start, -⟩ | ⟨before, value, rfl, -⟩ := valueStart_cases field
  · exact start
  · exact absurd (List.mem_append_right _ List.mem_cons_self) absent

/-- What stands after the last equals sign. -/
theorem fieldValue_append (before : List Item) {value : List Item} (absent : .equals ∉ value) :
    fieldValue (before ++ .equals :: value) = value.map Item.meant := by
  have start : valueStart (before ++ .equals :: value) = some (before.length + 1) := by
    induction before with
    | nil => simp [valueStart, valueStart_of_not_mem absent]
    | cons item before ih => simp [valueStart, ih]
  simp only [fieldValue, start]
  rw [← List.drop_drop, List.drop_left, List.drop_one, List.tail_cons]

/-- What stands after the last equals sign of a field is all that stands after the first one
exactly when there is no other. -/
theorem fieldValue_eq_afterFirst (field : List Item) :
    fieldValue field = afterFirst field ↔ field.count .equals ≤ 1 := by
  by_cases present : Item.equals ∈ field
  · obtain ⟨before, rest, rfl, first⟩ := List.eq_append_cons_of_mem present
    have count : (before ++ .equals :: rest).count .equals = rest.count .equals + 1 := by
      rw [List.count_append, List.count_cons_self, List.count_eq_zero.mpr first, Nat.zero_add]
    rw [afterFirst_append first, count]
    obtain ⟨-, single⟩ | ⟨middle, value, rfl, absent, -⟩ := valueStart_cases rest
    · rw [fieldValue_append before single, List.count_eq_zero.mpr single]
      simp
    · -- Another equals sign leaves less after the last one.
      have split : before ++ .equals :: (middle ++ .equals :: value) =
          (before ++ .equals :: middle) ++ .equals :: value := by simp
      have more : 0 < (middle ++ .equals :: value).count .equals :=
        List.count_pos_iff.mpr (List.mem_append_right _ List.mem_cons_self)
      rw [split, fieldValue_append _ absent]
      constructor
      · intro same
        have length := congrArg List.length same
        simp only [List.length_map, List.length_append, List.length_cons] at length
        omega
      · omega
  · have none : field.dropWhile (· ≠ .equals) = [] := by
      have others : ∀ item ∈ field, decide (item ≠ .equals) = true := by
        intro item member
        exact decide_eq_true fun same => present (same ▸ member)
      simpa using @List.dropWhile_append_of_pos _ (fun item => decide (item ≠ .equals)) field []
        others
    rw [fieldValue, valueStart_of_not_mem present, afterFirst, none,
      List.count_eq_zero.mpr present]
    simp

/-- The fields of a text that fit hold only items that a field can hold. -/
theorem keptFields_inner (signed : Bool) (text : List UInt8) :
    ∀ field ∈ keptFields (scan signed text).1, ∀ item ∈ field, item.Inner := by
  intro field member item inside
  obtain ⟨taken, inner⟩ := Splits.mem_splitOn (List.mem_of_mem_take member) item inside
  exact (scan_inner signed text item (List.mem_of_mem_take taken)).resolve_left inner

/-- The buffer holds the fields that fit. -/
theorem keptFields_stored (items : List Item) :
    (storedFields (keptFields items)).length ≤ maxCmdLength := by
  calc (storedFields (keptFields items)).length
      ≤ (storedFields ((items.take (maxCmdLength - 1)).splitOn .amp)).length :=
        storedFields_take _ _
    _ = (items.take (maxCmdLength - 1)).length + 1 := storedFields_splitOn _
    _ ≤ maxCmdLength := by
        have bound := List.length_take_le (maxCmdLength - 1) items
        have positive : 0 < maxCmdLength := by decide
        omega

/-- A command line in order: it stays in its buffer and its table, its names and values are
strings inside the buffer, and the value of each argument is what follows the first equals
sign of its field. -/
structure CommandLine.Sound (line : CommandLine) (fields : List (List Item)) : Prop where
  /-- The buffer is large enough. -/
  buffer : line.cmdString.length ≤ maxCmdLength
  /-- So is the table. -/
  count : line.cmdCount ≤ maxCmdNum
  /-- The names are strings in the buffer. -/
  names : ∀ arg ∈ line.cmdArg, (line.nameOf arg).isSome
  /-- A value is what follows the first equals sign. -/
  values : line.cmdArg.map line.valueOf = fields.map fun field => some (afterFirst field)

/-- The function reads the text and no further, and a command line that it leaves is in order. -/
def DecodesSoundly (signed memory : Bool) (text : List UInt8) : Prop :=
  ∃ result, uriDecoding signed memory (some text) = some result ∧
    ∀ line, result = .ok line → line.Sound (keptFields (scan signed (text ++ [0])).1)

/-- The command line of the fields that fit is in order exactly when each of them has at most
one equals sign. -/
theorem lineOf_sound_iff (signed : Bool) (text : List UInt8) :
    (lineOf (keptFields (scan signed text).1)).Sound (keptFields (scan signed text).1) ↔
      ∀ field ∈ keptFields (scan signed text).1, field.count .equals ≤ 1 := by
  let fields := keptFields (scan signed text).1
  have strings := lineOf_strings fields (keptFields_inner signed text)
  have names : (lineOf fields).cmdArg.map (lineOf fields).nameOf =
      fields.map fun field => some (fieldName field) := by
    have first := congrArg (List.map Prod.fst) strings
    rwa [List.map_map, List.map_map] at first
  have values : (lineOf fields).cmdArg.map (lineOf fields).valueOf =
      fields.map fun field => some (fieldValue field) := by
    have second := congrArg (List.map Prod.snd) strings
    rwa [List.map_map, List.map_map] at second
  constructor
  · intro sound field member
    have same := sound.values
    rw [values, List.map_inj_left] at same
    exact (fieldValue_eq_afterFirst field).mp (Option.some.inj (same field member))
  · intro single
    have count : (lineOf fields).cmdCount = fields.length := argumentsFrom_length 0 fields
    constructor
    · exact keptFields_stored _
    · exact count ▸ List.length_take_le _ _
    · intro arg member
      have named : (lineOf fields).nameOf arg ∈ fields.map fun field => some (fieldName field) :=
        names ▸ List.mem_map_of_mem member
      obtain ⟨field, -, same⟩ := List.mem_map.mp named
      exact same ▸ rfl
    · rw [values, List.map_inj_left]
      intro field member
      exact congrArg some ((fieldValue_eq_afterFirst field).mpr (single field member))

/-- On any text, and for either signedness of `char`, the function is safe and takes each value
from the first equals sign on exactly when the scan of the text comes to an end or fills the
buffer or the table before it leaves the text, and no field that fits has two equals signs. -/
theorem uriDecoding_sound_iff (signed memory : Bool) (text : List UInt8) :
    DecodesSoundly signed memory text ↔
      memory = false ∨
        ScanStops (scan signed (text ++ [0])).2 (scan signed (text ++ [0])).1 ∧
          ∀ field ∈ keptFields (scan signed (text ++ [0])).1, field.count .equals ≤ 1 := by
  have decoded := decodeFrom_start signed (text ++ [0])
  rw [← lineOf_sound_iff]
  cases memory with
  | false =>
    constructor
    · exact fun _ => Or.inl rfl
    · intro _
      exact ⟨_, rfl, fun line impossible => nomatch impossible⟩
  | true =>
    by_cases ends : ScanStops (scan signed (text ++ [0])).2 (scan signed (text ++ [0])).1
    · rw [if_pos ends] at decoded
      have result : uriDecoding signed true (some text) =
          some (.ok (lineOf (keptFields (scan signed (text ++ [0])).1))) := by
        rw [uriDecoding, if_pos rfl, decoded, Option.map_some]
      constructor
      · intro ⟨found, same, sound⟩
        rw [result] at same
        exact Or.inr ⟨ends, sound _ (Option.some.inj same).symm⟩
      · intro condition
        obtain impossible | ⟨-, sound⟩ := condition
        · exact nomatch impossible
        · refine ⟨_, result, fun line same => ?_⟩
          rw [← Except.ok.inj same]
          exact sound
    · rw [if_neg ends] at decoded
      have result : uriDecoding signed true (some text) = none := by
        rw [uriDecoding, if_pos rfl, decoded, Option.map_none]
      constructor
      · intro ⟨found, same, _⟩
        rw [result] at same
        exact nomatch same
      · intro condition
        obtain impossible | ⟨contrary, -⟩ := condition
        · exact nomatch impossible
        · exact absurd contrary ends

/-- An escape at the very end of the text is read beyond its terminator, with unsigned `char`
one digit does not help, and a second equals sign takes the first part of the value away. -/
theorem uriDecoding_unsound :
    ¬DecodesSoundly true true (ascii "a=%") ∧ ¬DecodesSoundly false true (ascii "a=%") ∧
      ¬DecodesSoundly false true (ascii "a=%4") ∧ ¬DecodesSoundly true true (ascii "a=b=c") := by
  have beyond : ∀ {signed : Bool} {text : List UInt8},
      uriDecoding signed true (some text) = none → ¬DecodesSoundly signed true text := by
    intro signed text read ⟨result, same, _⟩
    rw [read] at same
    exact nomatch same
  refine ⟨beyond (by decide), beyond (by decide), beyond (by decide), ?_⟩
  intro ⟨result, same, sound⟩
  have line : uriDecoding true true (some (ascii "a=b=c")) =
      some (.ok ⟨[97, 0, 98, 0, 99, 0], [⟨0, some 4, 0⟩]⟩) := by rfl
  rw [line] at same
  have values := (sound _ (Option.some.inj same).symm).values
  exact absurd values (by decide)

/-! ## Encoded pairs -/

/-- A hexadecimal digit of either case and its value. -/
def HexDigit (c : UInt8) (value : Nat) : Prop :=
  (c.toNat = 48 + value ∧ value < 10) ∨
    (10 ≤ value ∧ value < 16 ∧ (c.toNat = 55 + value ∨ c.toNat = 87 + value))

/-- The ways to write a byte: as itself, a space as a plus sign, or as an escape. -/
inductive EncodesByte : UInt8 → List UInt8 → Prop
  | plain {c : UInt8} (free : c ∉ ascii "%+&= \r\n") : EncodesByte c [c]
  | plus : EncodesByte 32 [43]
  | escape {c high low : UInt8} (upper : HexDigit high (c.toNat / 16))
      (lower : HexDigit low (c.toNat % 16)) : EncodesByte c [37, high, low]

/-- The ways to write a string. -/
inductive Encodes : List UInt8 → List UInt8 → Prop
  | nil : Encodes [] []
  | cons {c : UInt8} {text spelling spellings : List UInt8} (first : EncodesByte c spelling)
      (rest : Encodes text spellings) : Encodes (c :: text) (spelling ++ spellings)

/-- The ways to write one or more pairs of a name and a value as a form. -/
inductive EncodesForm : List (List UInt8 × List UInt8) → List UInt8 → Prop
  | last {name value first second : List UInt8} (left : Encodes name first)
      (right : Encodes value second) : EncodesForm [(name, value)] (first ++ 61 :: second)
  | more {name value first second text : List UInt8} {pairs : List (List UInt8 × List UInt8)}
      (left : Encodes name first) (right : Encodes value second) (rest : EncodesForm pairs text) :
      EncodesForm ((name, value) :: pairs) (first ++ 61 :: second ++ 38 :: text)

/-- The pairs written without any escape. -/
def formText (pairs : List (List UInt8 × List UInt8)) : List UInt8 :=
  [38].intercalate (pairs.map fun (name, value) => name ++ 61 :: value)

/-- The field of a pair. -/
def pairField (name value : List UInt8) : List Item :=
  name.map Item.byte ++ .equals :: value.map Item.byte

/-- The table maps a digit to its value. -/
theorem hexAscii_digit (signed : Bool) {c : UInt8} {value : Nat} (digit : HexDigit c value) :
    hexAscii signed c = BitVec.ofNat 32 value := by
  have decimal : 48 ≤ c ∧ c ≤ 57 ↔ 48 ≤ c.toNat ∧ c.toNat ≤ 57 := Iff.rfl
  have upper : 65 ≤ c ∧ c ≤ 70 ↔ 65 ≤ c.toNat ∧ c.toNat ≤ 70 := Iff.rfl
  have lower : 97 ≤ c ∧ c ≤ 102 ↔ 97 ≤ c.toNat ∧ c.toNat ≤ 102 := Iff.rfl
  unfold hexAscii
  obtain ⟨same, small⟩ | ⟨large, small, same | same⟩ := digit
  · rw [if_pos (decimal.mpr (by omega)), same, Nat.add_sub_cancel_left]
  · rw [if_neg (mt decimal.mp (by omega)), if_pos (upper.mpr (by omega)), same,
      Nat.add_sub_cancel_left]
  · rw [if_neg (mt decimal.mp (by omega)), if_neg (mt upper.mp (by omega)),
      if_pos (lower.mpr (by omega)), same, Nat.add_sub_cancel_left]

/-- An escape of a byte other than NUL is read as that byte. -/
theorem asciiToHex_escape (signed : Bool) {c high low : UInt8} (nonzero : c ≠ 0)
    (upper : HexDigit high (c.toNat / 16)) (lower : HexDigit low (c.toNat % 16)) :
    0 < (asciiToHex signed high low).toInt ∧ toChar (asciiToHex signed high low) = c := by
  have table : ∀ high low : Fin 16,
      joinHex (BitVec.ofNat 32 high) (BitVec.ofNat 32 low) =
        BitVec.ofNat 32 (16 * high.val + low.val) := by decide
  have values : ∀ value : Fin 256, value.val ≠ 0 → 0 < (BitVec.ofNat 32 value.val).toInt ∧
      toChar (BitVec.ofNat 32 value.val) = UInt8.ofNat value.val := by
    set_option maxRecDepth 8000 in
    decide
  have bound : c.toNat < 256 := c.toNat_lt
  have joined := table ⟨c.toNat / 16, by omega⟩ ⟨c.toNat % 16, by omega⟩
  have whole : 16 * (c.toNat / 16) + c.toNat % 16 = c.toNat := Nat.div_add_mod _ _
  simp only [whole] at joined
  have positive : c.toNat ≠ 0 := fun zero => nonzero (UInt8.toNat_inj.mp zero)
  have value := values ⟨c.toNat, bound⟩ positive
  rw [asciiToHex, hexAscii_digit signed upper, hexAscii_digit signed lower, joined]
  simpa only [UInt8.ofNat_toNat] using value

/-- A byte written in any of the ways is scanned as that byte. -/
theorem scan_byte (signed : Bool) {c : UInt8} {spelling : List UInt8} (nonzero : c ≠ 0)
    (written : EncodesByte c spelling) (rest : List UInt8) :
    scan signed (spelling ++ rest) = (.byte c :: (scan signed rest).1, (scan signed rest).2) := by
  cases written with
  | plain free =>
    have others : c ≠ 37 ∧ c ≠ 43 ∧ c ≠ 38 ∧ c ≠ 61 ∧ c ≠ 32 ∧ c ≠ 13 ∧ c ≠ 10 := by
      simpa [ascii] using free
    obtain ⟨percent, plus, ampersand, equals, space, carriage, feed⟩ := others
    rw [List.singleton_append, scan]
    all_goals intros; contradiction
  | plus => rfl
  | escape upper lower =>
    obtain ⟨positive, same⟩ := asciiToHex_escape signed nonzero upper lower
    simp only [List.cons_append, List.nil_append, scan, if_pos positive, same]

/-- A string written in any of the ways is scanned as its bytes. -/
theorem scan_string (signed : Bool) {text spelling : List UInt8} (nonzero : 0 ∉ text)
    (written : Encodes text spelling) (rest : List UInt8) :
    scan signed (spelling ++ rest) =
      (text.map Item.byte ++ (scan signed rest).1, (scan signed rest).2) := by
  induction written with
  | nil => rfl
  | @cons c text spelling spellings first written ih =>
    rw [List.mem_cons, not_or] at nonzero
    rw [List.append_assoc, scan_byte signed (Ne.symm nonzero.1) first, ih nonzero.2]
    rfl

/-- A pair written in any of the ways is scanned as its field. -/
theorem scan_pair (signed : Bool) {name value first second : List UInt8}
    (clean : 0 ∉ name ∧ 0 ∉ value) (left : Encodes name first) (right : Encodes value second)
    (rest : List UInt8) :
    scan signed (first ++ 61 :: second ++ rest) =
      (pairField name value ++ (scan signed rest).1, (scan signed rest).2) := by
  have sign : scan signed (61 :: (second ++ rest)) =
      (.equals :: (scan signed (second ++ rest)).1, (scan signed (second ++ rest)).2) := rfl
  rw [List.append_assoc, scan_string signed clean.1 left, List.cons_append, sign,
    scan_string signed clean.2 right]
  simp only [pairField, List.append_assoc, List.cons_append]

/-- A form written in any of the ways is scanned as the fields of its pairs. -/
theorem scan_form (signed : Bool) {pairs : List (List UInt8 × List UInt8)} {text : List UInt8}
    (clean : ∀ pair ∈ pairs, 0 ∉ pair.1 ∧ 0 ∉ pair.2) (written : EncodesForm pairs text) :
    scan signed (text ++ [0]) =
      ([Item.amp].intercalate (pairs.map fun pair => pairField pair.1 pair.2), true) := by
  induction written with
  | last left right =>
    rw [scan_pair signed (clean _ List.mem_cons_self) left right]
    simp [scan]
  | @more name value first second text pairs left right written ih =>
    have rest := ih fun pair member => clean pair (List.mem_cons_of_mem _ member)
    have sign : scan signed (38 :: (text ++ [0])) =
        (.amp :: (scan signed (text ++ [0])).1, (scan signed (text ++ [0])).2) := rfl
    rw [List.append_assoc, List.cons_append, scan_pair signed (clean _ List.mem_cons_self) left
      right, sign, rest]
    cases written with
    | last => simp [List.intercalate]
    | more => simp [List.intercalate]

/-- A string has no equals sign among its items. -/
theorem equals_not_mem_bytes (text : List UInt8) : Item.equals ∉ text.map Item.byte := by
  simp

/-- The bytes of a string are those that it means. -/
theorem map_meant_bytes (text : List UInt8) : (text.map Item.byte).map Item.meant = text := by
  rw [List.map_map]
  exact List.map_id text

/-- The name and the value of the field of a pair. -/
theorem pairField_strings (name value : List UInt8) :
    fieldName (pairField name value) = name ∧ fieldValue (pairField name value) = value := by
  constructor
  · have before : ∀ item ∈ name.map Item.byte, decide (item ≠ .equals) = true := by
      intro item member
      exact decide_eq_true fun same => equals_not_mem_bytes name (same ▸ member)
    rw [fieldName, pairField, List.takeWhile_append_of_pos before,
      List.takeWhile_cons_of_neg (by simp), List.append_nil, map_meant_bytes]
  · rw [pairField, fieldValue_append _ (equals_not_mem_bytes value), map_meant_bytes]

/-- The fields of the pairs stand for the text of the form. -/
theorem formText_eq (pairs : List (List UInt8 × List UInt8)) :
    ([Item.amp].intercalate (pairs.map fun pair => pairField pair.1 pair.2)).map Item.meant =
      formText pairs := by
  have field : ∀ pair : List UInt8 × List UInt8,
      (pairField pair.1 pair.2).map Item.meant = pair.1 ++ 61 :: pair.2 := by
    intro pair
    rw [pairField, List.map_append, List.map_cons, map_meant_bytes, map_meant_bytes, Item.meant]
  induction pairs with
  | nil => rfl
  | cons pair pairs ih =>
    cases pairs with
    | nil => simpa [formText, List.intercalate] using field pair
    | cons next pairs =>
      simp only [formText, List.map_cons, List.intercalate_cons_cons, List.map_append] at ih ⊢
      rw [ih, field pair]
      rfl

/-- Decoding undoes the encoding of a form. -/
theorem uriDecoding_form (signed : Bool) {pairs : List (List UInt8 × List UInt8)}
    {text : List UInt8} (few : pairs.length ≤ maxCmdNum)
    (clean : ∀ pair ∈ pairs, 0 ∉ pair.1 ∧ 0 ∉ pair.2) (written : EncodesForm pairs text)
    (fits : (formText pairs).length ≤ maxCmdLength - 1) :
    ∃ line, uriDecoding signed true (some text) = some (.ok line) ∧
      line.cmdCount = pairs.length ∧
      line.cmdArg.map (fun arg => (line.nameOf arg, line.valueOf arg)) =
        pairs.map fun pair => (some pair.1, some pair.2) := by
  let fields := pairs.map fun pair => pairField pair.1 pair.2
  have scanned := scan_form signed clean written
  have kept : keptFields (scan signed (text ++ [0])).1 = fields := by
    have short : ([Item.amp].intercalate fields).length ≤ maxCmdLength - 1 := by
      rw [← formText_eq, List.length_map] at fits
      exact fits
    have apart : ∀ field ∈ fields, Item.amp ∉ field := by
      intro field member
      obtain ⟨pair, -, rfl⟩ := List.mem_map.mp member
      simp [pairField]
    have some : fields ≠ [] := by
      cases written <;> simp [fields]
    rw [scanned, keptFields, List.take_of_length_le short, List.splitOn_intercalate .amp apart some]
    exact List.take_of_length_le (by rw [List.length_map]; exact few)
  have decoded := decodeFrom_start signed (text ++ [0])
  have strings := lineOf_strings _ (keptFields_inner signed (text ++ [0]))
  rw [kept] at decoded strings
  have ends : ScanStops (scan signed (text ++ [0])).2 (scan signed (text ++ [0])).1 :=
    Or.inl (by rw [scanned])
  rw [if_pos ends] at decoded
  refine ⟨lineOf fields, ?_, ?_, ?_⟩
  · rw [uriDecoding, if_pos rfl, decoded, Option.map_some]
  · exact (argumentsFrom_length 0 fields).trans (List.length_map _)
  · rw [strings, List.map_map, List.map_inj_left]
    intro pair _
    obtain ⟨name, value⟩ := pairField_strings pair.1 pair.2
    simp only [Function.comp, name, value]

/-- A form with a byte above 127, a space written as a plus sign and an escaped equals sign. -/
theorem uriDecoding_form_escapes :
    EncodesForm [([97, 233], [32]), ([98], [61])] (ascii "a%E9=+&b=%3d") ∧
      ∃ line, uriDecoding false true (some (ascii "a%E9=+&b=%3d")) = some (.ok line) ∧
        line.cmdCount = 2 ∧
        line.cmdArg.map (fun arg => (line.nameOf arg, line.valueOf arg)) =
          [(some [97, 233], some [32]), (some [98], some [61])] := by
  have accent : EncodesByte 233 [37, 69, 57] :=
    .escape (Or.inr ⟨by decide, by decide, Or.inl rfl⟩) (Or.inl ⟨rfl, by decide⟩)
  have sign : EncodesByte 61 [37, 51, 100] :=
    .escape (Or.inl ⟨rfl, by decide⟩) (Or.inr ⟨by decide, by decide, Or.inr rfl⟩)
  have written : EncodesForm [([97, 233], [32]), ([98], [61])] (ascii "a%E9=+&b=%3d") :=
    .more (.cons (.plain (by decide)) (.cons accent .nil)) (.cons .plus .nil)
      (.last (.cons (.plain (by decide)) .nil) (.cons sign .nil))
  exact ⟨written, uriDecoding_form false (by decide) (by decide) written (by decide)⟩

end BoaIpcam
