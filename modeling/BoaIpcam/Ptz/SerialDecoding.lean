import BoaIpcam.Ptz.SerialLine

/-!
# What is written to the serial line

`string_to_ascii` decodes a copy of a text in place, up to an odd number of characters, and puts two
of them together at a time. `rs485_write_data` writes as many bytes of the array as the text itself
has pairs. Up to 127 characters these are the bytes that the text stands for.
-/
namespace BoaIpcam.SerialLine

/-! ## The loops -/

/-- The first loop of `string_to_ascii`, on the copy of the text. None for an access behind it. -/
def decodeLoop (len : Nat) (ptr : List UInt8) (i : Nat) : Option (List UInt8) :=
  if i < len then
    match ptr[i]? with
    | some c => decodeLoop len (ptr.set i (digitOf c)) (i + 1)
    | none => none
  else some ptr
termination_by len - i

/-- The second loop. None for an access behind the copy or behind the array. -/
def pairLoop (len : Nat) (ptr buff : List UInt8) (i j : Nat) : Option (List UInt8) :=
  if i < len then
    match ptr[i]?, ptr[i + 1]? with
    | some high, some low =>
      if j < buff.length then pairLoop len ptr (buff.set j ((high <<< 4) ||| low)) (i + 2) (j + 1)
      else none
    | _, _ => none
  else some buff
termination_by len - i

/-- `string_to_ascii`. The copy has a NUL behind the text. -/
def stringToAscii (src buff : List UInt8) : Option (List UInt8) :=
  (decodeLoop (decodedLen src) (src ++ [0]) 0).bind fun ptr =>
    pairLoop (decodedLen src) ptr buff 0 0

/-- What a call of `rs485_write_data` leads to. -/
inductive Written where
  | error
  | outside
  | bytes (written : List UInt8)
deriving DecidableEq, Repr

/-- `rs485_write_data`, with the accesses of its loops and of `write`. -/
def rs485Write (fd485 : Int) (string : List UInt8) : Written :=
  if fd485 < 0 then .error
  else
    match stringToAscii string (List.replicate rs485BuffSize 0) with
    | none => .outside
    | some buff =>
      if string.length / 2 ≤ buff.length then .bytes (buff.take (string.length / 2)) else .outside

/-! ## What is asked -/

/-- The value of a hexadecimal digit of either case, and zero for any other character. -/
def hexValue (c : UInt8) : Nat :=
  if 48 ≤ c ∧ c ≤ 57 then c.toNat - 48
  else if 65 ≤ c ∧ c ≤ 70 then c.toNat - 55
  else if 97 ≤ c ∧ c ≤ 102 then c.toNat - 87
  else 0

/-- The bytes that a text stands for, two characters each. -/
def hexPairs : List UInt8 → List UInt8
  | [] => []
  | [_] => []
  | high :: low :: rest => UInt8.ofNat (hexValue high * 16 + hexValue low) :: hexPairs rest

/-- Nothing is accessed outside, and the bytes on the line are those that the text stands for. -/
def Written.Right (string : List UInt8) : Written → Prop
  | .error => True
  | .outside => False
  | .bytes written => written = hexPairs string

/-- When they are: the text is shorter than two characters for each byte of the array and two more;
behind 127 characters the next one changes nothing although it is not decoded, and those behind it
stand for zeros. -/
structure Decodes (string : List UInt8) : Prop where
  /-- What is behind the array is not reached. -/
  short : string.length < 258
  /-- The next character changes nothing. -/
  last : 128 ≤ string.length →
    hexValue (string.getD 126 0) * 16 ||| (string.getD 127 0).toNat =
      hexValue (string.getD 126 0) * 16 + hexValue (string.getD 127 0)
  /-- The others stand for zeros. -/
  behind : ∀ j, 64 ≤ j → j < string.length / 2 →
    hexValue (string.getD (2 * j) 0) = 0 ∧ hexValue (string.getD (2 * j + 1) 0) = 0

/-! ## The loops stay inside -/

/-- The first loop decodes the characters in their places. -/
theorem decodeLoop_eq (front mid back : List UInt8) :
    decodeLoop (front.length + mid.length) (front ++ mid ++ back) front.length =
      some (front ++ mid.map digitOf ++ back) := by
  induction mid generalizing front with
  | nil => rw [decodeLoop, if_neg (by simp), List.map_nil]
  | cons c mid ih =>
    have here : (front ++ c :: mid ++ back)[front.length]? = some c := by simp
    have changed : (front ++ c :: mid ++ back).set front.length (digitOf c) =
        front ++ [digitOf c] ++ mid ++ back := by simp
    have next := ih (front ++ [digitOf c])
    have length : (front ++ [digitOf c]).length + mid.length = front.length + (c :: mid).length := by
      simp only [List.length_append, List.length_cons, List.length_nil]
      omega
    rw [length, List.length_append, List.length_singleton] at next
    rw [decodeLoop, if_pos (by simp), here]
    dsimp only
    rw [changed, next, List.map_cons]
    simp

/-- The second loop stores the pairs from a place on. -/
theorem pairLoop_spec {len i j : Nat} {ptr buff : List UInt8} (inside : len < ptr.length)
    (room : len < 2 * buff.length) (place : i = 2 * j) :
    ∃ out, pairLoop len ptr buff i j = some out ∧
      ∀ k, out[k]? = if j ≤ k ∧ 2 * k < len then some (pairAt ptr k) else buff[k]? := by
  fun_induction pairLoop len ptr buff i j with
  | case1 buff i j more high low atHigh atLow stored ih =>
    obtain ⟨out, same, cells⟩ := ih (by rw [List.length_set]; exact room) (by omega)
    refine ⟨out, same, fun k => ?_⟩
    have pair : pairAt ptr j = (high <<< 4) ||| low := by
      rw [pairAt, ← place, List.getD_eq_getElem?_getD, List.getD_eq_getElem?_getD, atHigh, atLow,
        Option.getD_some, Option.getD_some]
    rw [cells k]
    rcases Nat.lt_trichotomy k j with before | here | after
    · rw [if_neg (by omega), if_neg (by omega), List.getElem?_set_ne (by omega)]
    · rw [here, if_neg (by omega), if_pos (by omega), List.getElem?_set_self stored, pair]
    · by_cases below : 2 * k < len
      · rw [if_pos (by omega), if_pos (by omega)]
      · rw [if_neg (by omega), if_neg (by omega), List.getElem?_set_ne (by omega)]
  | case2 buff i j more high low atHigh atLow full => omega
  | case3 buff i j more missing =>
    have first : i < ptr.length := by omega
    have second : i + 1 < ptr.length := by omega
    exact absurd (List.getElem?_eq_getElem second)
      (missing _ _ (List.getElem?_eq_getElem first))
  | case4 buff i j ends =>
    refine ⟨buff, rfl, fun k => ?_⟩
    rw [if_neg (by omega)]

/-- The loops stay in the copy and in the array, and leave there what `writBuff` is. -/
theorem stringToAscii_eq (src : List UInt8) :
    stringToAscii src (List.replicate rs485BuffSize 0) = some (writBuff src) := by
  have bounded : decodedLen src ≤ src.length := Nat.min_le_left _ _
  have capped : decodedLen src ≤ 127 := Nat.min_le_right _ _
  have parts : src ++ [0] =
      [] ++ src.take (decodedLen src) ++ (src.drop (decodedLen src) ++ [0]) := by
    rw [List.nil_append, ← List.append_assoc, List.take_append_drop]
  have decoded := decodeLoop_eq [] (src.take (decodedLen src)) (src.drop (decodedLen src) ++ [0])
  rw [List.length_take, Nat.min_eq_left bounded, List.length_nil, Nat.zero_add, ← parts,
    List.nil_append, ← List.append_assoc] at decoded
  have length : (decodedCopy src).length = src.length + 1 := by
    simp only [decodedCopy, List.length_append, List.length_map, List.length_take,
      List.length_drop, List.length_singleton]
    omega
  have room : decodedLen src < 2 * (List.replicate rs485BuffSize (0 : UInt8)).length := by
    rw [List.length_replicate, rs485BuffSize]
    omega
  have inside : decodedLen src < (decodedCopy src).length := by omega
  have start : 0 = 2 * 0 := rfl
  obtain ⟨out, stored, cells⟩ := pairLoop_spec inside room start
  rw [stringToAscii, decoded, Option.bind_some, ← decodedCopy, stored]
  apply congrArg some
  apply List.ext_getElem?
  intro k
  rw [cells k, writBuff, List.getElem?_map, List.getElem?_replicate]
  by_cases small : k < rs485BuffSize
  · rw [List.getElem?_range small, Option.map_some, if_pos small]
    by_cases below : 2 * k < decodedLen src
    · rw [if_pos ⟨Nat.zero_le k, below⟩, if_pos below]
    · rw [if_neg (not_and_of_not_right _ below), if_neg below]
  · have outside : (List.range rs485BuffSize).length ≤ k := by
      rw [List.length_range]
      omega
    have behind : ¬ 2 * k < decodedLen src := by
      rw [rs485BuffSize] at small
      omega
    rw [List.getElem?_eq_none outside, Option.map_none, if_neg (not_and_of_not_right _ behind),
      if_neg small]

/-! ## The bytes -/

/-- The value of a character is half of a byte. -/
theorem hexValue_lt (c : UInt8) : hexValue c < 16 := by
  rw [hexValue]
  split_ifs with digit upper lower
  · have high : c.toNat ≤ 57 := digit.2
    omega
  · have high : c.toNat ≤ 70 := upper.2
    omega
  · have high : c.toNat ≤ 102 := lower.2
    omega
  · decide

/-- A character is decoded to its value. -/
theorem digitOf_toNat (c : UInt8) : (digitOf c).toNat = hexValue c := by
  rw [digitOf, hexValue]
  split_ifs with digit upper lower
  · exact UInt8.toNat_sub_of_le c 0x30 digit.1
  · have low : 0x37 ≤ c := UInt8.le_trans (by decide) upper.1
    exact UInt8.toNat_sub_of_le c 0x37 low
  · have low : 0x57 ≤ c := UInt8.le_trans (by decide) lower.1
    exact UInt8.toNat_sub_of_le c 0x57 low
  · rfl

/-- A decoded character with any other below it. -/
theorem paired_toNat (high low : UInt8) :
    ((digitOf high <<< 4) ||| low).toNat = hexValue high * 16 ||| low.toNat := by
  have small := hexValue_lt high
  rw [← digitOf_toNat] at small
  rw [UInt8.toNat_or, shifted_toNat small, digitOf_toNat]

/-- Two decoded characters make up the byte that they stand for. -/
theorem paired_eq (high low : UInt8) :
    (digitOf high <<< 4) ||| digitOf low =
      UInt8.ofNat (hexValue high * 16 + hexValue low) := by
  have first := hexValue_lt high
  have second := hexValue_lt low
  rw [← digitOf_toNat] at first second
  apply UInt8.toNat_inj.mp
  rw [halves first second, ← digitOf_toNat, ← digitOf_toNat, UInt8.toNat_ofNat']
  omega

/-- There is a byte for every two characters. -/
theorem hexPairs_length (string : List UInt8) : (hexPairs string).length = string.length / 2 := by
  fun_induction hexPairs string with
  | case1 => rfl
  | case2 last =>
    rw [List.length_nil, List.length_singleton]
  | case3 high low rest ih =>
    rw [List.length_cons, ih, List.length_cons, List.length_cons]
    omega

/-- The byte that two characters stand for. -/
theorem hexPairs_getElem? {string : List UInt8} {j : Nat} (inside : j < string.length / 2) :
    (hexPairs string)[j]? = some (UInt8.ofNat
      (hexValue (string.getD (2 * j) 0) * 16 + hexValue (string.getD (2 * j + 1) 0))) := by
  fun_induction hexPairs string generalizing j with
  | case1 => exact absurd inside (Nat.not_lt_zero j)
  | case2 last =>
    rw [List.length_singleton] at inside
    omega
  | case3 high low rest ih =>
    cases j with
    | zero => rfl
    | succ j =>
      rw [List.length_cons, List.length_cons] at inside
      exact ih (by omega)

/-- The byte at the end of the characters that are decoded has one that is not. -/
theorem writBuff_last {string : List UInt8} (long : 128 ≤ string.length) :
    (writBuff string)[63]? = some ((digitOf (string.getD 126 0) <<< 4) ||| string.getD 127 0) := by
  have decoded : decodedLen string = 127 := Nat.min_eq_right (by rw [rs485BuffSize]; omega)
  have small : 63 < rs485BuffSize := by decide
  have first : (decodedCopy string).getD 126 0 = digitOf (string.getD 126 0) :=
    decodedCopy_getD (by omega)
  have second : (decodedCopy string).getD 127 0 = string.getD 127 0 := by
    have front : ((string.take 127).map digitOf).length = 127 := by
      rw [List.length_map, List.length_take]
      omega
    rw [decodedCopy, decoded, List.append_assoc, List.getD_append_right _ _ _ _ (by omega), front,
      List.getD_append _ _ _ _ (by rw [List.length_drop]; omega)]
    rw [List.getD_eq_getElem?_getD, List.getElem?_drop, List.getD_eq_getElem?_getD]
  rw [writBuff, List.getElem?_map, List.getElem?_range small, Option.map_some,
    if_pos (by omega), pairAt, first, second]

/-- Behind the characters that are decoded there are zeros. -/
theorem writBuff_behind (string : List UInt8) {j : Nat} (behind : 64 ≤ j) (small : j < 128) :
    (writBuff string)[j]? = some 0 := by
  have capped : decodedLen string ≤ 127 := Nat.min_le_right _ _
  have there : (List.range rs485BuffSize)[j]? = some j := List.getElem?_range small
  rw [writBuff, List.getElem?_map, there, Option.map_some, if_neg (by omega)]

/-- The array of a text that is not too long begins with the bytes that it stands for when the
characters behind the 127th allow it. -/
theorem take_writBuff_iff {string : List UInt8} (short : string.length < 258) :
    (writBuff string).take (string.length / 2) = hexPairs string ↔ Decodes string := by
  have cells (j : Nat) (inside : j < string.length / 2) :
      ((writBuff string).take (string.length / 2))[j]? = (writBuff string)[j]? :=
    List.getElem?_take_of_lt inside
  constructor
  · intro same
    have bytes (j : Nat) (inside : j < string.length / 2) :
        (writBuff string)[j]? = some (UInt8.ofNat
          (hexValue (string.getD (2 * j) 0) * 16 + hexValue (string.getD (2 * j + 1) 0))) := by
      rw [← cells j inside, same, hexPairs_getElem? inside]
    refine ⟨short, fun long => ?_, fun j low inside => ?_⟩
    · have byte : (writBuff string)[63]? = some (UInt8.ofNat
          (hexValue (string.getD 126 0) * 16 + hexValue (string.getD 127 0))) :=
        bytes 63 (by omega)
      rw [writBuff_last long, Option.some.injEq] at byte
      have values := congrArg UInt8.toNat byte
      have first := hexValue_lt (string.getD 126 0)
      have second := hexValue_lt (string.getD 127 0)
      rw [paired_toNat, UInt8.toNat_ofNat'] at values
      omega
    · have byte := bytes j inside
      rw [writBuff_behind string low (by omega), Option.some.injEq] at byte
      have values := congrArg UInt8.toNat byte
      have first := hexValue_lt (string.getD (2 * j) 0)
      have second := hexValue_lt (string.getD (2 * j + 1) 0)
      have zero : (0 : UInt8).toNat = 0 := rfl
      rw [zero, UInt8.toNat_ofNat'] at values
      omega
  · intro decodes
    apply List.ext_getElem?
    intro j
    by_cases inside : j < string.length / 2
    · rw [cells j inside, hexPairs_getElem? inside]
      rcases Nat.lt_trichotomy j 63 with front | last | back
      · have decoded : 2 * j + 1 < decodedLen string := by
          rw [decodedLen, rs485BuffSize]
          omega
        rw [writBuff_getElem? decoded, paired_eq]
      · have long : 128 ≤ string.length := by omega
        rw [last, writBuff_last long, Option.some.injEq]
        apply UInt8.toNat_inj.mp
        show _ = (UInt8.ofNat
          (hexValue (string.getD 126 0) * 16 + hexValue (string.getD 127 0))).toNat
        have first := hexValue_lt (string.getD 126 0)
        have second := hexValue_lt (string.getD 127 0)
        rw [paired_toNat, decodes.last long, UInt8.toNat_ofNat']
        omega
      · obtain ⟨first, second⟩ := decodes.behind j back inside
        rw [writBuff_behind string back (by omega), first, second]
        exact rfl
    · have length := hexPairs_length string
      rw [List.getElem?_eq_none (by rw [List.length_take]; omega),
        List.getElem?_eq_none (by omega)]

/-! ## The call -/

/-- There are as many bytes as the array has. -/
theorem writBuff_length (string : List UInt8) : (writBuff string).length = 128 := by
  rw [writBuff, List.length_map, List.length_range, rs485BuffSize]

/-- A call for an open line writes the front of the array, or leaves it. -/
theorem rs485Write_eq {fd485 : Int} (isOpen : 0 ≤ fd485) (string : List UInt8) :
    rs485Write fd485 string =
      if string.length / 2 ≤ 128 then .bytes ((writBuff string).take (string.length / 2))
      else .outside := by
  rw [rs485Write, if_neg (by omega), stringToAscii_eq]
  dsimp only
  rw [writBuff_length]

/-- For every text nothing is accessed outside and the bytes that are written are those that the text
stands for exactly when the line is not open or the text is decoded far enough. -/
theorem rs485_write_data_iff (fd485 : Int) (string : List UInt8) :
    (rs485Write fd485 string).Right string ↔ fd485 < 0 ∨ Decodes string := by
  by_cases closed : fd485 < 0
  · rw [rs485Write, if_pos closed]
    exact iff_of_true trivial (.inl closed)
  · rw [rs485Write_eq (by omega), or_iff_right closed]
    split_ifs with fits
    · exact take_writBuff_iff (by omega)
    · exact iff_of_false id fun decodes => fits (by have short := decodes.short; omega)

/-- The last of 128 zeros is written as the character that it is. -/
theorem rs485_write_raw :
    ¬ (rs485Write 3 (List.replicate 128 48)).Right (List.replicate 128 48) := by
  have length : (List.replicate 128 (48 : UInt8)).length = 128 := List.length_replicate
  have fits : (List.replicate 128 (48 : UInt8)).length / 2 ≤ 128 := by omega
  have isOpen : (0 : Int) ≤ 3 := by decide
  rw [rs485Write_eq isOpen, if_pos fits]
  intro same
  have decodes := (take_writBuff_iff (by omega)).mp same
  have last := decodes.last (by omega)
  rw [List.getD_replicate _ (by omega), List.getD_replicate _ (by omega)] at last
  exact absurd last (by decide)

end BoaIpcam.SerialLine
