import BoaIpcam.Numeral
import BoaIpcam.Ptz.SerialLine

/-!
# Pelco frames

`dv840_output` of `appro_api.c` sends a frame of the protocol D or P for the function that is
written in the value of the command. The switch over the functions is the branch of a test for the
protocol 2, so with D and P the four bytes of the function are what the stack held; and the frame is
handed on as a text of digits without a NUL behind it. What the stack holds is a parameter of the
model.
-/
namespace BoaIpcam.Pelco

open SerialLine

/-! ## The value -/

/-- The value of the command, with the memory behind its NUL. -/
structure Value where
  /-- The text. -/
  text : List UInt8
  /-- The memory behind its NUL. -/
  behind : Nat → UInt8

/-- A byte of the memory from the value on. -/
def Value.byte (value : Value) (n : Nat) : UInt8 :=
  if n < value.text.length then value.text.getD n 0
  else if n = value.text.length then 0
  else value.behind (n - value.text.length - 1)

/-- `strtol` of two characters, in a `char`. -/
def charOf (temp : List UInt8) : BitVec 8 := BitVec.ofInt 8 (strtolHex temp)

/-- `cmd_v`. -/
def Value.cmdV (value : Value) (j : Nat) : BitVec 8 :=
  charOf ([value.byte (2 * j), value.byte (2 * j + 1)].takeWhile (· ≠ 0))

/-! ## The functions -/

/-- The four bytes of a function, `trg_v[2]` to `trg_v[5]`. -/
@[ext] structure CommandBytes where
  first : BitVec 8
  second : BitVec 8
  third : BitVec 8
  fourth : BitVec 8
deriving DecidableEq, Repr

/-- The switch over the functions. The fourth byte of `ZERO PAN` is given. -/
def functionBytes (group function argument zeroPan : BitVec 8) : Option CommandBytes :=
  if group = 0x00 then
    if function = 0x00 then some ⟨0x00, 0x00, 0x00, 0x00⟩
    else if function = 0x02 then some ⟨0x00, 0x02, argument, 0x00⟩
    else if function = 0x03 then some ⟨0x00, 0x03, 0x00, argument⟩
    else if function = 0x04 then some ⟨0x00, 0x04, argument, 0x00⟩
    else if function = 0x05 then some ⟨0x00, 0x05, 0x00, argument⟩
    else if function = 0x07 then some ⟨0x00, 0x07, 0x00, zeroPan⟩
    else if function = 0x08 then some ⟨0x00, 0x08, 0x00, argument⟩
    else if function = 0x10 then some ⟨0x00, 0x10, 0x00, argument⟩
    else if function = 0x20 then some ⟨0x00, 0x20, 0x00, 0x00⟩
    else if function = 0x40 then some ⟨0x00, 0x40, 0x00, 0x00⟩
    else if function = 0x0A then some ⟨0x00, 0x0A, argument, argument⟩
    else if function = 0x0C then some ⟨0x00, 0x0C, argument, argument⟩
    else if function = 0x12 then some ⟨0x00, 0x12, argument, argument⟩
    else if function = 0x14 then some ⟨0x00, 0x14, argument, argument⟩
    else none
  else if group = 0x01 then some ⟨0x01, 0x00, 0x00, 0x00⟩
  else if group = 0x02 then some ⟨0x02, 0x00, 0x00, 0x00⟩
  else if group = 0x04 then some ⟨0x04, 0x00, 0x00, 0x00⟩
  else if group = 0x08 then some ⟨0x08, 0x00, 0x00, 0x00⟩
  else none

/-! ## The code -/

/-- What the stack holds when the command starts: the array `trg_v`, and the memory from `trg` on up
to a NUL that is behind the array. -/
structure Stack where
  /-- The array `trg_v`. -/
  trgV : Nat → BitVec 32
  /-- The memory from `trg` on. -/
  trg : List UInt8
  /-- It has the whole array. -/
  long : 24 ≤ trg.length

/-- The words of a function are set. -/
def setFunction (trgV : Nat → BitVec 32) (function : CommandBytes) (i : Nat) : BitVec 32 :=
  if i = 2 then function.first.setWidth 32
  else if i = 3 then function.second.setWidth 32
  else if i = 4 then function.third.setWidth 32
  else if i = 5 then function.fourth.setWidth 32
  else trgV i

section Code

variable (protocol id : UInt8) (value : Value) (stack : Stack)

/-- `trg_v` before the checksum. The protocols are 0 for D, 1 for P and 2 for VISCA. -/
def words : Nat → BitVec 32 :=
  if protocol = 0 then
    fun i => if i = 0 then 0xFF else if i = 1 then id.toBitVec.setWidth 32 else stack.trgV i
  else if protocol = 1 then
    fun i => if i = 0 then 0xA0 else if i = 1 then id.toBitVec.setWidth 32 - 1 else stack.trgV i
  else if protocol = 2 then
    match functionBytes (value.cmdV 1) (value.cmdV 2) (value.cmdV 3)
        (if stack.trgV 5 = 0x5F then 0x5F else 0x22) with
    | some function => setFunction stack.trgV function
    | none => stack.trgV
  else stack.trgV

/-- The sum of the protocol D. It is reduced as long as it is not above 256. -/
def sumD (trgV : Nat → BitVec 32) : BitVec 32 :=
  (List.range' 1 5).foldl (fun sum i =>
    if sum.toInt ≤ 256 then sum.srem 256 + trgV i else sum + trgV i) 0

/-- The words of a frame of the protocol D. -/
def frameD (trgV : Nat → BitVec 32) : List (BitVec 32) :=
  (List.range 6).map trgV ++ [sumD trgV]

/-- The words of a frame of the protocol P. -/
def frameP (trgV : Nat → BitVec 32) : List (BitVec 32) :=
  let front := (List.range 6).map trgV ++ [0xAF]
  front ++ [front.foldl (· ^^^ ·) 0]

/-- The digit of a value below 16. -/
def digitChar (val : BitVec 32) : UInt8 :=
  if val.toNat ≤ 9 then UInt8.ofNat (val.toNat + 48) else UInt8.ofNat (val.toNat + 65 - 10)

/-- The two digits of a word. -/
def hexPair (word : BitVec 32) : List UInt8 :=
  [digitChar ((word &&& 0xF0) >>> 4), digitChar (word &&& 0x0F)]

/-- The text from `trg` on when digits are written to its start. -/
def trgText (frame : List (BitVec 32)) : List UInt8 :=
  (frame.flatMap hexPair ++ stack.trg.drop (2 * frame.length)).takeWhile (· ≠ 0)

/-- The text that `dv840_output` hands on. -/
def dv840Text : List UInt8 :=
  let trgV := words protocol id value stack
  trgText stack (if protocol = 0 then frameD trgV else frameP trgV)

/-- `dv840_output`: the bytes on the line, none when the command answers `OPTION_NG`. -/
def dv840Output (fd485 : Int) : Option (List (Option UInt8)) :=
  rs485WriteData fd485 (dv840Text protocol id value stack)

end Code

/-! ## What is asked -/

/-- The byte that two digits of the text stand for. -/
def textByte (text : List UInt8) (j : Nat) : BitVec 8 := charOf ((text.drop (2 * j)).take 2)

/-- The function that a text asks for. -/
def requested (text : List UInt8) : Option CommandBytes :=
  functionBytes (textByte text 1) (textByte text 2) (textByte text 3)
    (if textByte text 3 = 0x5F then 0x5F else 0x22)

/-- A frame of the protocol D: the sum of the bytes from the second to the sixth is behind them. -/
def pelcoD (address : UInt8) (function : CommandBytes) : List (BitVec 8) :=
  [0xFF, address.toBitVec, function.first, function.second, function.third, function.fourth,
    address.toBitVec + function.first + function.second + function.third + function.fourth]

/-- A frame of the protocol P: the exclusive or of the seven bytes is behind them. -/
def pelcoP (address : UInt8) (function : CommandBytes) : List (BitVec 8) :=
  [0xA0, address.toBitVec - 1, function.first, function.second, function.third, function.fourth, 0xAF,
    0xA0 ^^^ (address.toBitVec - 1) ^^^ function.first ^^^ function.second ^^^ function.third ^^^
      function.fourth ^^^ 0xAF]

/-- The bytes on the line. -/
def onLine (frame : List (BitVec 8)) : List (Option UInt8) := frame.map fun byte => some ⟨byte⟩

/-- What is asked of the bytes on the line: they are the frame of the function that the text asks
for, and there are none for a text that asks for no function. -/
def Asked (frame : CommandBytes → List (BitVec 8)) (text : List UInt8) (bytes : List (Option UInt8)) :
    Prop :=
  bytes = match requested text with
    | some function => onLine (frame function)
    | none => []

/-- The bytes that are sent. -/
def sent (protocol id : UInt8) (value : Value) (stack : Stack) (fd485 : Int) :
    List (Option UInt8) :=
  (dv840Output protocol id value stack fd485).getD []

/-- The four bytes that the stack holds in the place of those of a function. -/
def Stack.held (stack : Stack) : CommandBytes :=
  ⟨(stack.trgV 2).setWidth 8, (stack.trgV 3).setWidth 8, (stack.trgV 4).setWidth 8,
    (stack.trgV 5).setWidth 8⟩

/-- The stack has a NUL right behind a text of this length, or one character later. -/
def Stack.Ends (stack : Stack) (length : Nat) : Prop :=
  stack.trg.getD length 0 = 0 ∨ stack.trg.getD (length + 1) 0 = 0

/-- When a frame with as many digits is the one that is asked for: the line is open, the stack has
the bytes of the function in their place and ends the text; or nothing is to be sent and the line is
not open. -/
def Meets (digits : Nat) (text : List UInt8) (stack : Stack) (fd485 : Int) : Prop :=
  match requested text with
  | some function => 0 ≤ fd485 ∧ stack.Ends digits ∧ function = stack.held
  | none => fd485 < 0

/-! ## Digits -/

/-- The digit of a value below 16 is decoded to the value, and it is no NUL. -/
theorem digitOf_digitChar {val : BitVec 32} (small : val.toNat < 16) :
    (digitOf (digitChar val)).toNat = val.toNat ∧ digitChar val ≠ 0 := by
  have all : ∀ n < 16,
      (digitOf (if n ≤ 9 then UInt8.ofNat (n + 48) else UInt8.ofNat (n + 65 - 10))).toNat = n ∧
        (if n ≤ 9 then UInt8.ofNat (n + 48) else UInt8.ofNat (n + 65 - 10)) ≠ 0 := by
    decide
  exact all val.toNat small

/-- The digits of a word are decoded to its low byte. -/
theorem decode_hexPair (word : BitVec 32) :
    (digitOf (digitChar ((word &&& 0xF0) >>> 4)) <<< 4) |||
        digitOf (digitChar (word &&& 0x0F)) = ⟨word.setWidth 8⟩ := by
  have high : ((word &&& 0xF0) >>> 4).toNat = word.toNat / 16 % 16 := by
    rw [BitVec.toNat_ushiftRight, BitVec.toNat_and, Nat.shiftRight_and_distrib,
      Nat.shiftRight_eq_div_pow]
    exact Nat.and_two_pow_sub_one_eq_mod _ 4
  have low : (word &&& 0x0F).toNat = word.toNat % 16 := by
    rw [BitVec.toNat_and]
    exact Nat.and_two_pow_sub_one_eq_mod _ 4
  have highSmall : ((word &&& 0xF0) >>> 4).toNat < 16 := by omega
  have lowSmall : (word &&& 0x0F).toNat < 16 := by omega
  have first := (digitOf_digitChar highSmall).1
  have second := (digitOf_digitChar lowSmall).1
  apply UInt8.toNat_inj.mp
  rw [halves (by omega) (by omega), first, second, high, low]
  show _ = (word.setWidth 8).toNat
  rw [BitVec.toNat_setWidth]
  omega

/-- The text of a frame: its digits, and what the stack holds behind them. -/
theorem trgText_eq (stack : Stack) (frame : List (BitVec 32)) :
    trgText stack frame =
      frame.flatMap hexPair ++ (stack.trg.drop (2 * frame.length)).takeWhile (· ≠ 0) := by
  have solid : ∀ c ∈ frame.flatMap hexPair, decide (c ≠ 0) = true := by
    intro c member
    obtain ⟨word, -, digit⟩ := List.mem_flatMap.mp member
    have high : ((word &&& 0xF0) >>> 4).toNat < 16 := by
      rw [BitVec.toNat_ushiftRight, BitVec.toNat_and, Nat.shiftRight_and_distrib]
      exact Nat.lt_of_le_of_lt Nat.and_le_right (by decide)
    have low : (word &&& 0x0F).toNat < 16 := by
      rw [BitVec.toNat_and]
      exact Nat.lt_of_le_of_lt Nat.and_le_right (by decide)
    have cases := List.mem_cons.mp digit
    rw [List.mem_singleton] at cases
    rcases cases with rfl | rfl
    · exact decide_eq_true (digitOf_digitChar high).2
    · exact decide_eq_true (digitOf_digitChar low).2
  rw [trgText, List.takeWhile_append_of_pos solid]

/-- There are two digits for each word. -/
theorem length_flatMap_hexPair (frame : List (BitVec 32)) :
    (frame.flatMap hexPair).length = 2 * frame.length := by
  induction frame with
  | nil => rfl
  | cons word frame ih =>
    rw [List.flatMap_cons, List.length_append, ih, List.length_cons]
    show 2 + 2 * frame.length = _
    omega

/-- The digits of a word of the frame. -/
theorem flatMap_hexPair_getD (frame : List (BitVec 32)) (tail : List UInt8) {j : Nat}
    (inside : j < frame.length) :
    (frame.flatMap hexPair ++ tail).getD (2 * j) 0 = digitChar ((frame[j] &&& 0xF0) >>> 4) ∧
      (frame.flatMap hexPair ++ tail).getD (2 * j + 1) 0 = digitChar (frame[j] &&& 0x0F) := by
  induction frame generalizing j with
  | nil => exact absurd inside (Nat.not_lt_zero _)
  | cons word frame ih =>
    cases j with
    | zero => exact ⟨rfl, rfl⟩
    | succ j => exact ih (Nat.lt_of_succ_lt_succ inside)

/-! ## Frames on the line -/

/-- A byte of a frame that is sent over an open line. -/
theorem line_getElem? {fd485 : Int} (isOpen : 0 ≤ fd485) {frame : List (BitVec 32)}
    (short : frame.length ≤ 8) (tail : List UInt8) {j : Nat} (inside : j < frame.length) :
    ((rs485WriteData fd485 (frame.flatMap hexPair ++ tail)).getD [])[j]? =
      some (some ⟨frame[j].setWidth 8⟩) := by
  have length := length_flatMap_hexPair frame
  have decoded : 2 * j + 1 < decodedLen (frame.flatMap hexPair ++ tail) := by
    rw [decodedLen, rs485BuffSize, List.length_append, length]
    omega
  have written : j < (frame.flatMap hexPair ++ tail).length / 2 := by
    rw [List.length_append, length]
    omega
  obtain ⟨high, low⟩ := flatMap_hexPair_getD frame tail inside
  rw [rs485WriteData, if_neg (by omega), Option.getD_some, List.getElem?_map,
    List.getElem?_range written, Option.map_some, writBuff_getElem? decoded, high, low,
    decode_hexPair]

/-- The number of bytes that are sent over an open line. -/
theorem length_line {fd485 : Int} (isOpen : 0 ≤ fd485) (frame : List (BitVec 32))
    (tail : List UInt8) :
    ((rs485WriteData fd485 (frame.flatMap hexPair ++ tail)).getD []).length =
      frame.length + tail.length / 2 := by
  rw [rs485WriteData, if_neg (by omega), Option.getD_some, List.length_map, List.length_range,
    List.length_append, length_flatMap_hexPair]
  omega

/-- What is sent over an open line is a frame of as many bytes exactly when the text of the digits
ends in time and the words have these bytes. -/
theorem line_eq_iff {fd485 : Int} (isOpen : 0 ≤ fd485) {frame : List (BitVec 32)}
    (short : frame.length ≤ 8) (tail : List UInt8) {bytes : List (BitVec 8)}
    (same : bytes.length = frame.length) :
    (rs485WriteData fd485 (frame.flatMap hexPair ++ tail)).getD [] = onLine bytes ↔
      tail.length ≤ 1 ∧ bytes = frame.map (·.setWidth 8) := by
  have length := length_line isOpen frame tail
  constructor
  · intro equal
    rw [equal, onLine, List.length_map, same] at length
    refine ⟨by omega, List.ext_getElem (by rw [List.length_map, same]) ?_⟩
    intro j first _
    have byte := line_getElem? isOpen short tail (same ▸ first)
    rw [equal, onLine, List.getElem?_map, List.getElem?_eq_getElem first] at byte
    rw [List.getElem_map]
    injection byte with byte
    injection byte with byte
    injection byte
  · rintro ⟨ends, rfl⟩
    apply List.ext_getElem?
    intro j
    by_cases inside : j < frame.length
    · rw [line_getElem? isOpen short tail inside, onLine, List.getElem?_map, List.getElem?_map,
        List.getElem?_eq_getElem inside]
      rfl
    · rw [List.getElem?_eq_none (by rw [length]; omega), List.getElem?_eq_none]
      rw [onLine, List.length_map, List.length_map]
      omega

/-- The stack ends a text of digits in time. -/
theorem ends_iff (stack : Stack) {length : Nat} (inside : length + 1 < 24) :
    ((stack.trg.drop length).takeWhile (· ≠ 0)).length ≤ 1 ↔ stack.Ends length := by
  have long := stack.long
  have front : stack.trg.drop length =
      stack.trg.getD length 0 :: stack.trg.getD (length + 1) 0 :: stack.trg.drop (length + 2) := by
    rw [List.getD_eq_getElem _ _ (by omega), List.getD_eq_getElem _ _ (by omega),
      List.drop_eq_getElem_cons (by omega), List.drop_eq_getElem_cons (by omega)]
  rw [front, Stack.Ends]
  by_cases first : stack.trg.getD length 0 = 0
  · rw [List.takeWhile_cons_of_neg (by simpa using first)]
    exact iff_of_true (Nat.zero_le _) (.inl first)
  · rw [List.takeWhile_cons_of_pos (by simpa using first)]
    by_cases second : stack.trg.getD (length + 1) 0 = 0
    · rw [List.takeWhile_cons_of_neg (by simpa using second)]
      exact iff_of_true (Nat.le_refl _) (.inr second)
    · rw [List.takeWhile_cons_of_pos (by simpa using second)]
      refine iff_of_false ?_ (not_or.mpr ⟨first, second⟩)
      rw [List.length_cons, List.length_cons]
      omega

/-! ## Checksums -/

/-- The remainder by 256 has the low byte of the word. -/
theorem setWidth_srem (word : BitVec 32) : (word.srem 256).setWidth 8 = word.setWidth 8 := by
  have remainder : (word.srem 256).toInt = word.toInt - 256 * word.toInt.tdiv 256 := by
    rw [BitVec.toInt_srem]
    exact Int.tmod_def _ _
  rw [BitVec.toInt_eq_toNat_cond, BitVec.toInt_eq_toNat_cond] at remainder
  generalize Int.tdiv _ _ = quotient at remainder
  apply BitVec.eq_of_toNat_eq
  rw [BitVec.toNat_setWidth, BitVec.toNat_setWidth]
  split at remainder <;> split at remainder <;> omega

/-- The sum of the protocol D, as far as it is sent. -/
theorem setWidth_sumD (trgV : Nat → BitVec 32) :
    (sumD trgV).setWidth 8 = (trgV 1).setWidth 8 + (trgV 2).setWidth 8 + (trgV 3).setWidth 8 +
      (trgV 4).setWidth 8 + (trgV 5).setWidth 8 := by
  have round : ∀ sum word : BitVec 32,
      (if sum.toInt ≤ 256 then sum.srem 256 + word else sum + word).setWidth 8 =
        sum.setWidth 8 + word.setWidth 8 := by
    intro sum word
    split
    · rw [BitVec.setWidth_add _ _ (by decide), setWidth_srem]
    · rw [BitVec.setWidth_add _ _ (by decide)]
  change BitVec.setWidth 8 (List.foldl _ 0 [1, 2, 3, 4, 5]) = _
  simp only [List.foldl_cons, List.foldl_nil, round]
  rw [show (0 : BitVec 32).setWidth 8 = 0#8 from rfl, BitVec.zero_add]

section Frames

variable (id : UInt8) (value : Value) (stack : Stack)

/-- A frame of the protocol D has seven words. -/
theorem length_frameD (trgV : Nat → BitVec 32) : (frameD trgV).length = 7 := by
  rw [frameD, List.length_append, List.length_map, List.length_range, List.length_singleton]

/-- A frame of the protocol P has eight words. -/
theorem length_frameP (trgV : Nat → BitVec 32) : (frameP trgV).length = 8 := by
  simp only [frameP, List.length_append, List.length_map, List.length_range, List.length_singleton]

/-- The bytes of a frame of the protocol D: those that the stack holds are where the function
belongs. -/
theorem frameD_bytes :
    (frameD (words 0 id value stack)).map (·.setWidth 8) = pelcoD id stack.held := by
  have address : ((id.toBitVec.setWidth 32).setWidth 8 : BitVec 8) = id.toBitVec := by
    rw [BitVec.setWidth_setWidth_of_le _ (by decide), BitVec.setWidth_eq]
  rw [frameD, List.map_append, List.map_map, List.map_singleton, setWidth_sumD]
  show [(0xFF : BitVec 32).setWidth 8, (id.toBitVec.setWidth 32).setWidth 8, _, _, _, _,
    (id.toBitVec.setWidth 32).setWidth 8 + _ + _ + _ + _] = _
  rw [address]
  rfl

/-- The bytes of a frame of the protocol P. -/
theorem frameP_bytes :
    (frameP (words 1 id value stack)).map (·.setWidth 8) = pelcoP id stack.held := by
  have address : ((id.toBitVec.setWidth 32 - 1 : BitVec 32).setWidth 8 : BitVec 8) =
      id.toBitVec - 1 := by
    rw [BitVec.sub_eq_add_neg, BitVec.setWidth_add _ _ (by decide),
      BitVec.setWidth_setWidth_of_le _ (by decide), BitVec.setWidth_eq, BitVec.sub_eq_add_neg]
    rfl
  rw [frameP, List.map_append, List.map_append, List.map_map, List.map_singleton, List.map_singleton]
  show [(0xA0 : BitVec 32).setWidth 8, (id.toBitVec.setWidth 32 - 1 : BitVec 32).setWidth 8, _, _, _, _,
    (0xAF : BitVec 32).setWidth 8,
    (0 ^^^ (0xA0 : BitVec 32) ^^^ (id.toBitVec.setWidth 32 - 1) ^^^ stack.trgV 2 ^^^ stack.trgV 3 ^^^
      stack.trgV 4 ^^^ stack.trgV 5 ^^^ 0xAF).setWidth 8] = _
  simp only [BitVec.setWidth_xor, address]
  rfl

/-- What the command sends with the protocol D over an open line. -/
theorem sent_D_iff {fd485 : Int} (isOpen : 0 ≤ fd485) (function : CommandBytes) :
    sent 0 id value stack fd485 = onLine (pelcoD id function) ↔
      stack.Ends 14 ∧ function = stack.held := by
  have text : dv840Text 0 id value stack =
      trgText stack (frameD (words 0 id value stack)) := rfl
  have length := length_frameD (words 0 id value stack)
  have same : (pelcoD id function).length = (frameD (words 0 id value stack)).length := length.symm
  rw [sent, dv840Output, text, trgText_eq, line_eq_iff isOpen (by omega) _ same, frameD_bytes, length,
    ends_iff stack (by decide)]
  refine and_congr_right fun _ => ⟨fun same => ?_, fun same => by rw [same]⟩
  simp only [pelcoD, List.cons.injEq] at same
  obtain ⟨-, -, first, second, third, fourth, -⟩ := same
  exact CommandBytes.ext first second third fourth

/-- What the command sends with the protocol P over an open line. -/
theorem sent_P_iff {fd485 : Int} (isOpen : 0 ≤ fd485) (function : CommandBytes) :
    sent 1 id value stack fd485 = onLine (pelcoP id function) ↔
      stack.Ends 16 ∧ function = stack.held := by
  have text : dv840Text 1 id value stack =
      trgText stack (frameP (words 1 id value stack)) := rfl
  have length := length_frameP (words 1 id value stack)
  have same : (pelcoP id function).length = (frameP (words 1 id value stack)).length := length.symm
  rw [sent, dv840Output, text, trgText_eq, line_eq_iff isOpen (by omega) _ same, frameP_bytes, length,
    ends_iff stack (by decide)]
  refine and_congr_right fun _ => ⟨fun same => ?_, fun same => by rw [same]⟩
  simp only [pelcoP, List.cons.injEq] at same
  obtain ⟨-, -, first, second, third, fourth, -⟩ := same
  exact CommandBytes.ext first second third fourth

/-- Over an open line the bytes of the first six words are sent. -/
theorem sent_word (protocol : UInt8) {fd485 : Int} (isOpen : 0 ≤ fd485) {j : Nat} (inside : j < 6) :
    (sent protocol id value stack fd485)[j]? =
      some (some ⟨(words protocol id value stack j).setWidth 8⟩) := by
  change ((rs485WriteData fd485 (trgText stack (if protocol = 0 then
    frameD (words protocol id value stack) else frameP (words protocol id value stack)))).getD
      [])[j]? = _
  have front : ∀ rest : List (BitVec 32), rest.length ≤ 2 →
      ((rs485WriteData fd485 (trgText stack ((List.range 6).map (words protocol id value stack) ++
        rest))).getD [])[j]? = some (some ⟨(words protocol id value stack j).setWidth 8⟩) := by
    intro rest short
    have length : ((List.range 6).map (words protocol id value stack) ++ rest).length =
        6 + rest.length := by
      rw [List.length_append, List.length_map, List.length_range]
    have below : j < ((List.range 6).map (words protocol id value stack) ++ rest).length := by
      omega
    rw [trgText_eq, line_getElem? isOpen (by omega) _ below]
    have here : ((List.range 6).map (words protocol id value stack) ++ rest)[j] =
        words protocol id value stack j := by
      rw [List.getElem_append_left (by simpa using inside), List.getElem_map, List.getElem_range]
    rw [here]
  split
  · exact front [_] (Nat.le_succ 1)
  · rw [frameP, List.append_assoc]
    exact front [_, _] (Nat.le_refl 2)

/-- Nothing is sent exactly when the line is not open. -/
theorem sent_eq_nil (protocol : UInt8) {fd485 : Int} :
    sent protocol id value stack fd485 = [] ↔ fd485 < 0 := by
  by_cases isOpen : 0 ≤ fd485
  · refine iff_of_false (fun none => ?_) (by omega)
    have first := sent_word id value stack protocol isOpen (j := 0) (by decide)
    rw [none] at first
    cases first
  · have closed : fd485 < 0 := by omega
    rw [sent, dv840Output, rs485WriteData, if_pos closed]
    exact iff_of_true rfl closed

/-- A frame that is not empty is sent exactly when the line is open and it is what an open line
gets. -/
theorem asked_iff {protocol : UInt8} {fd485 : Int} {digits : Nat}
    {frame : CommandBytes → List (BitVec 8)} (nonempty : ∀ function, onLine (frame function) ≠ [])
    (exact : ∀ function, 0 ≤ fd485 →
      (sent protocol id value stack fd485 = onLine (frame function) ↔
        stack.Ends digits ∧ function = stack.held)) :
    Asked frame value.text (sent protocol id value stack fd485) ↔
      Meets digits value.text stack fd485 := by
  have closed : sent protocol id value stack fd485 = [] ↔ fd485 < 0 :=
    sent_eq_nil id value stack protocol
  unfold Asked Meets
  cases requested value.text with
  | none => exact closed
  | some function =>
    by_cases isOpen : 0 ≤ fd485
    · have open_iff := exact function isOpen
      exact ⟨fun same => ⟨isOpen, open_iff.mp same⟩, fun meets => open_iff.mpr meets.2⟩
    · rw [closed.mpr (by omega)]
      exact ⟨fun same => absurd same.symm (nonempty function), fun meets => absurd meets.1 isOpen⟩

/-- There is a word that is sent as the stack has it. -/
theorem words_held (protocol : UInt8) :
    ∃ j < 6, ∀ stack : Stack, words protocol id value stack j = stack.trgV j := by
  by_cases d : protocol = 0
  · refine ⟨2, by decide, fun stack => ?_⟩
    rw [words, if_pos d]
    rfl
  · by_cases p : protocol = 1
    · refine ⟨2, by decide, fun stack => ?_⟩
      rw [words, if_neg d, if_pos p]
      rfl
    · refine ⟨0, by decide, fun stack => ?_⟩
      rw [words, if_neg d, if_neg p]
      split
      · generalize functionBytes _ _ _ _ = function
        cases function <;> rfl
      · rfl

end Frames

/-- A stack that holds one word everywhere, and a NUL at every place of the text. -/
def Stack.filled (word : BitVec 32) : Stack where
  trgV := fun _ => word
  trg := List.replicate 24 0
  long := Nat.le_refl _

/-- For every text, every address and everything that the stack may hold: with the protocol D the
frame of the function goes over an open line exactly when the stack has the four bytes in their
place and a NUL behind the fourteen digits, one character later at most, and with the protocol P
the same holds with sixteen digits. A text that asks for no function is sent as well. With every
protocol the bytes on an open line depend on the stack. -/
theorem pelco_frames_iff (id : UInt8) (value : Value) (fd485 : Int) :
    (∀ stack, Asked (pelcoD id) value.text (sent 0 id value stack fd485) ↔
      Meets 14 value.text stack fd485) ∧
    (∀ stack, Asked (pelcoP id) value.text (sent 1 id value stack fd485) ↔
      Meets 16 value.text stack fd485) ∧
    ∀ protocol, (∃ bytes, ∀ stack, sent protocol id value stack fd485 = bytes) ↔ fd485 < 0 := by
  refine ⟨fun stack => ?_, fun stack => ?_, fun protocol => ?_⟩
  · exact asked_iff id value stack (fun _ => List.cons_ne_nil _ _)
      fun function isOpen => sent_D_iff id value stack isOpen function
  · exact asked_iff id value stack (fun _ => List.cons_ne_nil _ _)
      fun function isOpen => sent_P_iff id value stack isOpen function
  · constructor
    · rintro ⟨bytes, same⟩
      by_contra closed
      have isOpen : 0 ≤ fd485 := by omega
      obtain ⟨j, inside, held⟩ := words_held id value protocol
      have zero := sent_word id value (.filled 0) protocol isOpen inside
      have one := sent_word id value (.filled 1) protocol isOpen inside
      rw [same, held] at zero one
      have equal := zero.symm.trans one
      injection equal with equal
      injection equal with equal
      injection equal with equal
      exact absurd equal (show ¬(0 : BitVec 32).setWidth 8 = (1 : BitVec 32).setWidth 8 by decide)
    · intro closed
      exact ⟨[], fun stack => (sent_eq_nil id value stack protocol).mpr closed⟩

/-- The function to stop is sent with the bytes of the stack, and a function that does not exist is
sent too. -/
theorem pelco_stop_garbled :
    ¬Asked (pelcoD 1) (ascii "0000000000")
      (sent 0 1 ⟨ascii "0000000000", fun _ => 0⟩ (.filled 1) 3) ∧
    ¬Asked (pelcoD 1) (ascii "0003000000")
      (sent 0 1 ⟨ascii "0003000000", fun _ => 0⟩ (.filled 0) 3) := by
  constructor
  · intro asked
    have stop : requested (ascii "0000000000") = some ⟨0, 0, 0, 0⟩ := by decide
    have isOpen : (0 : Int) ≤ 3 := by decide
    have third := sent_word 1 ⟨ascii "0000000000", fun _ => 0⟩ (.filled 1) 0 isOpen (j := 2)
      (by decide)
    simp only [Asked, stop] at asked
    rw [asked] at third
    exact absurd third (by decide)
  · intro asked
    have unknown : requested (ascii "0003000000") = none := by decide
    simp only [Asked, unknown] at asked
    exact absurd ((sent_eq_nil 1 _ _ 0).mp asked) (by decide)

end BoaIpcam.Pelco
