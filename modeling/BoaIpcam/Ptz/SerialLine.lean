import BoaIpcam.CString
import Mathlib.Data.List.GetD

/-!
# The serial line

`rs485.c` writes to the line what two hexadecimal digits of a text each stand for. The text is
decoded into an array of `RS485_BUFF_SIZE` bytes, at most 127 characters of it, and half as many
bytes as the text is long are written.
-/
namespace BoaIpcam.SerialLine

/-- `RS485_BUFF_SIZE`. -/
def rs485BuffSize : Nat := 128

/-- What `string_to_ascii` puts in the place of a character. -/
def digitOf (c : UInt8) : UInt8 :=
  if 48 ≤ c ∧ c ≤ 57 then c - 0x30
  else if 65 ≤ c ∧ c ≤ 70 then c - 0x37
  else if 97 ≤ c ∧ c ≤ 102 then c - 0x57
  else 0

/-- The characters that `string_to_ascii` decodes, `len`. -/
def decodedLen (src : List UInt8) : Nat := min src.length (rs485BuffSize - 1)

/-- The copy of the text after the first loop. What is not decoded stays, and a NUL is behind it. -/
def decodedCopy (src : List UInt8) : List UInt8 :=
  (src.take (decodedLen src)).map digitOf ++ src.drop (decodedLen src) ++ [0]

/-- A byte that the second loop of `string_to_ascii` stores. -/
def pairAt (copy : List UInt8) (j : Nat) : UInt8 :=
  (copy.getD (2 * j) 0 <<< 4) ||| copy.getD (2 * j + 1) 0

/-- The array after `string_to_ascii`, which is all zero before. -/
def writBuff (src : List UInt8) : List UInt8 :=
  (List.range rs485BuffSize).map fun j =>
    if 2 * j < decodedLen src then pairAt (decodedCopy src) j else 0

/-- `rs485_write_data`: the bytes that are written to an open line, none for what is read behind the
array. A line that is not open is an error. -/
def rs485WriteData (fd485 : Int) (string : List UInt8) : Option (List (Option UInt8)) :=
  if fd485 < 0 then none
  else some ((List.range (string.length / 2)).map fun j => (writBuff string)[j]?)

/-! ## Texts of digits -/

/-- Half of a byte is moved to the high end. -/
theorem shifted_toNat {high : UInt8} (small : high.toNat < 16) :
    (high <<< 4).toNat = high.toNat * 16 := by
  rw [UInt8.toNat_shiftLeft]
  show high.toNat <<< 4 % 256 = _
  rw [Nat.shiftLeft_eq]
  omega

/-- The halves of a byte are put together again. -/
theorem halves {high low : UInt8} (highSmall : high.toNat < 16) (lowSmall : low.toNat < 16) :
    ((high <<< 4) ||| low).toNat = high.toNat * 16 + low.toNat := by
  have below : low.toNat < 2 ^ 4 := lowSmall
  have sum := Nat.shiftLeft_add_eq_or_of_lt below high.toNat
  rw [Nat.shiftLeft_eq] at sum
  rw [UInt8.toNat_or, shifted_toNat highSmall]
  exact sum.symm

/-- A character of the copy that is decoded. -/
theorem decodedCopy_getD {src : List UInt8} {k : Nat} (inside : k < decodedLen src) :
    (decodedCopy src).getD k 0 = digitOf (src.getD k 0) := by
  have below : k < src.length := by
    unfold decodedLen at inside
    omega
  have first : k < ((src.take (decodedLen src)).map digitOf).length := by
    rw [List.length_map, List.length_take]
    omega
  rw [decodedCopy, List.append_assoc, List.getD_append _ _ _ _ first, List.getD_eq_getElem _ _ first,
    List.getD_eq_getElem _ _ below, List.getElem_map, List.getElem_take]

/-- A byte that is written from two characters that are decoded. -/
theorem writBuff_getElem? {string : List UInt8} {j : Nat} (inside : 2 * j + 1 < decodedLen string) :
    (writBuff string)[j]? =
      some ((digitOf (string.getD (2 * j) 0) <<< 4) ||| digitOf (string.getD (2 * j + 1) 0)) := by
  have small : j < rs485BuffSize := by
    unfold decodedLen rs485BuffSize at inside
    unfold rs485BuffSize
    omega
  rw [writBuff, List.getElem?_map, List.getElem?_range small, Option.map_some,
    if_pos (by omega), pairAt, decodedCopy_getD (by omega), decodedCopy_getD inside]

end BoaIpcam.SerialLine
