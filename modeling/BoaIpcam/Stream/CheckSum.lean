import BoaIpcam.Lib.OnesComplement

/-!
# The checksum of a JPEG header

`check_sum` of `get.c` adds 16-bit words in a 32-bit sum, 65534 of them at a time, and brings the
carries around twice behind each chunk. A full chunk on top of a word that was carried over stays
below the limit of 32 bits, so the result is the complement of the ones-complement sum.
-/
namespace BoaIpcam

open OnesComplement

/-! ## The function -/

/-- The `for` loop: the words of a chunk are added. -/
def checkSumAdd (sum : UInt32) (words : List UInt16) : UInt32 :=
  words.foldl (fun sum word => sum + word.toUInt32) sum

/-- The three lines behind the loop. -/
def checkSumFold (sum : UInt32) : UInt32 :=
  let sum := (sum >>> 16) + (sum &&& 0xffff)
  let sum := sum + (sum >>> 16)
  sum &&& 0xffff

/-- `cnt`, for the words that are left. -/
def checkSumCount (size : Nat) : Nat := if 65533 < size then 65534 else size

/-- The `while` loop, on the words that are left. -/
def checkSumLoop (data : List UInt16) (sum : UInt32) : UInt32 :=
  if data = [] then sum
  else
    checkSumLoop (data.drop (checkSumCount data.length))
      (checkSumFold (checkSumAdd sum (data.take (checkSumCount data.length))))
termination_by data.length
decreasing_by
  rename_i some
  have more : 0 < data.length := List.length_pos_iff.mpr some
  rw [List.length_drop, checkSumCount]
  split_ifs <;> omega

/-- `check_sum`, on the words from `data` on. There are `size` of them. -/
def checkSum (data : List UInt16) : UInt16 := (~~~(checkSumLoop data 0) &&& 0xffff).toUInt16

/-! ## The value -/

/-- The numbers that are added. -/
def wordValues (words : List UInt16) : List Nat := words.map UInt16.toNat

/-- They are words of the base. -/
theorem wordValues_lt (words : List UInt16) : ∀ word ∈ wordValues words, word < 65536 := by
  intro word there
  obtain ⟨word, _, rfl⟩ := List.mem_map.mp there
  exact word.toNat_lt

/-- Some words add up to no more than the greatest word for each. -/
theorem wordValues_sum_le (words : List UInt16) :
    (wordValues words).sum ≤ words.length * 65535 := by
  induction words with
  | nil => exact Nat.zero_le _
  | cons word words ih =>
    have first := word.toNat_lt
    rw [wordValues, List.map_cons, List.sum_cons, List.length_cons]
    change word.toNat + (wordValues words).sum ≤ _
    omega

/-- The words of a chunk are added without overflow. -/
theorem checkSumAdd_toNat (sum : UInt32) (words : List UInt16)
    (fits : sum.toNat + (wordValues words).sum < 4294967296) :
    (checkSumAdd sum words).toNat = sum.toNat + (wordValues words).sum := by
  induction words generalizing sum with
  | nil => rfl
  | cons word words ih =>
    have values : (wordValues (word :: words)).sum = word.toNat + (wordValues words).sum := by
      rw [wordValues, List.map_cons, List.sum_cons, wordValues]
    rw [values] at fits ⊢
    have first : (sum + word.toUInt32).toNat = sum.toNat + word.toNat := by
      rw [UInt32.toNat_add, UInt16.toNat_toUInt32]
      exact Nat.mod_eq_of_lt (by omega)
    have rest := ih (sum + word.toUInt32) (by rw [first]; omega)
    rw [first, Nat.add_assoc] at rest
    exact rest

/-- The high and the low half of a sum. -/
theorem halves_toNat (sum : UInt32) :
    (sum >>> 16).toNat = sum.toNat / 65536 ∧ (sum &&& 0xffff).toNat = sum.toNat % 65536 := by
  constructor
  · rw [UInt32.toNat_shiftRight]
    exact Nat.shiftRight_eq_div_pow sum.toNat 16
  · rw [UInt32.toNat_and]
    exact Nat.and_two_pow_sub_one_eq_mod sum.toNat 16

/-- The lines behind the loop bring the carries around twice. -/
theorem checkSumFold_toNat (sum : UInt32) :
    (checkSumFold sum).toNat = carry 65536 (carry 65536 sum.toNat) := by
  have below := sum.toNat_lt
  have once : ((sum >>> 16) + (sum &&& 0xffff)).toNat = carry 65536 sum.toNat := by
    rw [UInt32.toNat_add, (halves_toNat sum).1, (halves_toNat sum).2, carry]
    omega
  have short : carry 65536 sum.toNat + 1 < 2 * 65536 := carry_carry_lt below
  rw [checkSumFold, (halves_toNat _).2, UInt32.toNat_add, (halves_toNat _).1, once]
  generalize carry 65536 sum.toNat = value at short ⊢
  rw [carry]
  omega

/-- A chunk on top of a word keeps the number and leaves a word. -/
theorem checkSum_chunk {sum : UInt32} {words : List UInt16} (word : sum.toNat < 65536)
    (short : words.length ≤ 65534) :
    (checkSumFold (checkSumAdd sum words)).toNat < 65536 ∧
      Same 65536 (checkSumFold (checkSumAdd sum words)).toNat
        (sum.toNat + (wordValues words).sum) := by
  have bound := wordValues_sum_le words
  have added := checkSumAdd_toNat sum words (by omega)
  rw [checkSumFold_toNat, added]
  constructor
  · exact carry_lt (carry_carry_lt (by omega))
  · exact (carry_same (by decide) _).trans (carry_same (by decide) _)

/-- All chunks keep the number and leave a word. -/
theorem checkSumLoop_same (data : List UInt16) (sum : UInt32) (word : sum.toNat < 65536) :
    (checkSumLoop data sum).toNat < 65536 ∧
      Same 65536 (checkSumLoop data sum).toNat (sum.toNat + (wordValues data).sum) := by
  fun_induction checkSumLoop data sum with
  | case1 sum => exact ⟨word, .refl sum.toNat⟩
  | case2 data sum some ih =>
    have short : (data.take (checkSumCount data.length)).length ≤ 65534 := by
      rw [List.length_take, checkSumCount]
      split_ifs <;> omega
    obtain ⟨below, chunk⟩ := checkSum_chunk word short
    obtain ⟨last, rest⟩ := ih below
    have parts : (wordValues (data.take (checkSumCount data.length))).sum +
        (wordValues (data.drop (checkSumCount data.length))).sum = (wordValues data).sum := by
      rw [← List.sum_append, wordValues, wordValues, ← List.map_append, List.take_append_drop,
        wordValues]
    have whole := rest.trans (chunk.add_right _)
    rw [Nat.add_assoc, parts] at whole
    exact ⟨last, whole⟩

/-- `check_sum` is the complement of the ones-complement sum. -/
theorem checkSum_toNat (data : List UInt16) :
    (checkSum data).toNat = 65535 - OnesComplement.sum 65536 (wordValues data) := by
  obtain ⟨word, same⟩ := checkSumLoop_same data 0 (by decide)
  have zero : (0 : UInt32).toNat = 0 := rfl
  rw [zero, Nat.zero_add] at same
  rw [← eq_sum (by decide) word (wordValues_lt data) same, checkSum, UInt32.toNat_toUInt16,
    (halves_toNat _).2]
  have complement : (~~~(checkSumLoop data 0)).toNat =
      4294967295 - (checkSumLoop data 0).toNat := UInt32.toNat_not _
  omega

/-! ## The chunks -/

/-- The words of a chunk, counted from zero. -/
def chunkOf (data : List UInt16) (k : Nat) : List UInt16 := (data.drop (65534 * k)).take 65534

/-- `sum` in front of a chunk. -/
def sumBefore (data : List UInt16) : Nat → UInt32
  | 0 => 0
  | k + 1 => checkSumFold (checkSumAdd (sumBefore data k) (chunkOf data k))

/-- A chunk has no more words than the loop adds at once. -/
theorem chunkOf_length (data : List UInt16) (k : Nat) : (chunkOf data k).length ≤ 65534 :=
  List.length_take_le _ _

/-- The words up to a chunk and those of the chunk. -/
theorem wordValues_take (data : List UInt16) (k : Nat) :
    (wordValues (data.take (65534 * (k + 1)))).sum =
      (wordValues (data.take (65534 * k))).sum + (wordValues (chunkOf data k)).sum := by
  rw [Nat.mul_add_one, List.take_add, wordValues, List.map_append, List.sum_append, wordValues,
    wordValues, chunkOf]

/-- In front of a chunk the sum is a word that stands for the words up to there. -/
theorem sumBefore_same (data : List UInt16) (k : Nat) :
    (sumBefore data k).toNat < 65536 ∧
      Same 65536 (sumBefore data k).toNat (wordValues (data.take (65534 * k))).sum := by
  induction k with
  | zero =>
    have zero : (0 : UInt32).toNat < 65536 := by decide
    exact ⟨zero, .refl 0⟩
  | succ k ih =>
    obtain ⟨word, same⟩ := ih
    obtain ⟨below, chunk⟩ := checkSum_chunk word (chunkOf_length data k)
    have whole := chunk.trans (same.add_right (wordValues (chunkOf data k)).sum)
    rw [← wordValues_take] at whole
    exact ⟨below, whole⟩

/-- A word is left as it is. -/
theorem checkSumFold_word {sum : UInt32} (word : sum.toNat < 65536) : checkSumFold sum = sum := by
  have once : carry 65536 sum.toNat = sum.toNat := by
    rw [carry, Nat.div_eq_of_lt word, Nat.mod_eq_of_lt word, Nat.zero_add]
  apply UInt32.toNat_inj.mp
  rw [checkSumFold_toNat, once, once]

/-- The loop takes a chunk and goes on behind it. -/
theorem checkSumLoop_chunk (data : List UInt16) {sum : UInt32} (word : sum.toNat < 65536) :
    checkSumLoop data sum =
      checkSumLoop (data.drop 65534) (checkSumFold (checkSumAdd sum (data.take 65534))) := by
  by_cases empty : data = []
  · rw [empty, List.drop_nil, List.take_nil, checkSumAdd, List.foldl_nil, checkSumFold_word word]
  · rw [checkSumLoop, if_neg empty, checkSumCount]
    split_ifs with full
    · rfl
    · -- the last chunk ends with the words
      have whole : data.length ≤ 65534 := by omega
      rw [List.drop_length, List.take_length, List.drop_of_length_le whole,
        List.take_of_length_le whole]

/-- The loop goes on from each chunk with the sum in front of it. -/
theorem checkSumLoop_from (data : List UInt16) (k : Nat) :
    checkSumLoop data 0 = checkSumLoop (data.drop (65534 * k)) (sumBefore data k) := by
  induction k with
  | zero => rfl
  | succ k ih =>
    rw [ih, checkSumLoop_chunk _ (sumBefore_same data k).1, List.drop_drop, Nat.mul_add_one]
    exact rfl

/-- For every number of words `check_sum` returns the complement of their ones-complement sum. No
chunk overflows 32 bits, the carries that are brought around twice behind a chunk leave the
ones-complement sum of the words up to there, and the loop goes on with it. -/
theorem check_sum_ones_complement (data : List UInt16) :
    (checkSum data).toNat = 65535 - OnesComplement.sum 65536 (wordValues data) ∧
      ∀ k, (sumBefore data k).toNat + (wordValues (chunkOf data k)).sum < 4294967296 ∧
        (sumBefore data k).toNat =
          OnesComplement.sum 65536 (wordValues (data.take (65534 * k))) ∧
        checkSumLoop data 0 = checkSumLoop (data.drop (65534 * k)) (sumBefore data k) := by
  refine ⟨checkSum_toNat data, fun k => ?_⟩
  obtain ⟨word, same⟩ := sumBefore_same data k
  refine ⟨?_, eq_sum (by decide) word (wordValues_lt _) same, checkSumLoop_from data k⟩
  have bound := wordValues_sum_le (chunkOf data k)
  have short := chunkOf_length data k
  omega

end BoaIpcam
