import BoaIpcam.CString
import Mathlib.Algebra.Ring.Int.Defs
import Mathlib.Algebra.Ring.Nat
import Mathlib.Data.List.TakeWhile

/-!
# Numbers in texts

What the handlers use of the C library to read and write numbers: `numeric_check`, the conversions
to narrow variables, the formats `%d` and `%08d` of `sprintf`, and `%d`, `%2d` and `%s` of
`sscanf`. `int` and `long` have 32 bits; a number that does not fit is clamped.
-/
namespace BoaIpcam

/-! ## Reading -/

/-- `isdigit`. -/
def isDigit (c : UInt8) : Bool := 48 ≤ c ∧ c ≤ 57

/-- The integer that is written at the start of a text, whatever its size. -/
def leadingInt (text : List UInt8) : Int :=
  match text.dropWhile isSpace with
  | 45 :: rest => -(digits 0 rest : Int)
  | 43 :: rest => digits 0 rest
  | rest => digits 0 rest

/-- The value of an `int`. -/
def clampInt (value : Int) : Int := max (-2147483648) (min 2147483647 value)

/-- `atoi` reads the integer at the start of the text and clamps it. -/
theorem atoi_eq (text : List UInt8) : atoi text = clampInt (leadingInt text) := by
  unfold atoi leadingInt clampInt
  generalize text.dropWhile isSpace = body
  rcases body with _ | ⟨c, rest⟩
  · rfl
  · by_cases minus : c = 45
    · subst minus
      show max (-2147483648) (-(digits 0 rest : Int)) =
        max (-2147483648) (min 2147483647 (-(digits 0 rest : Int)))
      omega
    · by_cases plus : c = 43
      · subst plus
        show min 2147483647 (digits 0 rest : Int) =
          max (-2147483648) (min 2147483647 (digits 0 rest : Int))
        omega
      · simp only [List.cons.injEq, minus, plus, false_and, imp_self, implies_true]
        omega

/-- `numeric_check` finds no other character than digits. -/
def numericCheck (text : List UInt8) : Bool := text.all isDigit

/-- The value of an integer in an unsigned variable with a number of bits. -/
def narrow (bits : Nat) (value : Int) : Nat := (value % 2 ^ bits).toNat

/-- An integer that fits is unchanged. -/
theorem narrow_of_fits {bits : Nat} {value : Int} (positive : 0 ≤ value) (fits : value < 2 ^ bits) :
    (narrow bits value : Int) = value := by
  rw [narrow, Int.emod_eq_of_lt positive fits, Int.toNat_of_nonneg positive]

/-- A narrow value is below the power of two. -/
theorem narrow_lt (bits : Nat) (value : Int) : narrow bits value < 2 ^ bits := by
  have positive : (0 : Int) < 2 ^ bits := Int.pow_pos (by decide)
  have below := Int.emod_lt_of_pos value positive
  have least := Int.emod_nonneg value (Int.ne_of_gt positive)
  have power : ((2 ^ bits : Nat) : Int) = 2 ^ bits := by simp
  rw [narrow]
  omega

/-- A digit is neither white space nor a sign. -/
theorem digit_solid {c : UInt8} (digit : isDigit c = true) :
    isSpace c = false ∧ c ≠ 45 ∧ c ≠ 43 := by
  have range : 48 ≤ c.toNat ∧ c.toNat ≤ 57 := by
    simpa [isDigit, UInt8.le_iff_toNat_le] using digit
  refine ⟨?_, ?_, ?_⟩
  · have space : ¬(c = 32 ∨ 9 ≤ c ∧ c ≤ 13) := by
      rw [← UInt8.toNat_inj, UInt8.le_iff_toNat_le, UInt8.le_iff_toNat_le]
      simp only [UInt8.reduceToNat]
      omega
    simpa [isSpace] using space
  · rintro rfl
    exact absurd range.1 (by decide)
  · rintro rfl
    exact absurd range.1 (by decide)

/-- In a text of digits the integer at the start is the value of the digits. -/
theorem leadingInt_of_numeric {text : List UInt8} (numeric : numericCheck text = true) :
    leadingInt text = digits 0 text := by
  cases text with
  | nil => rfl
  | cons c rest =>
    obtain ⟨solid, minus, plus⟩ := digit_solid (Bool.and_eq_true_iff.mp numeric).1
    rw [leadingInt, List.dropWhile_cons_of_neg (by simp [solid])]
    split
    · simp_all
    · simp_all
    · rfl

/-- What `%d` reads at the start of a text without white space: the number, whatever its size, and
how many characters it has. -/
def scanSigned : List UInt8 → Option (Int × Nat)
  | 45 :: rest =>
    let number := rest.takeWhile isDigit
    if number = [] then none else some (-(digits 0 number : Int), number.length + 1)
  | 43 :: rest =>
    let number := rest.takeWhile isDigit
    if number = [] then none else some (digits 0 number, number.length + 1)
  | rest =>
    let number := rest.takeWhile isDigit
    if number = [] then none else some (digits 0 number, number.length)

/-- The number that `%d` of `sscanf` finds, whatever its size, and the text behind it. -/
def scanNumber (text : List UInt8) : Option (Int × List UInt8) :=
  let body := text.dropWhile isSpace
  (scanSigned body).map fun (value, length) => (value, body.drop length)

/-- `%d` of `sscanf`: the number and the text behind it. -/
def scanInt (text : List UInt8) : Option (Int × List UInt8) :=
  (scanNumber text).map fun (value, rest) => (clampInt value, rest)

/-- `%2d` of `sscanf`: the number has two characters at most. -/
def scanInt2 (text : List UInt8) : Option (Int × List UInt8) :=
  let body := text.dropWhile isSpace
  (scanSigned (body.take 2)).map fun (value, length) => (clampInt value, body.drop length)

/-- `%u` of `sscanf`: the number and the text behind it. A number behind a minus is negated. -/
def scanUnsigned (text : List UInt8) : Option (Nat × List UInt8) :=
  (scanNumber text).map fun (value, rest) =>
    (if value.natAbs < 2 ^ 32 then narrow 32 value else 2 ^ 32 - 1, rest)

/-- A character of the format of `sscanf`. -/
def scanChar (c : UInt8) : List UInt8 → Option (List UInt8)
  | d :: rest => if d = c then some rest else none
  | [] => none

/-- A word of the format of `sscanf`. -/
def scanLiteral (word text : List UInt8) : Option (List UInt8) :=
  if word <+: text then some (text.drop word.length) else none

/-- `%s` of `sscanf`: the text up to the next white space. -/
def scanWord (text : List UInt8) : Option (List UInt8) :=
  let word := (text.dropWhile isSpace).takeWhile fun c => !isSpace c
  if word = [] then none else some word

/-- The value of a hexadecimal digit. -/
def hexValue (c : UInt8) : Option Nat :=
  if 48 ≤ c ∧ c ≤ 57 then some (c.toNat - 48)
  else if 65 ≤ c ∧ c ≤ 70 then some (c.toNat - 55)
  else if 97 ≤ c ∧ c ≤ 102 then some (c.toNat - 87)
  else none

/-- The value of the leading hexadecimal digits, after those already read. -/
def hexDigits (value : Nat) : List UInt8 → Nat
  | [] => value
  | c :: rest =>
    match hexValue c with
    | some digit => hexDigits (value * 16 + digit) rest
    | none => value

/-- The leading hexadecimal digits, with or without `0x` in front. -/
def hexNumber : List UInt8 → Nat
  | 48 :: 120 :: rest => hexDigits 0 rest
  | 48 :: 88 :: rest => hexDigits 0 rest
  | rest => hexDigits 0 rest

/-- `strtol` with the base 16. -/
def strtolHex (text : List UInt8) : Int :=
  match text.dropWhile isSpace with
  | 45 :: rest => clampInt (-(hexNumber rest : Int))
  | 43 :: rest => clampInt (hexNumber rest)
  | rest => clampInt (hexNumber rest)

/-- `strtoul` with the base 10. A number behind a minus is negated. -/
def strtoul (text : List UInt8) : Nat :=
  match text.dropWhile isSpace with
  | 45 :: rest =>
    if digits 0 rest < 2 ^ 32 then narrow 32 (-(digits 0 rest : Int)) else 2 ^ 32 - 1
  | 43 :: rest => min (2 ^ 32 - 1) (digits 0 rest)
  | rest => min (2 ^ 32 - 1) (digits 0 rest)

example : strtolHex (ascii " 0x7F:") = 127 ∧ strtoul (ascii "-1") = 4294967295 := by decide

/-! ## Writing -/

/-- The decimal digits of a number. -/
def decimal (value : Nat) : List UInt8 :=
  (Nat.toDigits 10 value).map fun c => UInt8.ofNat c.toNat

/-- `%d` of `sprintf`. -/
def intText (value : Int) : List UInt8 :=
  if value < 0 then 45 :: decimal value.natAbs else decimal value.natAbs

/-- `%08d` of `sprintf`: zeros behind the sign fill the number up to eight characters. -/
def intText8 (value : Int) : List UInt8 :=
  if value < 0 then
    45 :: List.replicate (7 - (decimal value.natAbs).length) 48 ++ decimal value.natAbs
  else List.replicate (8 - (decimal value.natAbs).length) 48 ++ decimal value.natAbs

/-- The characters of a decimal number are digits. -/
theorem isDigit_of_mem_decimal {value : Nat} {c : UInt8} (member : c ∈ decimal value) :
    isDigit c = true := by
  obtain ⟨char, among, rfl⟩ := List.mem_map.mp member
  have digit := Nat.isDigit_of_mem_toDigits (by decide) (by decide) among
  have range : 48 ≤ char.toNat ∧ char.toNat ≤ 57 := by
    simpa [Char.isDigit, UInt32.le_iff_toNat_le] using digit
  have small : (UInt8.ofNat char.toNat).toNat = char.toNat :=
    UInt8.toNat_ofNat_of_lt' (show char.toNat < 256 by omega)
  simpa [isDigit, UInt8.le_iff_toNat_le, small] using range

/-- A decimal number has a digit. -/
theorem decimal_ne_nil (value : Nat) : decimal value ≠ [] := by
  simp [decimal, Nat.toDigits_ne_nil]

/-- The value of the digits of a decimal number. -/
theorem digits_decimal (value : Nat) : digits 0 (decimal value) = value := by
  have general : ∀ chars : List Char, (∀ c ∈ chars, c.isDigit = true) → ∀ start : Nat,
      digits start (chars.map fun c => UInt8.ofNat c.toNat) =
        Nat.ofDigitChars 10 chars start := by
    intro chars
    induction chars with
    | nil => exact fun _ _ => rfl
    | cons c chars ih =>
      intro numeric start
      have range : 48 ≤ c.toNat ∧ c.toNat ≤ 57 := by
        simpa [Char.isDigit, UInt32.le_iff_toNat_le] using numeric c List.mem_cons_self
      have small : (UInt8.ofNat c.toNat).toNat = c.toNat :=
        UInt8.toNat_ofNat_of_lt' (show c.toNat < 256 by omega)
      rw [List.map_cons, digits, if_pos (by simpa [UInt8.le_iff_toNat_le, small] using range),
        small, Nat.ofDigitChars_cons, ih fun d member => numeric d (List.mem_cons_of_mem _ member)]
      congr 1
      change start * 10 + (c.toNat - 48) = 10 * start + (c.toNat - 48)
      omega
  rw [decimal, general _ fun c => Nat.isDigit_of_mem_toDigits (by decide) (by decide),
    Nat.ofDigitChars_ten_toDigits]

/-- Zeros in front do not change the value. -/
theorem digits_zeros (count value : Nat) :
    digits 0 (List.replicate count 48 ++ decimal value) = value := by
  induction count with
  | zero => exact digits_decimal value
  | succ count ih =>
    rw [List.replicate_succ, List.cons_append, digits, if_pos (by decide)]
    exact ih

/-! ## Reading what was written -/

/-- The text does not go on with a digit. -/
def NoDigit (rest : List UInt8) : Prop := ∀ c ∈ rest.head?, isDigit c = false

/-- The leading digits of digits and a text that does not go on with one. -/
theorem takeWhile_number {number rest : List UInt8} (numeric : ∀ c ∈ number, isDigit c = true)
    (ends : NoDigit rest) : (number ++ rest).takeWhile isDigit = number := by
  rw [List.takeWhile_append_of_pos numeric]
  have stop : rest.takeWhile isDigit = [] := by
    cases rest with
    | nil => rfl
    | cons c rest => rw [List.takeWhile_cons_of_neg (by simp [ends c rfl])]
  rw [stop, List.append_nil]

/-- `%d` reads digits. -/
theorem scanInt_number {number rest : List UInt8} (numeric : ∀ c ∈ number, isDigit c = true)
    (nonempty : number ≠ []) (ends : NoDigit rest) :
    scanInt (number ++ rest) = some (clampInt (digits 0 number), rest) := by
  obtain ⟨c, tail, rfl⟩ := List.exists_cons_of_ne_nil nonempty
  obtain ⟨solid, minus, plus⟩ := digit_solid (numeric c List.mem_cons_self)
  have body : ((c :: tail) ++ rest).dropWhile isSpace = (c :: tail) ++ rest := by
    rw [List.cons_append, List.dropWhile_cons_of_neg (by simp [solid])]
  have read : scanSigned ((c :: tail) ++ rest) =
      some ((digits 0 (c :: tail) : Int), (c :: tail).length) := by
    have taken := takeWhile_number numeric ends
    rw [List.cons_append] at taken ⊢
    unfold scanSigned
    split
    · simp_all
    · simp_all
    · simp only [taken, if_neg nonempty]
  rw [scanInt, scanNumber]
  simp only [body, read, Option.map_some, List.drop_left]

/-- `%d` reads digits behind a minus. -/
theorem scanInt_minus {number rest : List UInt8} (numeric : ∀ c ∈ number, isDigit c = true)
    (nonempty : number ≠ []) (ends : NoDigit rest) :
    scanInt (45 :: number ++ rest) = some (clampInt (-(digits 0 number : Int)), rest) := by
  have body : (45 :: number ++ rest).dropWhile isSpace = 45 :: (number ++ rest) := rfl
  have behind : (45 :: (number ++ rest)).drop (number.length + 1) = rest := by
    rw [List.drop_succ_cons, List.drop_left]
  rw [scanInt, scanNumber]
  simp only [body, scanSigned, takeWhile_number numeric ends, if_neg nonempty, Option.map_some,
    behind]

/-- An `int`. -/
def IsInt (value : Int) : Prop := -2147483648 ≤ value ∧ value ≤ 2147483647

/-- An `int` is not clamped. -/
theorem clampInt_of_isInt {value : Int} (int : IsInt value) : clampInt value = value := by
  unfold IsInt at int
  unfold clampInt
  omega

/-- `atoi` reads an `int`. -/
theorem isInt_atoi (text : List UInt8) : IsInt (atoi text) := by
  rw [atoi_eq]
  unfold IsInt clampInt
  omega

/-- `%d` reads an `int`. -/
theorem isInt_scanInt {text rest : List UInt8} {value : Int}
    (read : scanInt text = some (value, rest)) : IsInt value := by
  obtain ⟨found, -, same⟩ := Option.map_eq_some_iff.mp read
  cases same
  unfold IsInt clampInt
  omega

/-- `%d` reads what digits with zeros in front say. -/
theorem scanInt_padded {value : Int} (int : IsInt value) {rest : List UInt8} (ends : NoDigit rest)
    (left right : Nat) :
    scanInt ((if value < 0 then 45 :: List.replicate left 48 ++ decimal value.natAbs
      else List.replicate right 48 ++ decimal value.natAbs) ++ rest) = some (value, rest) := by
  have numeric : ∀ count, ∀ c ∈ List.replicate count 48 ++ decimal value.natAbs,
      isDigit c = true := by
    intro count c member
    rcases List.mem_append.mp member with zero | digit
    · rw [List.eq_of_mem_replicate zero]
      rfl
    · exact isDigit_of_mem_decimal digit
  have nonempty : ∀ count, List.replicate count 48 ++ decimal value.natAbs ≠ [] :=
    fun count => List.append_ne_nil_of_right_ne_nil _ (decimal_ne_nil _)
  by_cases negative : value < 0
  · have absolute : -((value.natAbs : Nat) : Int) = value := by omega
    rw [if_pos negative, List.cons_append, scanInt_minus (numeric left) (nonempty left) ends,
      digits_zeros, absolute, clampInt_of_isInt int]
  · have absolute : ((value.natAbs : Nat) : Int) = value := by omega
    rw [if_neg negative, scanInt_number (numeric right) (nonempty right) ends, digits_zeros,
      absolute, clampInt_of_isInt int]

/-- `%d` reads what `%d` wrote. -/
theorem scanInt_intText {value : Int} (int : IsInt value) {rest : List UInt8}
    (ends : NoDigit rest) : scanInt (intText value ++ rest) = some (value, rest) :=
  scanInt_padded int ends 0 0

/-- `%d` reads what `%08d` wrote. -/
theorem scanInt_intText8 {value : Int} (int : IsInt value) {rest : List UInt8}
    (ends : NoDigit rest) : scanInt (intText8 value ++ rest) = some (value, rest) :=
  scanInt_padded int ends _ _

/-- A text without white space. -/
def Solid (text : List UInt8) : Prop := ∀ c ∈ text, isSpace c = false

instance (text : List UInt8) : Decidable (Solid text) := List.decidableBAll _ _

/-- `%s` reads a text without white space, and nothing of the empty text. -/
theorem scanWord_solid {text : List UInt8} (solid : Solid text) :
    scanWord text = if text = [] then none else some text := by
  have start : text.dropWhile isSpace = text := by
    cases text with
    | nil => rfl
    | cons c rest => rw [List.dropWhile_cons_of_neg (by simp [solid c List.mem_cons_self])]
  have whole : text.takeWhile (fun c => !isSpace c) = text :=
    List.takeWhile_eq_self_iff.mpr fun c member => by simp [solid c member]
  simp only [scanWord, start, whole]

/-- `%s` reads a text without white space. -/
theorem solid_scanWord (text : List UInt8) : Solid ((scanWord text).getD []) := by
  intro c member
  rw [scanWord] at member
  split at member
  · cases member
  · simpa using List.mem_takeWhile_imp member

end BoaIpcam
