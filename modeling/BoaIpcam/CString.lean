import Mathlib.Data.List.Basic

/-!
# Bytes and C strings

A C string is the list of its bytes before the terminating NUL. The comparisons of the
server are tests of `strcmp` or `strcasecmp` against zero; the first is equality of lists,
the second is equality after folding the ASCII letters, which is what the C locale folds.
-/
namespace BoaIpcam

/-- The bytes of an ASCII literal. -/
def ascii (text : String) : List UInt8 := text.toList.map fun c => UInt8.ofNat c.toNat

/-- `tolower` in the C locale. -/
def toLower (c : UInt8) : UInt8 := if 65 ≤ c ∧ c ≤ 90 then c + 32 else c

/-- `strcasecmp(left, right) == 0`. -/
def StrCaseEq (left right : List UInt8) : Prop := left.map toLower = right.map toLower

instance (left right : List UInt8) : Decidable (StrCaseEq left right) :=
  inferInstanceAs (Decidable (left.map toLower = right.map toLower))

/-- Every string is equal to itself up to case. -/
@[simp] theorem StrCaseEq.refl (text : List UInt8) : StrCaseEq text text := rfl

/-- Equality up to case is symmetric. -/
theorem StrCaseEq.symm {left right : List UInt8} (same : StrCaseEq left right) :
    StrCaseEq right left := Eq.symm same

/-- Equality up to case is transitive. -/
theorem StrCaseEq.trans {first second third : List UInt8} (left : StrCaseEq first second)
    (right : StrCaseEq second third) : StrCaseEq first third := Eq.trans left right

/-- Only the empty string equals the empty string up to case. -/
@[simp] theorem strCaseEq_nil_right {text : List UInt8} : StrCaseEq text [] ↔ text = [] := by
  simp [StrCaseEq]

/-- Texts are equal when they are the same list. -/
theorem text_lawfulBEq : LawfulBEq (List UInt8) := List.instLawfulBEq

/-- `strchr`: the text before the first occurrence of a byte and the text after it. -/
def splitAtByte (mark : UInt8) : List UInt8 → Option (List UInt8 × List UInt8)
  | [] => none
  | c :: rest =>
    if c = mark then some ([], rest)
    else (splitAtByte mark rest).map fun (before, after) => (c :: before, after)

/-- `isspace` in the C locale. -/
def isSpace (c : UInt8) : Bool := c = 32 ∨ 9 ≤ c ∧ c ≤ 13

/-- The value of the leading decimal digits, after those already read. -/
def digits (value : Nat) : List UInt8 → Nat
  | [] => value
  | c :: rest => if 48 ≤ c ∧ c ≤ 57 then digits (value * 10 + (c.toNat - 48)) rest else value

/-- `atoi`: white space, a sign and digits; what does not fit an `int` is clamped to it. -/
def atoi (text : List UInt8) : Int :=
  match text.dropWhile isSpace with
  | 45 :: rest => max (-2147483648) (-(digits 0 rest : Int))
  | 43 :: rest => min 2147483647 (digits 0 rest : Int)
  | rest => min 2147483647 (digits 0 rest : Int)

end BoaIpcam
