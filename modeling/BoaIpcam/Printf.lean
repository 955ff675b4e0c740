import BoaIpcam.Numeral
import Mathlib.Data.Nat.Digits.Defs

/-!
# Formats of `sprintf`

A format is read once: it turns into pieces, each with the argument that it takes, and the output is
the text of the pieces. A conversion that is not known here, or whose argument is missing or of
another kind, is undefined. A text without `%` is a format that prints itself, with no arguments;
every `%` of a format without arguments makes the output shorter or undefined.
-/
namespace BoaIpcam.Printf

/-! ## The pieces of a format -/

/-- An argument of `sprintf`: a pointer, with the memory behind it, or an `int`. -/
inductive Arg where
  | str (memory : List UInt8)
  | int (value : Int)
deriving DecidableEq, Repr

/-- A piece of a format with its argument: a byte, `%s`, `%d`, `%02d`, `%02X` or `%x`. -/
inductive Piece where
  | byte (c : UInt8)
  | str (memory : List UInt8)
  | int (value : Int)
  | int2 (value : Int)
  | upperHex2 (value : Int)
  | hex (value : Int)
deriving DecidableEq, Repr

/-- The pieces of a format, none when the output is undefined. -/
def pieces : List UInt8 → List Arg → Option (List Piece)
  | [], _ => some []
  | 37 :: 37 :: fmt, args => (pieces fmt args).map (.byte 37 :: ·)
  | 37 :: 115 :: fmt, .str memory :: args => (pieces fmt args).map (.str memory :: ·)
  | 37 :: 100 :: fmt, .int value :: args => (pieces fmt args).map (.int value :: ·)
  | 37 :: 48 :: 50 :: 100 :: fmt, .int value :: args => (pieces fmt args).map (.int2 value :: ·)
  | 37 :: 48 :: 50 :: 88 :: fmt, .int value :: args =>
    (pieces fmt args).map (.upperHex2 value :: ·)
  | 37 :: 120 :: fmt, .int value :: args => (pieces fmt args).map (.hex value :: ·)
  | 37 :: _, _ => none
  | c :: fmt, args => (pieces fmt args).map (.byte c :: ·)

/-- A digit of a hexadecimal number; the letters start behind the given byte. -/
def hexDigit (letters : Nat) (digit : Nat) : UInt8 :=
  UInt8.ofNat (if digit < 10 then 48 + digit else letters + (digit - 10))

/-- The hexadecimal digits of a number. -/
def hexText (letters : Nat) (value : Nat) : List UInt8 :=
  if value = 0 then [48] else (Nat.digits 16 value).reverse.map (hexDigit letters)

/-- Zeros in front of a number fill it up to two characters. -/
def twoDigits (number : List UInt8) : List UInt8 := List.replicate (2 - number.length) 48 ++ number

/-- What a string argument is up to its NUL. -/
def untilNul (memory : List UInt8) : List UInt8 := memory.takeWhile (· ≠ 0)

/-- What a piece prints. -/
def Piece.text : Piece → List UInt8
  | .byte c => [c]
  | .str memory => untilNul memory
  | .int value => intText value
  | .int2 value => if value < 0 then intText value else twoDigits (intText value)
  | .upperHex2 value => twoDigits (hexText 65 (narrow 32 value))
  | .hex value => hexText 97 (narrow 32 value)

/-- How much a piece prints: a byte, as much as the string has, or as much as the number has. -/
def Piece.width : Piece → Nat
  | .byte _ => 1
  | .str memory => (untilNul memory).length
  | number => number.text.length

/-- What `sprintf` prints, none when it is undefined. -/
def sprintf (fmt : List UInt8) (args : List Arg) : Option (List UInt8) :=
  (pieces fmt args).map fun ps => ps.flatMap Piece.text

/-! ## Texts as formats -/

/-- A digit is neither NUL nor `%`. -/
theorem digit_plain {c : UInt8} (digit : isDigit c = true) : c ≠ 0 ∧ c ≠ 37 := by
  constructor
  · rintro rfl
    exact absurd digit (by decide)
  · rintro rfl
    exact absurd digit (by decide)

/-- `%d` prints neither NUL nor `%`. -/
theorem intText_plain {value : Int} {c : UInt8} (member : c ∈ intText value) :
    c ≠ 0 ∧ c ≠ 37 := by
  have number : c = 45 ∨ c ∈ decimal value.natAbs := by
    unfold intText at member
    split at member
    · exact List.mem_cons.mp member
    · exact .inr member
  obtain rfl | digit := number
  · decide
  · exact digit_plain (isDigit_of_mem_decimal digit)

/-- Digits in either case are neither NUL nor `%`. -/
theorem hexDigit_plain {letters digit : Nat} (ascii : letters = 65 ∨ letters = 97)
    (small : digit < 16) : hexDigit letters digit ≠ 0 ∧ hexDigit letters digit ≠ 37 := by
  obtain rfl | rfl := ascii
  · revert digit
    decide
  · revert digit
    decide

/-- A hexadecimal number has neither NUL nor `%`. -/
theorem hexText_plain {letters value : Nat} (ascii : letters = 65 ∨ letters = 97) {c : UInt8}
    (member : c ∈ hexText letters value) : c ≠ 0 ∧ c ≠ 37 := by
  unfold hexText at member
  split at member
  · rw [List.mem_singleton.mp member]
    decide
  · obtain ⟨digit, among, rfl⟩ := List.mem_map.mp member
    have small := Nat.digits_lt_base (by decide) (List.mem_reverse.mp among)
    exact hexDigit_plain ascii small

/-- Zeros in front are neither NUL nor `%`. -/
theorem twoDigits_plain {number : List UInt8} (plain : ∀ c ∈ number, c ≠ 0 ∧ c ≠ 37) :
    ∀ c ∈ twoDigits number, c ≠ 0 ∧ c ≠ 37 := by
  intro c member
  rcases List.mem_append.mp member with zero | digit
  · rw [List.eq_of_mem_replicate zero]
    decide
  · exact plain c digit

/-! ## Calls with a format of the source -/

/-- The strings that pieces print. -/
def strings (ps : List Piece) : List (List UInt8) :=
  ps.filterMap fun
    | .str memory => some (untilNul memory)
    | _ => none

/-- A byte of the format is neither NUL nor `%`. -/
def Piece.Literal : Piece → Bool
  | .byte c => c ≠ 0 ∧ c ≠ 37
  | _ => true

/-- A format takes its arguments, and does not print a `%` of its own. -/
def Takes (fmt : String) (args : List Arg) : Prop :=
  (pieces (ascii fmt) args).any (·.all Piece.Literal) = true

/-- The bytes of a literal are those of its characters. -/
theorem ascii_ofList (chars : List Char) :
    ascii (String.ofList chars) = chars.map fun c => UInt8.ofNat c.toNat := by
  rw [ascii, String.toList_ofList]

/-- The characters of a format are read one by one. -/
theorem Takes.of_chars {chars : List Char} {args : List Arg}
    (read : (pieces (chars.map fun c => UInt8.ofNat c.toNat) args).any (·.all Piece.Literal) =
      true) : Takes (String.ofList chars) args := by
  rw [Takes, ascii_ofList]
  exact read

/-- A call of `sprintf` whose format takes its arguments. -/
structure Print where
  /-- The format. -/
  fmt : String
  /-- The arguments. -/
  args : List Arg
  /-- The format takes them. -/
  takes : Takes fmt args

/-- A call whose format is a literal. -/
def print (fmt : String) (args : List Arg)
    (takes : Takes fmt args := by exact Takes.of_chars rfl) : Print := ⟨fmt, args, takes⟩

namespace Print

variable (call : Print)

/-- The pieces of a call. -/
def pieces : List Piece := (Printf.pieces (ascii call.fmt) call.args).getD []

/-- What a call prints. -/
def text : List UInt8 := call.pieces.flatMap Piece.text

/-- How much a call prints, from the lengths of its strings and numbers. -/
def width : Nat := (call.pieces.map Piece.width).sum

/-- A call prints as much as its pieces have. -/
theorem length_text : call.text.length = call.width := by
  have piece : Piece.width = fun piece => piece.text.length := by
    funext piece
    cases piece <;> rfl
  rw [text, List.length_flatMap, width, piece]

/-- The format of a call turns into its pieces, whose bytes are literal. -/
theorem pieces_eq_some :
    Printf.pieces (ascii call.fmt) call.args = some call.pieces ∧
      call.pieces.all Piece.Literal = true := by
  obtain ⟨ps, read, literal⟩ := (Option.any_eq_true _ _).mp call.takes
  rw [pieces, read]
  exact ⟨rfl, literal⟩

/-- A call prints its text. -/
theorem sprintf_eq_some : sprintf (ascii call.fmt) call.args = some call.text := by
  rw [sprintf, call.pieces_eq_some.1, Option.map_some, text]

end Print

/-- What a piece prints that is no string has neither NUL nor `%`. -/
theorem Piece.text_plain {piece : Piece} (literal : piece.Literal = true)
    (number : ∀ memory, piece ≠ .str memory) : ∀ c ∈ piece.text, c ≠ 0 ∧ c ≠ 37 := by
  intro c member
  cases piece with
  | byte d =>
    rw [List.mem_singleton.mp member]
    simpa [Literal] using literal
  | str memory => exact absurd rfl (number memory)
  | int value => exact intText_plain member
  | int2 value =>
    rw [text] at member
    split at member
    · exact intText_plain member
    · exact twoDigits_plain (fun _ => intText_plain) c member
  | upperHex2 value => exact twoDigits_plain (fun _ => hexText_plain (.inl rfl)) c member
  | hex value => exact hexText_plain (.inr rfl) member

/-- A string ends before its NUL. -/
theorem zero_not_mem_untilNul (memory : List UInt8) : 0 ∉ untilNul memory := by
  intro member
  simpa using List.mem_takeWhile_imp member

/-- The pieces print no NUL, and a `%` only with a string. -/
theorem flatMap_text_plain {ps : List Piece} (literal : ps.all Piece.Literal = true) :
    0 ∉ ps.flatMap Piece.text ∧
      (37 ∈ ps.flatMap Piece.text ↔ ∃ string ∈ strings ps, 37 ∈ string) := by
  induction ps with
  | nil => simp [strings]
  | cons piece ps ih =>
    have both : piece.Literal = true ∧ ps.all Piece.Literal = true := by
      simpa only [List.all_cons, Bool.and_eq_true] using literal
    have behind := ih both.2
    simp only [List.flatMap_cons, List.mem_append, not_or]
    by_cases string : ∃ memory, piece = .str memory
    · obtain ⟨memory, rfl⟩ := string
      refine ⟨⟨zero_not_mem_untilNul memory, behind.1⟩, ?_⟩
      rw [behind.2]
      simp [strings, Piece.text]
    · have number : ∀ memory, piece ≠ .str memory := fun memory same => string ⟨memory, same⟩
      have plain := Piece.text_plain both.1 number
      refine ⟨⟨fun zero => (plain 0 zero).1 rfl, behind.1⟩, ?_⟩
      have same : strings (piece :: ps) = strings ps := by
        cases piece with
        | str memory => exact absurd rfl (number memory)
        | _ => rfl
      rw [same, behind.2]
      constructor
      · exact fun either => either.resolve_left fun mark => (plain 37 mark).2 rfl
      · exact .inr

end BoaIpcam.Printf
