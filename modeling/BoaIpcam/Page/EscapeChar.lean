import BoaIpcam.CString
import BoaIpcam.Lib.Escaping

/-!
# Escaped characters

`add_escape_char` of `web_translate.c` puts a backslash in front of the quotes and backslashes of a
text. Its loop goes on when a character is not the NUL, and also when it has counted one character
less than the size. The count is of the characters that are read, and it is never compared with what
is written. `size_t` has 32 bits on the target.
-/
namespace BoaIpcam.EscapeChar

/-! ## The function -/

/-- The cases of the `switch`. -/
def isEscaped (c : UInt8) : Bool := c = 39 ∨ c = 34 ∨ c = 92

/-- What one pass of the loop writes. -/
def cloned (c : UInt8) : List UInt8 := if isEscaped c then [92, c] else [c]

/-- The loop, on the bytes from `src` up to the end of the text, with `cnt` and what was written
before. None when it reads behind the NUL. -/
def escapeLoop (size : UInt32) : List UInt8 → UInt32 → List UInt8 → Option (UInt32 × List UInt8)
  | [], _, _ => none
  | c :: src, cnt, dest =>
    if c ≠ 0 ∨ cnt + 1 = size - 1 then escapeLoop size src (cnt + 1) (dest ++ cloned c)
    else some (cnt + 1, dest ++ cloned c)

/-- What a call leads to: the error for a pointer that is not given, a read behind the NUL, or the
value that is returned and the bytes from `dest` on that are written. -/
inductive Outcome where
  | error
  | outside
  | written (cnt : UInt32) (dest : List UInt8)
deriving DecidableEq, Repr

/-- `add_escape_char`, on the bytes from `src` on with the NUL. -/
def addEscapeChar (src : Option (List UInt8)) (destGiven : Bool) (size : UInt32) : Outcome :=
  match src, destGiven with
  | some bytes, true =>
    match escapeLoop size bytes 0 [] with
    | none => .outside
    | some (cnt, dest) => .written cnt (dest ++ [0])
  | _, _ => .error

/-! ## What is asked -/

/-- The text of the bytes that are written, with the backslashes in front of escaped characters taken
away. -/
def readBack (dest : List UInt8) : List UInt8 :=
  Escaping.unescape isEscaped 92 (dest.takeWhile (· ≠ 0))

/-- No byte behind the NUL is read, no more bytes than the size are written, and what is written is
read back as the front of the text, and as the text when it fits with its backslashes and a NUL. -/
def Outcome.Right (text : List UInt8) (size : UInt32) : Outcome → Prop
  | .written _ dest =>
    dest.length ≤ size.toNat ∧ readBack dest <+: text ∧
      (text.length + text.countP isEscaped < size.toNat → readBack dest = text)
  | _ => False

/-! ## The loop -/

/-- Over a text the loop writes it escaped. It stops at the NUL unless the count is one less than the
size there. -/
theorem escapeLoop_eq (size : UInt32) {text : List UInt8} (clean : 0 ∉ text) (cnt : UInt32)
    (dest : List UInt8) :
    escapeLoop size (text ++ [0]) cnt dest =
      if cnt + UInt32.ofNat (text.length + 1) = size - 1 then none
      else some (cnt + UInt32.ofNat (text.length + 1),
        dest ++ Escaping.escape isEscaped 92 text ++ [0]) := by
  induction text generalizing cnt dest with
  | nil =>
    have one : UInt32.ofNat (([] : List UInt8).length + 1) = 1 := rfl
    have nothing : Escaping.escape isEscaped 92 [] = [] := rfl
    have last : cloned 0 = [0] := rfl
    rw [List.nil_append, escapeLoop, one, nothing, List.append_nil, last]
    by_cases again : cnt + 1 = size - 1
    · rw [if_pos (.inr again), if_pos again, escapeLoop]
    · rw [if_neg (not_or.mpr ⟨not_not.mpr rfl, again⟩), if_neg again]
  | cons c text ih =>
    rw [List.mem_cons, not_or] at clean
    have solid : c ≠ 0 := Ne.symm clean.1
    have counted : cnt + 1 + UInt32.ofNat (text.length + 1) =
        cnt + UInt32.ofNat ((c :: text).length + 1) := by
      rw [List.length_cons, UInt32.ofNat_add (text.length + 1) 1, UInt32.add_assoc,
        UInt32.add_comm 1]
      exact rfl
    have escaped : dest ++ cloned c ++ Escaping.escape isEscaped 92 text =
        dest ++ Escaping.escape isEscaped 92 (c :: text) := by
      rw [List.append_assoc]
      exact rfl
    rw [List.cons_append, escapeLoop, if_pos (.inl solid), ih clean.2, counted, escaped]

/-- A call writes the text escaped and two NULs, unless the size is two more than the length. -/
theorem addEscapeChar_eq (size : UInt32) {text : List UInt8} (clean : 0 ∉ text) :
    addEscapeChar (some (text ++ [0])) true size =
      if UInt32.ofNat (text.length + 1) = size - 1 then .outside
      else .written (UInt32.ofNat (text.length + 1))
        (Escaping.escape isEscaped 92 text ++ [0, 0]) := by
  have ran := escapeLoop_eq size clean 0 []
  rw [UInt32.zero_add] at ran
  rw [addEscapeChar]
  split_ifs at ran ⊢ with again
  · rw [ran]
  · rw [ran, List.nil_append]
    dsimp only
    rw [List.append_assoc, List.singleton_append]

/-- A text without a NUL has none when it is escaped. -/
theorem escape_clean {text : List UInt8} (clean : 0 ∉ text) :
    ∀ c ∈ Escaping.escape isEscaped 92 text, decide (c ≠ 0) = true := by
  intro c there
  obtain ⟨item, member, put⟩ := List.mem_flatMap.mp there
  have solid : item ≠ 0 := fun same => clean (same ▸ member)
  rw [Escaping.put] at put
  split_ifs at put
  · rcases List.mem_cons.mp put with same | same
    · rw [same]
      decide
    · rw [List.mem_singleton.mp same]
      exact decide_eq_true solid
  · rw [List.mem_singleton.mp put]
    exact decide_eq_true solid

/-- An escaped text is read back as the text. -/
theorem readBack_escape {text : List UInt8} (clean : 0 ∉ text) :
    readBack (Escaping.escape isEscaped 92 text ++ [0, 0]) = text := by
  rw [readBack, List.takeWhile_append_of_pos (escape_clean clean)]
  show Escaping.unescape isEscaped 92 (Escaping.escape isEscaped 92 text ++ []) = text
  rw [List.append_nil]
  exact Escaping.unescape_escape isEscaped 92 rfl text

/-- The count at the NUL is one less than the size when the size is two more than the length. -/
theorem counts_size {length : Nat} {size : UInt32} (fits : length + 2 ≤ size.toNat) :
    UInt32.ofNat (length + 1) = size - 1 ↔ size.toNat = length + 2 := by
  have below := size.toNat_lt
  have one : (1 : UInt32).toNat = 1 := rfl
  have less : (size - 1).toNat = size.toNat - 1 := by
    rw [UInt32.toNat_sub_of_le]
    · rw [one]
    · rw [UInt32.le_iff_toNat_le, one]
      omega
  have limit : length + 1 < UInt32.size := by
    show length + 1 < 4294967296
    omega
  rw [← UInt32.toNat_inj, less, UInt32.toNat_ofNat_of_lt' limit]
  omega

/-- For every text and every size, a call is right exactly when the size has room for the text with
its backslashes and two bytes more, and for one byte more still when nothing is escaped. -/
theorem add_escape_char_iff (size : UInt32) {text : List UInt8} (clean : 0 ∉ text) :
    (addEscapeChar (some (text ++ [0])) true size).Right text size ↔
      text.length + max 1 (text.countP isEscaped) + 2 ≤ size.toNat := by
  have length : (Escaping.escape isEscaped 92 text ++ [0, 0]).length =
      text.length + text.countP isEscaped + 2 := by
    rw [List.length_append, Escaping.length_escape]
    exact rfl
  have back := readBack_escape clean
  rw [addEscapeChar_eq size clean]
  split_ifs with again
  · refine iff_of_false id fun fits => ?_
    have same := (counts_size (by omega)).mp again
    omega
  · show _ ≤ _ ∧ _ ∧ _ ↔ _
    rw [length, back]
    constructor
    · rintro ⟨fits, _⟩
      have other := mt (counts_size (by omega)).mpr again
      omega
    · intro fits
      exact ⟨by omega, List.prefix_refl text, fun _ => rfl⟩

/-- A text with a quote has room in eight bytes. -/
theorem add_escape_char_quote :
    (addEscapeChar (some (ascii "it's" ++ [0])) true 8).Right (ascii "it's") 8 :=
  (add_escape_char_iff 8 (by decide)).mpr (by decide)

/-- Two characters are read on from behind the NUL for a size of four, and a size of one is written
over. -/
theorem add_escape_char_reads_on :
    ¬ (addEscapeChar (some (ascii "ab" ++ [0])) true 4).Right (ascii "ab") 4 ∧
      ¬ (addEscapeChar (some (ascii "ab" ++ [0])) true 1).Right (ascii "ab") 1 := by
  have reads : addEscapeChar (some (ascii "ab" ++ [0])) true 4 = .outside := by decide
  have writes : addEscapeChar (some (ascii "ab" ++ [0])) true 1 =
      .written 3 [97, 98, 0, 0] := by decide
  rw [reads, writes]
  exact ⟨id, fun right => absurd right.1 (by decide)⟩

end BoaIpcam.EscapeChar
