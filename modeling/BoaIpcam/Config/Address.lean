import BoaIpcam.Config.IpFilter
import BoaIpcam.Numeral

/-!
# Addresses in the values of the commands

`ipv4_str_to_num` of `appro_api.c` reads an address with dots through `inet_aton` and any other
text through `netsplit`, which takes it for twelve digits: it reads the number at the offsets
9, 6, 3 and 0, stores each one that is at most 255, and cuts the text before it reads the next.
-/
namespace BoaIpcam.Address

open IpFilter (InAddr inetAton)

/-! ## What `atoi` looks at -/

/-- The text behind a sign. -/
def behindSign : List UInt8 → List UInt8
  | 45 :: rest => rest
  | 43 :: rest => rest
  | rest => rest

/-- The bytes that `atoi` reads: white space, a sign, the digits and the byte that ends them. -/
def atoiReads (text : List UInt8) : Nat :=
  text.length - ((behindSign (text.dropWhile isSpace)).dropWhile isDigit).length + 1

/-- A byte that is not dropped ends the part that is. -/
theorem dropWhile_ended {p : UInt8 → Bool} {stop : UInt8} (stops : p stop = false)
    (text behind : List UInt8) :
    (text ++ stop :: behind).dropWhile p = text.dropWhile p ++ stop :: behind := by
  rw [List.dropWhile_append]
  cases rest : text.dropWhile p with
  | nil => simp [stops]
  | cons c tail => simp

/-- The end of a text is no sign. -/
theorem behindSign_ended (text behind : List UInt8) :
    behindSign (text ++ 0 :: behind) = behindSign text ++ 0 :: behind := by
  cases text with
  | nil => rfl
  | cons c rest =>
    by_cases minus : c = 45
    · rw [minus]
      rfl
    by_cases plus : c = 43
    · rw [plus]
      rfl
    simp [behindSign, minus, plus]

/-- The end of a text ends its digits. -/
theorem digits_ended (text behind : List UInt8) (value : Nat) :
    digits value (text ++ 0 :: behind) = digits value text := by
  induction text generalizing value with
  | nil => simp [digits]
  | cons c rest ih => simp only [List.cons_append, digits, ih]

/-- What is behind the end of a text does not count. -/
theorem atoi_ended (text behind : List UInt8) : atoi (text ++ 0 :: behind) = atoi text := by
  unfold atoi
  rw [dropWhile_ended (by decide)]
  cases text.dropWhile isSpace with
  | nil => rfl
  | cons c rest =>
    by_cases minus : c = 45
    · simp only [minus, List.cons_append, digits_ended]
    by_cases plus : c = 43
    · simp only [plus, List.cons_append, digits_ended]
    have whole := digits_ended (c :: rest) behind 0
    rw [List.cons_append] at whole
    simp [minus, plus, whole]

/-- The reading stops at the end of the text. -/
theorem atoiReads_ended (text behind : List UInt8) :
    atoiReads (text ++ 0 :: behind) ≤ text.length + 1 := by
  unfold atoiReads
  rw [dropWhile_ended (by decide), behindSign_ended, dropWhile_ended (by decide)]
  simp only [List.length_append, List.length_cons]
  omega

/-- Digits are their number. -/
theorem atoi_of_numeric {text : List UInt8} (numeric : numericCheck text = true)
    (small : digits 0 text ≤ 2147483647) : atoi text = digits 0 text := by
  rw [atoi_eq, leadingInt_of_numeric numeric, clampInt]
  omega

/-! ## The handlers -/

/-- What the conversion does: its result, the bytes of the address that it stores in their order,
and the offsets of the text that it reads. -/
structure Outcome where
  /-- Whether a format is recognised. -/
  ret : Bool
  /-- The bytes that are stored, with their index. -/
  stored : List (Nat × UInt8)
  /-- The offsets that are read. -/
  reads : List Nat
deriving DecidableEq, Repr

/-- The number at the offset of a group, an unsigned word. -/
def groupWord (memory : List UInt8) (group : Nat) : Nat := narrow 32 (atoi (memory.drop (3 * group)))

/-- The offsets that are read for a group. -/
def groupReads (memory : List UInt8) (group : Nat) : List Nat :=
  List.range' (3 * group) (atoiReads (memory.drop (3 * group)))

/-- The groups of `netsplit` from one down to the first. -/
def netsplitFrom : Nat → List UInt8 → Outcome
  | 0, memory =>
    if 255 < groupWord memory 0 then ⟨false, [], groupReads memory 0⟩
    else ⟨true, [(0, UInt8.ofNat (groupWord memory 0))], groupReads memory 0⟩
  | group + 1, memory =>
    if 255 < groupWord memory (group + 1) then ⟨false, [], groupReads memory (group + 1)⟩
    else
      let next := netsplitFrom group (memory.set (3 * (group + 1)) 0)
      ⟨next.ret, (group + 1, UInt8.ofNat (groupWord memory (group + 1))) :: next.stored,
        groupReads memory (group + 1) ++ next.reads⟩

/-- `netsplit`. -/
def netsplit (memory : List UInt8) : Outcome := netsplitFrom 3 memory

/-- The bytes of an address that `inet_aton` stores. -/
def InAddr.stored (addr : InAddr) : List (Nat × UInt8) :=
  [(0, addr.a), (1, addr.b), (2, addr.c), (3, addr.d)]

/-- `ipv4_str_to_num` on a text and the bytes behind its end. `strchr` and `inet_aton` read the
text up to its end; the latter stores an address only when it accepts the text. -/
def ipv4StrToNum (aton : List UInt8 → Option InAddr) (data behind : List UInt8) : Outcome :=
  if 46 ∈ data then
    match aton data with
    | some addr => ⟨true, InAddr.stored addr, List.range (data.length + 1)⟩
    | none => ⟨false, [], List.range (data.length + 1)⟩
  else netsplit (data ++ 0 :: behind)

/-! ## The two formats -/

/-- The value of a group of three digits. -/
def groupValue (data : List UInt8) (group : Nat) : Nat := digits 0 ((data.drop (3 * group)).take 3)

/-- Exactly twelve digits with four groups of at most 255. -/
def TwelveDigits (data : List UInt8) : Prop :=
  data.length = 12 ∧ numericCheck data = true ∧ ∀ group < 4, groupValue data group ≤ 255

instance (data : List UInt8) : Decidable (TwelveDigits data) :=
  inferInstanceAs (Decidable (_ ∧ _ ∧ _))

/-- A text with dots and its address. -/
def Dotted (aton : List UInt8 → Option InAddr) (data : List UInt8) (addr : InAddr) : Prop :=
  46 ∈ data ∧ aton data = some addr

/-- The conversion accepts the two formats and stores their bytes; on other texts it stores
nothing and reads nothing behind the end. -/
structure Converts (aton : List UInt8 → Option InAddr) (data behind : List UInt8) : Prop where
  /-- A dotted address is stored as it is. -/
  dotted : ∀ addr, Dotted aton data addr →
    (ipv4StrToNum aton data behind).ret = true ∧
    (ipv4StrToNum aton data behind).stored = InAddr.stored addr
  /-- Four groups of three digits are stored by their values. -/
  groups : TwelveDigits data →
    (ipv4StrToNum aton data behind).ret = true ∧
    (ipv4StrToNum aton data behind).stored =
      [3, 2, 1, 0].map fun group => (group, UInt8.ofNat (groupValue data group))
  /-- Other texts are refused. -/
  other : (¬∃ addr, Dotted aton data addr) → ¬TwelveDigits data →
    (ipv4StrToNum aton data behind).ret = false ∧
    (ipv4StrToNum aton data behind).stored = [] ∧
    ∀ offset ∈ (ipv4StrToNum aton data behind).reads, offset ≤ data.length

/-! ## When the texts are converted -/

section Netsplit

variable {data behind : List UInt8} {group : Nat}

/-- The number that is read for the last group before the end. -/
theorem groupWord_ended (within : 3 * group ≤ data.length) :
    groupWord (data ++ 0 :: behind) group = narrow 32 (atoi (data.drop (3 * group))) := by
  rw [groupWord, List.drop_append_of_le_length within, atoi_ended]

/-- The number that is read for a last group of three digits is its value. -/
theorem groupWord_digits (length : data.length = 3 * (group + 1))
    (numeric : numericCheck data = true) (small : groupValue data group ≤ 255) :
    groupWord (data ++ 0 :: behind) group = groupValue data group := by
  have three : (data.drop (3 * group)).take 3 = data.drop (3 * group) := by
    apply List.take_of_length_le
    rw [List.length_drop]
    omega
  have digitsOnly : numericCheck (data.drop (3 * group)) = true :=
    List.all_eq_true.mpr fun c member => List.all_eq_true.mp numeric c (List.mem_of_mem_drop member)
  unfold groupValue at small ⊢
  rw [three] at small ⊢
  rw [groupWord_ended (by omega), atoi_of_numeric digitsOnly (by omega)]
  have fits : ((digits 0 (data.drop (3 * group)) : Nat) : Int) < 2 ^ 32 := by omega
  exact_mod_cast narrow_of_fits (Int.natCast_nonneg _) fits

/-- The cut before the last group leaves the groups before it, with an end behind them. -/
theorem cut_group (within : 3 * group < data.length) :
    (data ++ 0 :: behind).set (3 * group) 0 =
      data.take (3 * group) ++ 0 :: (data.drop (3 * group + 1) ++ 0 :: behind) := by
  have inside : 3 * group < (data ++ 0 :: behind).length := by
    rw [List.length_append]
    omega
  rw [List.set_eq_take_append_cons_drop, if_pos inside,
    List.take_append_of_le_length (by omega), List.drop_append_of_le_length (by omega)]

/-- The groups before the cut keep their values. -/
theorem groupValue_take {i : Nat} (before : i < group) :
    groupValue (data.take (3 * group)) i = groupValue data i := by
  unfold groupValue
  rw [List.drop_take, List.take_take, Nat.min_eq_left (by omega)]

/-- Groups of three digits of at most 255 are all stored, the last one first. -/
theorem netsplitFrom_digits (length : data.length = 3 * (group + 1))
    (numeric : numericCheck data = true) (small : ∀ i ≤ group, groupValue data i ≤ 255) :
    (netsplitFrom group (data ++ 0 :: behind)).ret = true ∧
    (netsplitFrom group (data ++ 0 :: behind)).stored =
      (List.range (group + 1)).reverse.map fun i => (i, UInt8.ofNat (groupValue data i)) := by
  induction group generalizing data behind with
  | zero =>
    have word : groupWord (data ++ 0 :: behind) 0 = groupValue data 0 :=
      groupWord_digits length numeric (small 0 le_rfl)
    have accepted : ¬255 < groupValue data 0 := Nat.not_lt.mpr (small 0 le_rfl)
    simp [netsplitFrom, word, accepted]
  | succ group ih =>
    have word : groupWord (data ++ 0 :: behind) (group + 1) = groupValue data (group + 1) :=
      groupWord_digits length numeric (small _ le_rfl)
    have accepted : ¬255 < groupValue data (group + 1) := Nat.not_lt.mpr (small _ le_rfl)
    have front : (data.take (3 * (group + 1))).length = 3 * (group + 1) := by
      rw [List.length_take]
      omega
    have frontNumeric : numericCheck (data.take (3 * (group + 1))) = true :=
      List.all_eq_true.mpr fun c member =>
        List.all_eq_true.mp numeric c (List.mem_of_mem_take member)
    have frontSmall : ∀ i ≤ group, groupValue (data.take (3 * (group + 1))) i ≤ 255 := by
      intro i before
      rw [groupValue_take (Nat.lt_succ_of_le before)]
      exact small i (Nat.le_succ_of_le before)
    rw [netsplitFrom, word, if_neg accepted, cut_group (by omega)]
    obtain ⟨ret, stored⟩ := @ih _ (data.drop (3 * (group + 1) + 1) ++ 0 :: behind)
      front frontNumeric frontSmall
    refine ⟨ret, ?_⟩
    simp only [stored]
    rw [List.range_succ (n := group + 1), List.reverse_append, List.reverse_singleton,
      List.singleton_append, List.map_cons]
    congr 1
    apply List.map_congr_left
    intro i member
    have below := List.mem_range.mp (List.mem_reverse.mp member)
    rw [groupValue_take below]

/-- The first byte of a group is read, whatever the number. -/
theorem mem_netsplitFrom_reads (memory : List UInt8) (group : Nat) :
    3 * group ∈ (netsplitFrom group memory).reads := by
  have first : 3 * group ∈ groupReads memory group := by
    unfold groupReads atoiReads
    rw [List.mem_range'_1]
    omega
  cases group <;> unfold netsplitFrom <;> split
  · exact first
  · exact first
  · exact first
  · exact List.mem_append_left _ first

/-- An accepted number of the last group is stored before the others are read. -/
theorem netsplitFrom_stored {memory : List UInt8} (accepted : ¬255 < groupWord memory group) :
    (netsplitFrom group memory).stored ≠ [] := by
  cases group <;> unfold netsplitFrom <;> rw [if_neg accepted] <;> exact List.cons_ne_nil _ _

/-- A number above 255 ends the conversion. -/
theorem netsplitFrom_refused {memory : List UInt8} (refused : 255 < groupWord memory group) :
    netsplitFrom group memory = ⟨false, [], groupReads memory group⟩ := by
  cases group <;> unfold netsplitFrom <;> rw [if_pos refused]

/-- The reading of a group that starts before the end stops there. -/
theorem groupReads_ended (within : 3 * group ≤ data.length) :
    ∀ offset ∈ groupReads (data ++ 0 :: behind) group, offset ≤ data.length := by
  intro offset member
  unfold groupReads at member
  rw [List.mem_range'_1, List.drop_append_of_le_length within] at member
  have stop := atoiReads_ended (data.drop (3 * group)) behind
  rw [List.length_drop] at stop
  omega

end Netsplit

/-- A dot is no digit. -/
theorem TwelveDigits.no_dot {data : List UInt8} (twelve : TwelveDigits data) : 46 ∉ data := by
  intro dot
  have digit := List.all_eq_true.mp twelve.2.1 46 dot
  exact absurd digit (by decide)

/-- A text with a dot is converted by `inet_aton` alone. -/
theorem converts_of_dot {aton : List UInt8 → Option InAddr} {data behind : List UInt8}
    (dot : 46 ∈ data) : Converts aton data behind := by
  constructor
  · intro addr dotted
    simp [ipv4StrToNum, dot, dotted.2]
  · exact fun twelve => absurd dot twelve.no_dot
  · intro none _
    cases read : aton data with
    | some addr => exact absurd ⟨addr, dot, read⟩ none
    | none =>
      have result : ipv4StrToNum aton data behind = ⟨false, [], List.range (data.length + 1)⟩ := by
        simp only [ipv4StrToNum, dot, read, if_true]
      rw [result]
      refine ⟨rfl, rfl, fun offset inside => ?_⟩
      exact Nat.le_of_lt_succ (List.mem_range.mp inside)

/-- The conversion does what its two formats ask exactly when the text has a dot, or it has nine
bytes at least and the number at the offset 9 is above 255 as an unsigned word, or it is twelve
digits with groups of at most 255. -/
theorem ipv4StrToNum_converts (aton : List UInt8 → Option InAddr) (data behind : List UInt8) :
    Converts aton data behind ↔
      46 ∈ data ∨ 9 ≤ data.length ∧
        (255 < narrow 32 (atoi (data.drop 9)) ∨ TwelveDigits data) := by
  by_cases dot : 46 ∈ data
  · simp [dot, converts_of_dot dot]
  have undotted : ¬∃ addr, Dotted aton data addr := fun ⟨_, dotted⟩ => dot dotted.1
  have split : ipv4StrToNum aton data behind = netsplitFrom 3 (data ++ 0 :: behind) := by
    rw [ipv4StrToNum, if_neg dot, netsplit]
  constructor
  · intro converts
    apply Or.inr
    by_cases twelve : TwelveDigits data
    · exact ⟨by rw [twelve.1]; omega, .inr twelve⟩
    obtain ⟨-, untouched, reads⟩ := converts.other undotted twelve
    rw [split] at untouched reads
    have long : 9 ≤ data.length := reads 9 (mem_netsplitFrom_reads _ 3)
    have word : groupWord (data ++ 0 :: behind) 3 = narrow 32 (atoi (data.drop 9)) :=
      groupWord_ended long
    refine ⟨long, .inl ?_⟩
    by_contra accepted
    rw [← word] at accepted
    exact netsplitFrom_stored accepted untouched
  · intro condition
    obtain ⟨long, formatted⟩ := condition.resolve_left dot
    constructor
    · exact fun addr dotted => absurd dotted.1 dot
    · intro twelve
      rw [split]
      exact netsplitFrom_digits twelve.1 twelve.2.1 fun i below =>
        twelve.2.2 i (Nat.lt_succ_of_le below)
    · intro _ other
      have refused := formatted.resolve_right other
      have word : groupWord (data ++ 0 :: behind) 3 = narrow 32 (atoi (data.drop 9)) :=
        groupWord_ended long
      rw [← word] at refused
      rw [split, netsplitFrom_refused refused]
      exact ⟨rfl, rfl, groupReads_ended long⟩

/-- Letters in the last group are taken for zero: the text is accepted. -/
theorem ipv4StrToNum_letters : ¬Converts inetAton (ascii "192168000abc") [] := by
  intro converts
  have undotted : ¬∃ addr, Dotted inetAton (ascii "192168000abc") addr := by
    rintro ⟨addr, dot, -⟩
    exact absurd dot (by decide)
  obtain ⟨refused, -, -⟩ := converts.other undotted (by decide)
  exact absurd refused (by decide)

end BoaIpcam.Address
