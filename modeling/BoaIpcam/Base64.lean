import BoaIpcam.CString
import BoaIpcam.Lib.Rfc4648
import Mathlib.Algebra.Group.Nat.Defs

/-!
# The base64 decoder of the server

`base64decode` of `auth.c` collects six bits a character in `bitval` and writes a byte as
soon as eight are there, as long as the destination has room. The bytes it would write to
an unbounded destination do not depend on the room; `stream` computes them from the
accumulator alone, and `base64decode_eq` is the connection. The decoder gives the value 63
to `-` and no value to `/`, so it undoes the RFC 4648 encoding of exactly the strings whose
encoding has no `/` (`base64decode_encode_iff`).
-/
namespace BoaIpcam

/-- `val` of one source character; `none` is the -1 of a character that is skipped. -/
def symbolValue (c : UInt8) : Option Nat :=
  if 65 ≤ c.toNat ∧ c.toNat ≤ 90 then some (c.toNat - 65)
  else if 97 ≤ c.toNat ∧ c.toNat ≤ 122 then some (c.toNat - 97 + 26)
  else if 48 ≤ c.toNat ∧ c.toNat ≤ 57 then some (c.toNat - 48 + 52)
  else if c = 43 then some 62
  else if c = 45 then some 63
  else if c = 61 then some 64
  else none

/-- The variables of the loop: `bitval`, `bits` and the bytes written, whose number is `y`. -/
structure Decoder where
  /-- The bits not yet written. -/
  bitval : Nat
  /-- Their number. -/
  bits : Nat
  /-- `dst[0..y)`. -/
  dst : List UInt8
deriving DecidableEq, Repr

namespace Decoder

/-- One round of `while (bits >= 8)`: the top byte is stored when there is room and leaves
the accumulator in either case. -/
def emit (maxlen : Nat) (st : Decoder) : Decoder :=
  let bits := st.bits - 8
  { bitval := st.bitval &&& ((1 <<< bits) - 1)
    bits
    dst := if st.dst.length < maxlen then
        st.dst ++ [UInt8.ofNat ((st.bitval >>> bits) &&& 0xFF)]
      else st.dst }

/-- The loop `while (bits >= 8)`; each round takes eight bits, so `bits` rounds are enough. -/
def drain (maxlen : Nat) : Nat → Decoder → Decoder
  | 0, st => st
  | rounds + 1, st => if 8 ≤ st.bits then drain maxlen rounds (st.emit maxlen) else st

/-- The body of the loop over the source characters. -/
def step (maxlen : Nat) (st : Decoder) (c : UInt8) : Decoder :=
  match symbolValue c with
  | none => st
  | some val =>
    let st := if val &&& 0xC0 ≠ 0 then { st with bitval := 0, bits := 0 }
      else { st with bitval := (st.bitval <<< 6) + (val &&& 0x3F), bits := st.bits + 6 }
    st.drain maxlen st.bits

end Decoder

/-- `base64decode(dst, src, maxlen)`: the bytes written at `dst`; the return value `y` is
their number. -/
def base64decode (src : List UInt8) (maxlen : Nat) : List UInt8 :=
  let st := src.foldl (Decoder.step maxlen) ⟨0, 0, []⟩
  if st.dst.length < maxlen then st.dst ++ [0] else st.dst

/-! ## The decoder without a destination -/

/-- The bits a decoder holds between two characters. -/
structure Accumulator where
  /-- Their value. -/
  value : Nat
  /-- Their number. -/
  bits : Nat
deriving DecidableEq, Repr

namespace Accumulator

/-- No bits. -/
def empty : Accumulator := ⟨0, 0⟩

/-- Fewer than eight bits are held, and the value fits them. -/
structure Legal (acc : Accumulator) : Prop where
  /-- A full byte has always been written. -/
  bits_lt : acc.bits < 8
  /-- The value has no bit above the counted ones. -/
  value_lt : acc.value < 2 ^ acc.bits

/-- One character: the accumulator after it and the byte completed by it, if any. -/
def feed (acc : Accumulator) (c : UInt8) : Accumulator × List UInt8 :=
  match symbolValue c with
  | none => (acc, [])
  | some val =>
    if 64 ≤ val then (empty, [])
    else
      let value := acc.value * 64 + val
      if 2 ≤ acc.bits then
        (⟨value % 2 ^ (acc.bits - 2), acc.bits - 2⟩, [UInt8.ofNat (value / 2 ^ (acc.bits - 2))])
      else (⟨value, acc.bits + 6⟩, [])

/-- The accumulator after a text and the bytes completed by it. -/
def stream (acc : Accumulator) : List UInt8 → Accumulator × List UInt8
  | [] => (acc, [])
  | c :: rest =>
    let (next, out) := acc.feed c
    let (last, more) := stream next rest
    (last, out ++ more)

/-- A text in two parts is decoded part by part, the second from what the first left over. -/
theorem stream_append (acc : Accumulator) (left right : List UInt8) :
    acc.stream (left ++ right) =
      (((acc.stream left).1.stream right).1,
        (acc.stream left).2 ++ ((acc.stream left).1.stream right).2) := by
  induction left generalizing acc with
  | nil => simp [stream]
  | cons c left ih => simp [stream, ih]

/-- The values of the alphabet and of the padding symbol are at most 64. -/
theorem symbolValue_le {c : UInt8} {val : Nat} (found : symbolValue c = some val) :
    val ≤ 64 := by
  unfold symbolValue at found
  repeat' split at found
  all_goals first | cases found; omega | cases found

/-- The accumulator stays legal. -/
theorem Legal.feed {acc : Accumulator} (legal : acc.Legal) (c : UInt8) :
    (acc.feed c).1.Legal := by
  unfold Accumulator.feed
  cases found : symbolValue c with
  | none => exact legal
  | some val =>
    dsimp only
    split
    · exact ⟨by decide, by decide⟩
    · rename_i small
      split
      · refine ⟨by have := legal.bits_lt; dsimp only; omega, ?_⟩
        exact Nat.mod_lt _ (Nat.two_pow_pos _)
      · refine ⟨by dsimp only; omega, ?_⟩
        have value_lt := legal.value_lt
        have few : acc.bits = 0 ∨ acc.bits = 1 := by omega
        rcases few with few | few <;> rw [few] at value_lt ⊢ <;> simp at value_lt ⊢ <;> omega

/-- The accumulator stays legal over a text. -/
theorem Legal.stream {acc : Accumulator} (legal : acc.Legal) (src : List UInt8) :
    (acc.stream src).1.Legal := by
  induction src generalizing acc with
  | nil => exact legal
  | cons c src ih => exact ih (legal.feed c)

/-- No bits are legal. -/
theorem legal_empty : empty.Legal := ⟨by decide, by decide⟩

end Accumulator

/-- The bytes of a text that an unbounded destination receives, without the terminator. -/
def decodedBytes (src : List UInt8) : List UInt8 := (Accumulator.empty.stream src).2

/-- Store bytes one by one while there is room. -/
def storeBytes (maxlen : Nat) (dst bytes : List UInt8) : List UInt8 :=
  dst ++ bytes.take (maxlen - dst.length)

/-- Storing twice is storing the two lists in order. -/
theorem storeBytes_append (maxlen : Nat) (dst left right : List UInt8) :
    storeBytes maxlen (storeBytes maxlen dst left) right = storeBytes maxlen dst (left ++ right) := by
  simp only [storeBytes, List.append_assoc, List.take_append, List.length_append, List.length_take]
  congr 3
  omega

/-- A round of the inner loop in arithmetic. -/
theorem Decoder.emit_eq (maxlen : Nat) (st : Decoder) :
    st.emit maxlen = ⟨st.bitval % 2 ^ (st.bits - 8), st.bits - 8,
      storeBytes maxlen st.dst [UInt8.ofNat (st.bitval / 2 ^ (st.bits - 8))]⟩ := by
  have low : st.bitval &&& ((1 <<< (st.bits - 8)) - 1) = st.bitval % 2 ^ (st.bits - 8) := by
    rw [Nat.one_shiftLeft, Nat.and_two_pow_sub_one_eq_mod]
  have byte : UInt8.ofNat ((st.bitval >>> (st.bits - 8)) &&& 0xFF) =
      UInt8.ofNat (st.bitval / 2 ^ (st.bits - 8)) := by
    rw [Nat.shiftRight_eq_div_pow, show (0xFF : Nat) = 2 ^ 8 - 1 from rfl,
      Nat.and_two_pow_sub_one_eq_mod]
    apply UInt8.toNat_inj.mp
    simp
  simp only [Decoder.emit, low, byte, storeBytes, Decoder.mk.injEq, true_and]
  split
  · rename_i room
    rw [List.take_of_length_le (by simp only [List.length_singleton]; omega)]
  · rename_i full
    rw [show maxlen - st.dst.length = 0 by omega]
    simp

/-- Below eight bits the inner loop does nothing. -/
theorem Decoder.drain_few (maxlen rounds : Nat) (st : Decoder) (few : st.bits < 8) :
    st.drain maxlen rounds = st := by
  cases rounds with
  | zero => rfl
  | succ rounds => exact if_neg (by omega)

/-- A value below 64 has neither of the two bits that mark padding. -/
theorem and_high_bits_eq_zero {val : Nat} (small : val < 64) : val &&& 0xC0 = 0 := by
  apply Nat.eq_of_testBit_eq
  intro bit
  rw [Nat.testBit_and, Nat.zero_testBit, show (0xC0 : Nat) = 3 <<< 6 from rfl,
    Nat.testBit_shiftLeft]
  by_cases high : 6 ≤ bit
  · have below : (2 : Nat) ^ 6 ≤ 2 ^ bit := Nat.pow_le_pow_right (by decide) high
    have clear : val.testBit bit = false :=
      Nat.testBit_lt_two_pow (Nat.lt_of_lt_of_le small below)
    simp [clear]
  · simp [high]

/-- The body of the loop feeds the accumulator and stores what it completes. -/
theorem Decoder.step_eq (maxlen : Nat) (acc : Accumulator) (legal : acc.Legal)
    (dst : List UInt8) (c : UInt8) :
    Decoder.step maxlen ⟨acc.value, acc.bits, dst⟩ c =
      ⟨(acc.feed c).1.value, (acc.feed c).1.bits, storeBytes maxlen dst (acc.feed c).2⟩ := by
  unfold Decoder.step Accumulator.feed
  cases found : symbolValue c with
  | none => simp [storeBytes]
  | some val =>
    have bound := Accumulator.symbolValue_le found
    by_cases padded : 64 ≤ val
    · obtain rfl : val = 64 := by omega
      simp [Decoder.drain, Accumulator.empty, storeBytes]
    · have high := and_high_bits_eq_zero (show val < 64 by omega)
      have low : val &&& 0x3F = val := by
        rw [show (0x3F : Nat) = 2 ^ 6 - 1 from rfl, Nat.and_two_pow_sub_one_eq_mod]
        exact Nat.mod_eq_of_lt (by omega)
      have shifted : acc.value <<< 6 = acc.value * 64 := Nat.shiftLeft_eq _ _
      have bits_lt := legal.bits_lt
      simp only [high, low, shifted, padded, ne_eq, not_true_eq_false, if_false]
      split
      · rename_i many
        rw [show acc.bits + 6 = (acc.bits + 5) + 1 by omega, Decoder.drain,
          if_pos (by dsimp only; omega), Decoder.emit_eq,
          Decoder.drain_few _ _ _ (by dsimp only; omega)]
        simp only [show acc.bits + 5 + 1 - 8 = acc.bits - 2 by omega]
      · rw [Decoder.drain_few _ _ _ (by simp; omega)]
        simp [storeBytes]

/-- The loop over the source keeps the accumulator of the stream and stores its bytes. -/
theorem decoder_foldl_eq (maxlen : Nat) (src : List UInt8) (acc : Accumulator)
    (legal : acc.Legal) (dst : List UInt8) :
    src.foldl (Decoder.step maxlen) ⟨acc.value, acc.bits, dst⟩ =
      ⟨(acc.stream src).1.value, (acc.stream src).1.bits,
        storeBytes maxlen dst (acc.stream src).2⟩ := by
  induction src generalizing acc dst with
  | nil => simp [Accumulator.stream, storeBytes]
  | cons c src ih =>
    rw [List.foldl_cons, Decoder.step_eq maxlen acc legal, ih _ (legal.feed c),
      storeBytes_append]
    rfl

/-- The decoder writes the bytes of the text and a terminator, or as much of the bytes as
the destination takes, and then no terminator. -/
theorem base64decode_eq (src : List UInt8) (maxlen : Nat) :
    base64decode src maxlen =
      if (decodedBytes src).length < maxlen then decodedBytes src ++ [0]
      else (decodedBytes src).take maxlen := by
  have fold := decoder_foldl_eq maxlen src Accumulator.empty Accumulator.legal_empty []
  unfold base64decode
  rw [show (⟨0, 0, []⟩ : Decoder) =
    ⟨Accumulator.empty.value, Accumulator.empty.bits, []⟩ from rfl, fold]
  change (if (storeBytes maxlen [] (decodedBytes src)).length < maxlen then
    storeBytes maxlen [] (decodedBytes src) ++ [0] else storeBytes maxlen [] (decodedBytes src)) = _
  simp only [storeBytes, List.nil_append, List.length_nil, Nat.sub_zero, List.length_take]
  by_cases room : (decodedBytes src).length < maxlen
  · rw [if_pos room, if_pos (by omega), List.take_of_length_le (by omega)]
  · rw [if_neg room, if_neg (by omega)]

/-! ## Decoding an encoding -/

/-- The decoder knows every symbol of the alphabet but the last. -/
theorem symbolValue_symbol {group : Nat} (small : group < 63) :
    symbolValue (Rfc4648.symbol group) = some group := by
  have every : ∀ group < 63, symbolValue (Rfc4648.symbol group) = some group := by decide
  exact every group small

/-- Only the last group is written `/`. -/
theorem symbol_eq_slash {group : Nat} (small : group < 64) :
    Rfc4648.symbol group = 47 ↔ group = 63 := by
  have every : ∀ group < 64, Rfc4648.symbol group = 47 ↔ group = 63 := by decide
  exact every group small

/-- Padding leaves nothing in the accumulator and completes no byte. -/
theorem stream_padding (acc : Accumulator) (count : Nat) :
    (acc.stream (List.replicate count Rfc4648.pad)).2 = [] := by
  induction count generalizing acc with
  | zero => rfl
  | succ count ih => exact ih Accumulator.empty

/-- A group known to the decoder adds its six bits. -/
theorem feed_symbol (acc : Accumulator) {group : Nat} (small : group < 63) :
    acc.feed (Rfc4648.symbol group) =
      if 2 ≤ acc.bits then
        (⟨(acc.value * 64 + group) % 2 ^ (acc.bits - 2), acc.bits - 2⟩,
          [UInt8.ofNat ((acc.value * 64 + group) / 2 ^ (acc.bits - 2))])
      else (⟨acc.value * 64 + group, acc.bits + 6⟩, []) := by
  simp [Accumulator.feed, symbolValue_symbol small, show ¬ 64 ≤ group by omega]

/-- The first group of a quantum completes no byte. -/
theorem feed_first {group : Nat} (small : group < 63) :
    Accumulator.empty.feed (Rfc4648.symbol group) = (⟨group, 6⟩, []) := by
  simp [feed_symbol, small, Accumulator.empty]

/-- The second group completes the first byte. -/
theorem feed_second (value : Nat) {group : Nat} (small : group < 63) :
    (⟨value, 6⟩ : Accumulator).feed (Rfc4648.symbol group) =
      (⟨(value * 64 + group) % 16, 4⟩, [UInt8.ofNat ((value * 64 + group) / 16)]) := by
  simp [feed_symbol, small]

/-- The third group completes the second byte. -/
theorem feed_third (value : Nat) {group : Nat} (small : group < 63) :
    (⟨value, 4⟩ : Accumulator).feed (Rfc4648.symbol group) =
      (⟨(value * 64 + group) % 4, 2⟩, [UInt8.ofNat ((value * 64 + group) / 4)]) := by
  simp [feed_symbol, small]

/-- The fourth group completes the third byte and empties the accumulator. -/
theorem feed_fourth (value : Nat) {group : Nat} (small : group < 63) :
    (⟨value, 2⟩ : Accumulator).feed (Rfc4648.symbol group) =
      (Accumulator.empty, [UInt8.ofNat (value * 64 + group)]) := by
  simp [feed_symbol, small, Accumulator.empty, Nat.mod_one]

/-- A byte is the byte of its number. -/
theorem ofNat_eq_byte {number : Nat} (byte : UInt8) (same : number = byte.toNat) :
    UInt8.ofNat number = byte := by
  rw [same, UInt8.ofNat_toNat]

/-- The groups of a byte string decode to the string, when none of them is the last one. -/
theorem stream_sextets (bytes : List UInt8) (known : ∀ group ∈ Rfc4648.sextets bytes, group < 63) :
    (Accumulator.empty.stream ((Rfc4648.sextets bytes).map Rfc4648.symbol)).2 = bytes := by
  induction bytes using Rfc4648.sextets.induct with
  | case1 => rfl
  | case2 a =>
    have ha := a.toNat_lt
    simp only [Rfc4648.sextets, List.mem_cons, List.not_mem_nil, or_false, forall_eq_or_imp,
      forall_eq] at known
    obtain ⟨first, second⟩ := known
    simp only [Rfc4648.sextets, List.map_cons, List.map_nil, Accumulator.stream, feed_first first,
      feed_second _ second, List.nil_append, List.append_nil]
    rw [ofNat_eq_byte a (by omega)]
  | case3 a b =>
    have ha := a.toNat_lt
    have hb := b.toNat_lt
    simp only [Rfc4648.sextets, List.mem_cons, List.not_mem_nil, or_false, forall_eq_or_imp,
      forall_eq] at known
    obtain ⟨first, second, third⟩ := known
    simp only [Rfc4648.sextets, List.map_cons, List.map_nil, Accumulator.stream, feed_first first,
      feed_second _ second, feed_third _ third, List.nil_append, List.append_nil,
      List.singleton_append]
    rw [ofNat_eq_byte a (by omega), ofNat_eq_byte b (by omega)]
  | case4 a b c rest ih =>
    have ha := a.toNat_lt
    have hb := b.toNat_lt
    have hc := c.toNat_lt
    simp only [Rfc4648.sextets, List.mem_cons, forall_eq_or_imp] at known
    obtain ⟨first, second, third, fourth, others⟩ := known
    simp only [Rfc4648.sextets, List.map_cons, Accumulator.stream, feed_first first,
      feed_second _ second, feed_third _ third, feed_fourth _ fourth, List.nil_append,
      List.singleton_append, ih others]
    rw [ofNat_eq_byte a (by omega), ofNat_eq_byte b (by omega),
      ofNat_eq_byte c (by omega)]

/-- The characters that add bits to the accumulator. -/
def carriesBits (c : UInt8) : Bool := (symbolValue c).any (· < 64)

/-- A text completes no more bytes than the bits of its characters fill. -/
theorem stream_length_le (acc : Accumulator) (src : List UInt8) :
    8 * (acc.stream src).2.length + (acc.stream src).1.bits ≤
      acc.bits + 6 * src.countP carriesBits := by
  induction src generalizing acc with
  | nil => simp [Accumulator.stream]
  | cons c src ih =>
    have rest := ih (acc.feed c).1
    simp only [Accumulator.stream, List.length_append, List.countP_cons]
    have one : 8 * (acc.feed c).2.length + (acc.feed c).1.bits ≤
        acc.bits + 6 * (if carriesBits c = true then 1 else 0) := by
      unfold Accumulator.feed carriesBits
      cases symbolValue c with
      | none => simp
      | some val =>
        by_cases padded : 64 ≤ val
        · simp [padded, Accumulator.empty]
        · simp only [padded, if_false, Option.any_some, show val < 64 by omega, decide_true,
            if_true]
          split
          · simp only [List.length_singleton]
            omega
          · simp only [List.length_nil]
            omega
    omega

/-- The data characters of an encoding that the decoder knows: all but the slashes. -/
theorem countP_encode (bytes : List UInt8) :
    (Rfc4648.encode bytes).countP carriesBits + (Rfc4648.encode bytes).count 47 =
      (Rfc4648.sextets bytes).length := by
  have groups : ∀ list : List Nat, (∀ group ∈ list, group < 64) →
      (list.map Rfc4648.symbol).countP carriesBits + (list.map Rfc4648.symbol).count 47 =
        list.length := by
    intro list
    induction list with
    | nil => simp
    | cons group list ih =>
      intro small
      have tail := ih (fun other member => small other (List.mem_cons_of_mem _ member))
      have head := small group List.mem_cons_self
      have one : (if carriesBits (Rfc4648.symbol group) = true then 1 else 0) +
          (if (Rfc4648.symbol group == 47) = true then 1 else 0) = 1 := by
        have every : ∀ group < 64, (if carriesBits (Rfc4648.symbol group) = true then 1 else 0) +
          (if (Rfc4648.symbol group == 47) = true then 1 else 0) = 1 := by decide
        exact every group head
      simp only [List.map_cons, List.countP_cons, List.count_cons, List.length_cons]
      omega
  have data := groups _ (Rfc4648.sextets_lt bytes)
  have padded : ∀ count, (List.replicate count Rfc4648.pad).countP carriesBits = 0 ∧
      (List.replicate count Rfc4648.pad).count 47 = 0 := by
    intro count
    refine ⟨List.countP_eq_zero.mpr ?_, List.count_eq_zero.mpr ?_⟩
    · intro c member
      rw [List.eq_of_mem_replicate member]
      decide
    · intro member
      exact absurd (List.eq_of_mem_replicate member) (by decide)
  simp only [Rfc4648.encode, List.countP_append, List.count_append, (padded _).1, (padded _).2]
  omega

/-- The decoded text of an encoding without `/` is the string. -/
theorem decodedBytes_encode {bytes : List UInt8} (plain : 47 ∉ Rfc4648.encode bytes) :
    decodedBytes (Rfc4648.encode bytes) = bytes := by
  have known : ∀ group ∈ Rfc4648.sextets bytes, group < 63 := by
    intro group member
    have small := Rfc4648.sextets_lt bytes group member
    by_contra last
    apply plain
    have slash := (symbol_eq_slash small).mpr (by omega)
    rw [Rfc4648.encode, List.mem_append]
    exact .inl (slash ▸ List.mem_map_of_mem member)
  rw [decodedBytes, Rfc4648.encode, Accumulator.stream_append]
  simp only [stream_sextets bytes known, stream_padding, List.append_nil]

/-- The decoded text of an encoding with a `/` is too short. -/
theorem decodedBytes_encode_short {bytes : List UInt8} (slash : 47 ∈ Rfc4648.encode bytes) :
    (decodedBytes (Rfc4648.encode bytes)).length < bytes.length := by
  have filled := stream_length_le Accumulator.empty (Rfc4648.encode bytes)
  have counted := countP_encode bytes
  have some_slash := List.count_pos_iff.mpr slash
  have groups := (Rfc4648.sextets_length bytes).2
  simp only [Accumulator.empty] at filled
  simp only [decodedBytes, Accumulator.empty]
  omega

/-- **`base64decode` undoes the RFC 4648 encoding of exactly the strings whose encoding has no
`/`.** For every destination larger than the string it then writes the string and one NUL and
returns the length plus one. -/
theorem base64decode_encode_iff (bytes : List UInt8) (maxlen : Nat)
    (room : bytes.length < maxlen) :
    (base64decode (Rfc4648.encode bytes) maxlen = bytes ++ [0] ∧
      (base64decode (Rfc4648.encode bytes) maxlen).length = bytes.length + 1) ↔
      47 ∉ Rfc4648.encode bytes := by
  constructor
  · rintro ⟨written, -⟩ slash
    have short := decodedBytes_encode_short slash
    rw [base64decode_eq, if_pos (by omega)] at written
    have lengths := congrArg List.length written
    simp only [List.length_append, List.length_singleton] at lengths
    omega
  · intro plain
    have written : base64decode (Rfc4648.encode bytes) maxlen = bytes ++ [0] := by
      rw [base64decode_eq, decodedBytes_encode plain, if_pos room]
    refine ⟨written, ?_⟩
    rw [written]
    simp

/-- The condition is met and the string comes back: `admin:1234`. -/
theorem base64decode_encode_admin :
    base64decode (Rfc4648.encode (ascii "admin:1234")) 256 = ascii "admin:1234" ++ [0] ∧
      (base64decode (Rfc4648.encode (ascii "admin:1234")) 256).length = 11 :=
  (base64decode_encode_iff (ascii "admin:1234") 256 (by decide)).mpr (by decide)

/-- The credentials `a:?` are sent as `YTo/`; the `/` is skipped and the last byte is lost. -/
theorem base64decode_slash_lost :
    Rfc4648.encode (ascii "a:?") = ascii "YTo/" ∧
      ¬ (base64decode (Rfc4648.encode (ascii "a:?")) 256 = ascii "a:?" ++ [0] ∧
        (base64decode (Rfc4648.encode (ascii "a:?")) 256).length = (ascii "a:?").length + 1) := by
  decide

end BoaIpcam
