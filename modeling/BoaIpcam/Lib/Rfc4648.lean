import Mathlib.Data.List.Basic

/-!
# The base64 encoding

RFC 4648 section 4: three bytes are four groups of six bits, each written as one symbol of
the alphabet `A`-`Z` `a`-`z` `0`-`9` `+` `/`; a final group of one or two bytes is filled
with zero bits and padded with `=`. `sextets` gives the groups of a byte string before they
become symbols, so that a statement about the symbols of an encoding can be read as one
about the bytes themselves.
-/
namespace Rfc4648

/-- The symbol of a six-bit group. -/
def symbol (group : Nat) : UInt8 :=
  if group < 26 then UInt8.ofNat (65 + group)
  else if group < 52 then UInt8.ofNat (71 + group)
  else if group < 62 then UInt8.ofNat (group - 4)
  else if group = 62 then 43
  else 47

/-- The padding symbol `=`. -/
def pad : UInt8 := 61

/-- The six-bit groups of a byte string, the last one filled with zero bits. -/
def sextets : List UInt8 → List Nat
  | [] => []
  | [a] => [a.toNat / 4, a.toNat % 4 * 16]
  | [a, b] => [a.toNat / 4, a.toNat % 4 * 16 + b.toNat / 16, b.toNat % 16 * 4]
  | a :: b :: c :: rest =>
    a.toNat / 4 :: (a.toNat % 4 * 16 + b.toNat / 16) :: (b.toNat % 16 * 4 + c.toNat / 64) ::
      c.toNat % 64 :: sextets rest

/-- The number of padding symbols after the groups of a byte string. -/
def padding (bytes : List UInt8) : Nat := (3 - bytes.length % 3) % 3

/-- The base64 text of a byte string. -/
def encode (bytes : List UInt8) : List UInt8 :=
  (sextets bytes).map symbol ++ List.replicate (padding bytes) pad

/-- Every group is below 64. -/
theorem sextets_lt (bytes : List UInt8) : ∀ group ∈ sextets bytes, group < 64 := by
  induction bytes using sextets.induct with
  | case1 => simp [sextets]
  | case2 a =>
    have ha := a.toNat_lt
    simp only [sextets, List.mem_cons, List.not_mem_nil, or_false, forall_eq_or_imp, forall_eq]
    omega
  | case3 a b =>
    have ha := a.toNat_lt
    have hb := b.toNat_lt
    simp only [sextets, List.mem_cons, List.not_mem_nil, or_false, forall_eq_or_imp, forall_eq]
    omega
  | case4 a b c rest ih =>
    have ha := a.toNat_lt
    have hb := b.toNat_lt
    have hc := c.toNat_lt
    simp only [sextets, List.mem_cons, forall_eq_or_imp]
    refine ⟨by omega, by omega, by omega, by omega, ih⟩

/-- The groups hold all the bits of the string and fewer than six more. -/
theorem sextets_length (bytes : List UInt8) :
    8 * bytes.length ≤ 6 * (sextets bytes).length ∧
      6 * (sextets bytes).length < 8 * bytes.length + 6 := by
  induction bytes using sextets.induct with
  | case1 => simp [sextets]
  | case2 a => simp [sextets]
  | case3 a b => simp [sextets]
  | case4 a b c rest ih =>
    simp only [sextets, List.length_cons]
    omega

end Rfc4648
