import Mathlib.Data.Nat.ModEq

/-!
# Ones-complement sums

A ones-complement sum adds the words of a base and brings every carry around to the low end. Its
value is a multiple of the base less one away from the plain sum, and it is zero only when all
words are. These two facts determine it, so any other way to bring the carries around that keeps
them has the same value.
-/
namespace OnesComplement

/-- Bring the carry of a value around. -/
def carry (base value : Nat) : Nat := value / base + value % base

/-- The ones-complement sum, with the carry brought around behind each word. -/
def sum (base : Nat) (words : List Nat) : Nat :=
  words.foldl (fun total word => carry base (total + word)) 0

/-- Two values stand for the same ones-complement number. -/
structure Same (base left right : Nat) : Prop where
  /-- They are the same modulo the base less one. -/
  modEq : left ≡ right [MOD base - 1]
  /-- They are zero together. -/
  zero : left = 0 ↔ right = 0

variable {base : Nat}

namespace Same

theorem refl (value : Nat) : Same base value value := ⟨Nat.ModEq.refl value, Iff.rfl⟩

theorem symm {left right : Nat} (same : Same base left right) : Same base right left :=
  ⟨same.modEq.symm, same.zero.symm⟩

theorem trans {first second third : Nat} (left : Same base first second)
    (right : Same base second third) : Same base first third :=
  ⟨left.modEq.trans right.modEq, left.zero.trans right.zero⟩

/-- The same number may be added on both sides. -/
theorem add_right {left right : Nat} (same : Same base left right) (value : Nat) :
    Same base (left + value) (right + value) := by
  have zero := same.zero
  exact ⟨same.modEq.add_right value, by omega⟩

/-- Two words of the base that stand for the same number are equal. -/
theorem eq {left right : Nat} (same : Same base left right) (leftLt : left < base)
    (rightLt : right < base) : left = right := by
  have zero := same.zero
  -- zero and the base less one are congruent, and only one of them is zero
  by_cases leftFull : left = base - 1
  · have congruent : right ≡ 0 [MOD base - 1] := by
      have same := same.modEq.symm
      rw [leftFull] at same
      exact same.trans (Nat.modEq_zero_iff_dvd.mpr (Nat.dvd_refl _))
    obtain ⟨count, multiple⟩ := Nat.modEq_zero_iff_dvd.mp congruent
    rcases Nat.eq_zero_or_pos count with none | some
    · rw [none, Nat.mul_zero] at multiple
      omega
    · have bound := Nat.le_mul_of_pos_right (base - 1) some
      omega
  · by_cases rightFull : right = base - 1
    · have congruent : left ≡ 0 [MOD base - 1] := by
        have same := same.modEq
        rw [rightFull] at same
        exact same.trans (Nat.modEq_zero_iff_dvd.mpr (Nat.dvd_refl _))
      obtain ⟨count, multiple⟩ := Nat.modEq_zero_iff_dvd.mp congruent
      rcases Nat.eq_zero_or_pos count with none | some
      · rw [none, Nat.mul_zero] at multiple
        omega
      · have bound := Nat.le_mul_of_pos_right (base - 1) some
        omega
    · exact same.modEq.eq_of_lt_of_lt (by omega) (by omega)

end Same

/-- Bringing a carry around keeps the number. -/
theorem carry_same (positive : 0 < base) (value : Nat) : Same base (carry base value) value := by
  have parts : base * (value / base) + value % base = value := Nat.div_add_mod value base
  constructor
  · have whole : (base - 1) * (value / base) + carry base value = value := by
      have less : (base - 1) * (value / base) = base * (value / base) - value / base :=
        Nat.sub_one_mul base (value / base)
      have enough := Nat.le_mul_of_pos_left (value / base) positive
      rw [carry]
      omega
    have multiple : (base - 1) * (value / base) ≡ 0 [MOD base - 1] :=
      Nat.modEq_zero_iff_dvd.mpr (Nat.dvd_mul_right _ _)
    have added := multiple.symm.add_right (carry base value)
    rw [whole, Nat.zero_add] at added
    exact added
  · constructor
    · intro none
      obtain ⟨quotient, rest⟩ := Nat.add_eq_zero_iff.mp none
      rw [quotient, rest, Nat.mul_zero] at parts
      exact parts.symm
    · intro none
      rw [none, carry, Nat.zero_div, Nat.zero_mod]

/-- A value below twice the base less one becomes a word. -/
theorem carry_lt {value : Nat} (short : value + 1 < 2 * base) : carry base value < base := by
  rw [carry]
  by_cases below : value < base
  · rw [Nat.div_eq_of_lt below, Nat.mod_eq_of_lt below]
    omega
  · have low : 1 * base ≤ value := by omega
    have high : value < (1 + 1) * base := by omega
    have once : value / base = 1 := Nat.div_eq_of_lt_le low high
    have parts := Nat.div_add_mod value base
    rw [once, Nat.mul_one] at parts
    omega

/-- A value below the square of the base becomes at most two words together. -/
theorem carry_carry_lt {value : Nat} (short : value < base * base) :
    carry base value + 1 < 2 * base := by
  have positive : 0 < base := by
    by_contra none
    have zero : base = 0 := by omega
    rw [zero] at short
    omega
  have quotient : value / base < base := (Nat.div_lt_iff_lt_mul positive).mpr short
  have rest : value % base < base := Nat.mod_lt value positive
  rw [carry]
  omega

/-- A ones-complement sum of words is a word. -/
theorem sum_lt (positive : 0 < base) {words : List Nat} (all : ∀ word ∈ words, word < base) :
    sum base words < base := by
  suffices from_start : ∀ start < base,
      words.foldl (fun total word => carry base (total + word)) start < base from
    from_start 0 positive
  induction words with
  | nil => exact fun start below => below
  | cons word words ih =>
    intro start below
    have wordLt := all word List.mem_cons_self
    exact ih (fun word there => all word (.tail _ there)) _ (carry_lt (by omega))

/-- A ones-complement sum stands for the plain sum. -/
theorem sum_same (positive : 0 < base) (words : List Nat) :
    Same base (sum base words) words.sum := by
  suffices from_start : ∀ start,
      Same base (words.foldl (fun total word => carry base (total + word)) start)
        (start + words.sum) by
    have zero := from_start 0
    rw [Nat.zero_add] at zero
    exact zero
  induction words with
  | nil => exact fun start => .refl start
  | cons word words ih =>
    intro start
    have first := (carry_same positive (start + word)).add_right words.sum
    have later := (ih (carry base (start + word))).trans first
    rw [Nat.add_assoc] at later
    exact later

/-- A word that stands for the plain sum is the ones-complement sum. -/
theorem eq_sum (positive : 0 < base) {words : List Nat} {value : Nat} (word : value < base)
    (all : ∀ word ∈ words, word < base) (same : Same base value words.sum) :
    value = sum base words :=
  (same.trans (sum_same positive words).symm).eq word (sum_lt positive all)

/-- All digits of a ones-complement sum are the highest exactly when the plain sum is a multiple of
the base less one other than zero. -/
theorem sum_full_iff (positive : 1 < base) {words : List Nat}
    (all : ∀ word ∈ words, word < base) :
    sum base words = base - 1 ↔ words.sum ≡ 0 [MOD base - 1] ∧ words.sum ≠ 0 := by
  have same := sum_same (Nat.lt_of_succ_lt positive) words
  constructor
  · intro full
    rw [full] at same
    refine ⟨same.modEq.symm.trans (Nat.modEq_zero_iff_dvd.mpr (Nat.dvd_refl _)), fun none => ?_⟩
    have zero := same.zero.mpr none
    omega
  · intro ⟨multiple, notZero⟩
    have full : Same base (base - 1) words.sum := by
      refine ⟨(Nat.modEq_zero_iff_dvd.mpr (Nat.dvd_refl _)).trans multiple.symm, ?_⟩
      omega
    exact (eq_sum (Nat.lt_of_succ_lt positive) (by omega) all full).symm

end OnesComplement
