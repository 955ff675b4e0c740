import BoaIpcam.Config.IpFilter
import BoaIpcam.Lib.Accesses
import BoaIpcam.Numeral

/-!
# What the IP filter commands access

The handlers copy the parts of the value to arrays of 8 and 16 bytes and index the tables with
the number of a slot. An add copies at most one byte less than each array has. A delete copies the
rule string with its own length and tests the number of the slot, an unsigned word, after one is
added to it.
-/
namespace BoaIpcam.IpFilter

open Accesses

/-- The arrays of the handlers, the two tables, and the slots that the service is told. -/
inductive Region where
  | ipRule
  | ipStart
  | ipEnd
  | table (policy : Policy)
  | request (policy : Policy)
deriving DecidableEq, Repr

/-- The sizes of the arrays. -/
def Region.size (maxNum : Nat) : Region → Nat
  | .ipRule => 8
  | .ipStart => 16
  | .ipEnd => 16
  | .table _ => maxNum
  | .request _ => maxNum

section Commands

variable (maxNum : Nat) (tables : Tables) (value : List UInt8)

/-- The accesses of `add_ipfilterpolicy`: the three copies, the search for an empty slot, and the
slot that is filled and told. -/
def addAccesses : List (Access Region) :=
  match addText value with
  | none => []
  | some _ =>
    span .ipStart 15 ++ span .ipEnd 15 ++ span .ipRule 7 ++
      match addRequest value with
      | none => []
      | some (_, _, policy) =>
        match emptySlot maxNum (tables policy) with
        | none => span (.table policy) maxNum
        | some idx => span (.table policy) (idx + 1) ++ [⟨.table policy, idx⟩, ⟨.request policy, idx⟩]

/-- The accesses of `del_ipfilterpolicy`: the copy of the rule string and the slot that is read
and, when it is occupied, told. -/
def delAccesses : List (Access Region) :=
  match value.idxOf? 58 with
  | none => []
  | some colon =>
    let idx := delIndex value colon
    if maxNum < (idx + 1) % 4294967296 then []
    else
      span .ipRule colon ++
        match policyOf (value.take colon) with
        | none => []
        | some policy =>
          ⟨.table policy, idx⟩ ::
            if (tables policy idx).free then [] else [⟨.request policy, idx⟩]

end Commands

/-- The number of the slot is the greatest word exactly for the text of minus one. -/
theorem delIndex_greatest (value : List UInt8) (colon : Nat) :
    delIndex value colon = 4294967295 ↔ atoi (value.drop (colon + 1)) = -1 := by
  have range := isInt_atoi (value.drop (colon + 1))
  unfold IsInt at range
  unfold delIndex
  omega

/-- The number of the slot is a word. -/
theorem delIndex_lt (value : List UInt8) (colon : Nat) : delIndex value colon < 4294967296 := by
  unfold delIndex
  omega

/-- A number that passes the test is within the table unless it is the greatest word. -/
theorem tested_inside {maxNum idx : Nat} (wide : maxNum < 4294967296) (word : idx < 4294967296)
    (tested : ¬maxNum < (idx + 1) % 4294967296) : idx < maxNum ↔ idx ≠ 4294967295 := by
  omega

/-- An add stays within its arrays and its table. -/
theorem addAccesses_inside (maxNum : Nat) (tables : Tables) (value : List UInt8) :
    AllInside (Region.size maxNum) (addAccesses maxNum tables value) := by
  unfold addAccesses
  cases addText value with
  | none => simp
  | some text =>
    cases addRequest value with
    | none => simp [Region.size]
    | some request =>
      obtain ⟨start, stop, policy⟩ := request
      cases found : emptySlot maxNum (tables policy) with
      | none => simp [found, Region.size]
      | some idx =>
        have below : idx < maxNum := List.mem_range.mp (List.mem_of_find?_eq_some found)
        simp [found, Region.size, below, Nat.succ_le_of_lt below]

/-- The accesses of a delete behind its test stay within when the rule string fits its array and
the slot of a rule is in the table. -/
theorem delAccesses_inside {maxNum : Nat} {tables : Tables} {value : List UInt8} {colon : Nat}
    (found : value.idxOf? 58 = some colon)
    (tested : ¬maxNum < (delIndex value colon + 1) % 4294967296) :
    AllInside (Region.size maxNum) (delAccesses maxNum tables value) ↔
      colon ≤ 8 ∧ ((policyOf (value.take colon)).isSome = true →
        delIndex value colon < maxNum) := by
  unfold delAccesses
  rw [found]
  simp only [if_neg tested, allInside_append, allInside_span]
  apply and_congr Iff.rfl
  cases policyOf (value.take colon) with
  | none => simp
  | some policy =>
    cases empty : (tables policy (delIndex value colon)).free <;> simp [empty, Region.size]

/-- An add stays within its arrays and the table. A delete does exactly when, with a number of a
slot that passes its test, the rule string has at most 8 bytes and the number behind a known rule
is not minus one. -/
theorem ipfilterpolicy_inside (maxNum : UInt32) (tables : Tables) (value : List UInt8) :
    AllInside (Region.size maxNum.toNat) (addAccesses maxNum.toNat tables value) ∧
    (AllInside (Region.size maxNum.toNat) (delAccesses maxNum.toNat tables value) ↔
      ∀ colon, value.idxOf? 58 = some colon →
        maxNum.toNat < (delIndex value colon + 1) % 4294967296 ∨
        colon ≤ 8 ∧ ((policyOf (value.take colon)).isSome = true →
          atoi (value.drop (colon + 1)) ≠ -1)) := by
  refine ⟨addAccesses_inside _ _ _, ?_⟩
  cases found : value.idxOf? 58 with
  | none => simp [delAccesses, found]
  | some colon =>
    simp only [Option.some_inj, forall_eq']
    by_cases tested : maxNum.toNat < (delIndex value colon + 1) % 4294967296
    · simp [delAccesses, found, tested]
    · have inside := tested_inside maxNum.toNat_lt (delIndex_lt value colon) tested
      rw [delAccesses_inside found tested, inside, ne_eq, delIndex_greatest]
      simp only [tested, false_or]

/-- The slot minus one of the table of allowed ranges is read. -/
theorem delIpfilterpolicy_minus_one :
    ¬AllInside (Region.size 16) (delAccesses 16 (fun _ _ => .clear) (ascii "allow:-1")) := by
  decide

end BoaIpcam.IpFilter
