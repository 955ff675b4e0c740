import BoaIpcam.Events.Commands
import BoaIpcam.Lib.Tables
import Mathlib.Data.Finset.Card
import Mathlib.Data.List.ProdSigma
import Mathlib.Data.Nat.Bitwise

/-!
# Media that are used twice

`check_act_media_status` of `appro_api.c` looks for a medium that the actions of the events send to
more than one server. It fills the table `e2g_action`, with one flag for each event and server, and
then counts each medium in the flags of the valid events and of the event that is set. The table
stays between two calls, so a row of it is as old as the last call in which its event was valid.
-/
namespace BoaIpcam.Events

open FlatTables Tables

/-! ## The code -/

/-- `e2g_action`: the flag of an event and a server. -/
abbrev ActionTable := Nat → Nat → Nat

/-- A flag of the table is written. -/
def ActionTable.put (table : ActionTable) (i j flag : Nat) : ActionTable :=
  Function.update table i (Function.update (table i) j flag)

section Code

variable (build : Build) (info : SysInfo) (eventId actionServer actionMedia : Nat)

/-- The entry `E2G_EVENT0_INFO_VALID` of an event is 1. -/
def EventValid (i : Nat) : Prop := build.u8 (build.entry info .event i EventField.valid) = 1

instance (i : Nat) : Decidable (EventValid build info i) := inferInstanceAs (Decidable (_ = 1))

/-- The flag that the first loop writes for a valid event. -/
def storedFlag (i j : Nat) : Nat :=
  if i = eventId then 15
  else mediaFlag (build.u16 (build.entry info .event i EventField.actionServer))
    (build.u32 (build.entry info .event i EventField.actionMedia)) j

/-- The flags of an event are written. -/
def writeRow (i : Nat) (flag : Nat → Nat) (table : ActionTable) : ActionTable :=
  loop 0 (build.layout.size .server) (fun j table => table.put i j (flag j)) table

/-- The first loop: the rows of the valid events. -/
def refreshRows (table : ActionTable) : ActionTable :=
  loop 0 (build.layout.size .event)
    (fun i table =>
      if EventValid build info i then writeRow build i (storedFlag build info eventId i) table
      else table)
    table

/-- The flags that the last loop visits for a medium. -/
def visitedFlags (table : ActionTable) : List Nat :=
  ((List.range (build.layout.size .event)).filter fun i : Nat =>
      ¬(¬EventValid build info i ∧ eventId ≠ i)).flatMap fun i : Nat =>
    (List.range (build.layout.size .server)).map (table i)

/-- The last loop for a medium, with `same_cnt`; none when it returns. -/
def countSame (sameTmp : Nat) : Nat → List Nat → Option Nat
  | sameCnt, [] => some sameCnt
  | sameCnt, flag :: flags =>
    if flag = sameTmp then
      if 1 < sameCnt + 1 then none else countSame sameTmp (sameCnt + 1) flags
    else countSame sameTmp sameCnt flags

/-- `check_act_media_status`: what it returns, and the table after it. -/
def checkActMediaStatus (table : ActionTable) : Int × ActionTable :=
  let refreshed := refreshRows build info eventId table
  let filled := writeRow build eventId (mediaFlag actionServer actionMedia) refreshed
  let flags := visitedFlags build info eventId filled
  (if ∃ sameTmp < build.layout.size .media, countSame sameTmp 0 flags = none then -1 else 0, filled)

end Code

/-! ## The table -/

section Table

variable {build : Build} {info : SysInfo} {eventId actionServer actionMedia : Nat}
  {table : ActionTable}

/-- A flag after a write to the table. -/
theorem put_apply (table : ActionTable) (i j flag i' j' : Nat) :
    table.put i j flag i' j' = if i' = i ∧ j' = j then flag else table i' j' := by
  by_cases row : i' = i
  · subst row
    rw [ActionTable.put, Function.update_self]
    by_cases column : j' = j
    · rw [column, Function.update_self, if_pos ⟨rfl, rfl⟩]
    · rw [Function.update_of_ne column, if_neg fun both => column both.2]
  · rw [ActionTable.put, Function.update_of_ne row, if_neg fun both => row both.1]

/-- The flags after those of an event are written. -/
theorem writeRow_apply (i : Nat) (flag : Nat → Nat) (table : ActionTable) (i' j' : Nat) :
    writeRow build i flag table i' j' =
      if i' = i ∧ j' < build.layout.size .server then flag j' else table i' j' := by
  have filled : ∀ i' j', writeRow build i flag table i' j' =
      if i' = i ∧ j' < build.layout.size .server then flag j' else table i' j' := by
    refine loop_inv (fun n (t : ActionTable) => ∀ i' j', t i' j' = if i' = i ∧ j' < n then flag j' else table i' j')
      (Nat.zero_le _) ?_ ?_
    · intro i' j'
      rw [if_neg fun both => Nat.not_lt_zero _ both.2]
    · intro j t _ _ before i' j'
      rw [put_apply, before]
      by_cases row : i' = i
      · by_cases column : j' = j
        · rw [if_pos ⟨row, column⟩, if_pos ⟨row, by omega⟩, column]
        · have same : j' < j ↔ j' < j + 1 := by omega
          rw [if_neg fun both => column both.2]
          simp only [same]
      · rw [if_neg fun both => row both.1, if_neg fun both => row both.1,
          if_neg fun both => row both.1]
  exact filled i' j'

/-- After the first loop the rows of the valid events are fresh, and the others are as old as they
were. -/
theorem refreshRows_apply (table : ActionTable) (i j : Nat) :
    refreshRows build info eventId table i j =
      if i < build.layout.size .event ∧ EventValid build info i ∧ j < build.layout.size .server then
        storedFlag build info eventId i j
      else table i j := by
  have filled : ∀ i j, refreshRows build info eventId table i j =
      if i < build.layout.size .event ∧ EventValid build info i ∧ j < build.layout.size .server then
        storedFlag build info eventId i j
      else table i j := by
    refine loop_inv (fun n (t : ActionTable) => ∀ i j, t i j =
      if i < n ∧ EventValid build info i ∧ j < build.layout.size .server then
        storedFlag build info eventId i j
      else table i j) (Nat.zero_le _) ?_ ?_
    · intro i j
      rw [if_neg fun all => Nat.not_lt_zero _ all.1]
    · intro k t _ _ before i j
      by_cases valid : EventValid build info k
      · rw [if_pos valid, writeRow_apply, before]
        by_cases row : i = k
        · subst row
          have here : i < i + 1 := Nat.lt_succ_self i
          simp only [Nat.lt_irrefl, here, valid, true_and, false_and, if_false]
        · have same : i < k ↔ i < k + 1 := by omega
          rw [if_neg fun both => row both.1]
          simp only [same]
      · rw [if_neg valid, before]
        by_cases row : i = k
        · subst row
          rw [if_neg fun all => valid all.2.1, if_neg fun all => valid all.2.1]
        · have same : i < k ↔ i < k + 1 := by omega
          simp only [same]
  exact filled i j

end Table

/-! ## What is asked -/

section Answer

variable (build : Build) (info : SysInfo) (eventId actionServer actionMedia : Nat)

/-- A nibble of a word of media. -/
def nibble (media j : Nat) : Nat := media / 16 ^ j % 16

/-- An event and a server select a medium: the event that is set by its new mask and word, another
that is valid by its entries. -/
def Selects (pair : Nat × Nat) (medium : Nat) : Prop :=
  pair.1 < build.layout.size .event ∧ pair.2 < build.layout.size .server ∧
    if pair.1 = eventId then
      actionServer.testBit pair.2 = true ∧ nibble actionMedia pair.2 = medium
    else
      EventValid build info pair.1 ∧
        (build.u16 (build.entry info .event pair.1 EventField.actionServer)).testBit pair.2 = true ∧
        nibble (build.u32 (build.entry info .event pair.1 EventField.actionMedia)) pair.2 = medium

/-- The pairs of events and servers whose flags are counted. -/
def countedPairs : List (Nat × Nat) :=
  ((List.range (build.layout.size .event)).filter fun i : Nat =>
      i = eventId ∨ EventValid build info i) ×ˢ List.range (build.layout.size .server)

/-- The flag of a pair after the event is set. -/
def pairFlag (pair : Nat × Nat) : Nat :=
  if pair.1 = eventId then mediaFlag actionServer actionMedia pair.2
  else mediaFlag (build.u16 (build.entry info .event pair.1 EventField.actionServer))
    (build.u32 (build.entry info .event pair.1 EventField.actionMedia)) pair.2

end Answer

section Exact

variable {build : Build} {info : SysInfo} {eventId actionServer actionMedia : Nat}

/-- The flag of an action is a number below 15 exactly when the server is in the mask and the nibble
of the server is the number. -/
theorem mediaFlag_eq_iff {mask media j medium : Nat} (used : medium < 15) :
    mediaFlag mask media j = medium ↔ mask.testBit j = true ∧ nibble media j = medium := by
  have bit : mask &&& (1 <<< j) ≠ 0 ↔ mask.testBit j = true := by
    rw [Nat.one_shiftLeft, Nat.and_two_pow]
    cases mask.testBit j <;> simp
  have digit : (media &&& (15 <<< (4 * j))) >>> (4 * j) = nibble media j := by
    have power : 2 ^ (4 * j) = 16 ^ j := by rw [Nat.pow_mul]
    rw [Nat.shiftRight_and_distrib, Nat.shiftLeft_shiftRight, Nat.shiftRight_eq_div_pow, power]
    exact Nat.and_two_pow_sub_one_eq_mod _ 4
  unfold mediaFlag
  by_cases set : mask &&& (1 <<< j) ≠ 0
  · rw [if_pos set, digit]
    exact ⟨fun same => ⟨bit.mp set, same⟩, fun both => both.2⟩
  · rw [if_neg set]
    exact ⟨fun same => absurd same (by omega), fun both => absurd (bit.mpr both.1) set⟩

/-- The counted pairs whose flag is a medium are the pairs that select it. -/
theorem counted_iff_selects {pair : Nat × Nat} {medium : Nat} (used : medium < 15) :
    pair ∈ countedPairs build info eventId ∧
        pairFlag build info eventId actionServer actionMedia pair = medium ↔
      Selects build info eventId actionServer actionMedia pair medium := by
  have member : pair ∈ countedPairs build info eventId ↔
      (pair.1 < build.layout.size .event ∧ (pair.1 = eventId ∨ EventValid build info pair.1)) ∧
        pair.2 < build.layout.size .server := by
    rw [countedPairs, ← Prod.mk.eta (p := pair), List.mem_product, List.mem_filter]
    simp only [List.mem_range, decide_eq_true_eq]
  rw [member, pairFlag, Selects]
  by_cases set : pair.1 = eventId
  · rw [if_pos set, if_pos set, mediaFlag_eq_iff used]
    tauto
  · rw [if_neg set, if_neg set, mediaFlag_eq_iff used]
    tauto

/-- The loop over the flags returns when a medium occurs twice. -/
theorem countSame_eq_none {sameTmp sameCnt : Nat} {flags : List Nat} (below : sameCnt ≤ 1) :
    countSame sameTmp sameCnt flags = none ↔ 1 < sameCnt + flags.count sameTmp := by
  induction flags generalizing sameCnt with
  | nil =>
    rw [countSame, List.count_nil]
    exact iff_of_false (by simp) (by omega)
  | cons flag flags ih =>
    unfold countSame
    by_cases same : flag = sameTmp
    · subst same
      rw [if_pos rfl, List.count_cons_self]
      by_cases second : 1 < sameCnt + 1
      · rw [if_pos second]
        exact iff_of_true rfl (by omega)
      · rw [if_neg second, ih (by omega)]
        omega
    · rw [if_neg same, List.count_cons_of_ne same, ih below]

/-- The flags that are counted are those of the pairs, whatever the table was before. -/
theorem visitedFlags_filled (table : ActionTable) :
    visitedFlags build info eventId
        (checkActMediaStatus build info eventId actionServer actionMedia table).2 =
      (countedPairs build info eventId).map
        (pairFlag build info eventId actionServer actionMedia) := by
  have rows : (List.range (build.layout.size .event)).filter (fun i : Nat =>
      ¬(¬EventValid build info i ∧ eventId ≠ i)) =
      (List.range (build.layout.size .event)).filter fun i : Nat =>
        i = eventId ∨ EventValid build info i := by
    refine List.filter_congr fun i _ => decide_eq_decide.mpr ?_
    rw [not_and_or, not_not, not_not, eq_comm, or_comm]
  have pairs : (countedPairs build info eventId).map
      (pairFlag build info eventId actionServer actionMedia) =
      ((List.range (build.layout.size .event)).filter fun i : Nat =>
        i = eventId ∨ EventValid build info i).flatMap fun i : Nat =>
          (List.range (build.layout.size .server)).map fun j : Nat =>
            pairFlag build info eventId actionServer actionMedia (i, j) := by
    change ((List.flatMap _ _).map _) = _
    rw [List.map_flatMap]
    simp only [List.map_map, Function.comp_def]
  rw [visitedFlags, rows, pairs]
  refine List.flatMap_congr fun i member => List.map_congr_left fun j inside => ?_
  obtain ⟨event, counted⟩ := List.mem_filter.mp member
  have server := List.mem_range.mp inside
  change writeRow build eventId _ _ i j = _
  rw [writeRow_apply, pairFlag]
  by_cases set : i = eventId
  · rw [if_pos ⟨set, server⟩, if_pos set]
  · have valid : EventValid build info i := (of_decide_eq_true counted).resolve_left set
    rw [if_neg fun both => set both.1, if_neg set, refreshRows_apply,
      if_pos ⟨List.mem_range.mp event, valid, server⟩, storedFlag, if_neg set]

/-- Two members of a list without repetitions have one value exactly when it occurs twice among the
values. -/
theorem one_lt_count_map {α : Type} [DecidableEq α] {items : List α} (distinct : items.Nodup)
    (value : α → Nat) (target : Nat) :
    1 < (items.map value).count target ↔
      ∃ p ∈ items, ∃ q ∈ items, p ≠ q ∧ value p = target ∧ value q = target := by
  have card : (items.map value).count target =
      (items.toFinset.filter fun item => value item = target).card := by
    have filtered : (items.toFinset.filter fun item => value item = target) =
        (items.filter fun item => value item = target).toFinset := by
      ext item
      simp
    rw [filtered, List.toFinset_card_of_nodup (distinct.filter _), List.count_eq_length_filter,
      List.filter_map, List.length_map]
    rfl
  rw [card, Finset.one_lt_card]
  simp only [Finset.mem_filter, List.mem_toFinset]
  constructor
  · rintro ⟨p, ⟨pIn, pValue⟩, q, ⟨qIn, qValue⟩, other⟩
    exact ⟨p, pIn, q, qIn, other, pValue, qValue⟩
  · rintro ⟨p, pIn, q, qIn, other, pValue, qValue⟩
    exact ⟨p, ⟨pIn, pValue⟩, q, ⟨qIn, qValue⟩, other⟩

/-- The call returns -1 when a medium occurs twice among the flags of the pairs. -/
theorem checkActMediaStatus_eq (table : ActionTable) :
    (checkActMediaStatus build info eventId actionServer actionMedia table).1 =
      if ∃ medium < build.layout.size .media,
          1 < ((countedPairs build info eventId).map
            (pairFlag build info eventId actionServer actionMedia)).count medium then -1 else 0 := by
  have returns : ∀ medium : Nat,
      countSame medium 0 (visitedFlags build info eventId
        (checkActMediaStatus build info eventId actionServer actionMedia table).2) = none ↔
      1 < ((countedPairs build info eventId).map
        (pairFlag build info eventId actionServer actionMedia)).count medium := by
    intro medium
    rw [countSame_eq_none (Nat.zero_le 1), visitedFlags_filled, Nat.zero_add]
  change (if ∃ medium < build.layout.size .media,
    countSame medium 0 (visitedFlags build info eventId
      (checkActMediaStatus build info eventId actionServer actionMedia table).2) = none then (-1 : Int)
    else 0) = _
  simp only [returns]

/-- For every table that is left over, every event that there is and every mask and word,
`check_act_media_status` returns 0 exactly when no medium is selected by two pairs of an event and a
server, with the event set to the mask and the word. The answer does not depend on the table. The
number 15 stands for no medium. -/
theorem check_act_media_status_exact (numbers : build.layout.size .media ≤ 15)
    (table : ActionTable) :
    ((checkActMediaStatus build info eventId actionServer actionMedia table).1 = 0 ↔
      ¬∃ medium < build.layout.size .media, ∃ p q : Nat × Nat, p ≠ q ∧
        Selects build info eventId actionServer actionMedia p medium ∧
        Selects build info eventId actionServer actionMedia q medium) ∧
    ∀ other : ActionTable,
      (checkActMediaStatus build info eventId actionServer actionMedia other).1 =
        (checkActMediaStatus build info eventId actionServer actionMedia table).1 := by
  have distinct : (countedPairs build info eventId).Nodup :=
    (List.nodup_range.filter _).product List.nodup_range
  have twice : ∀ medium < build.layout.size .media,
      (1 < ((countedPairs build info eventId).map
          (pairFlag build info eventId actionServer actionMedia)).count medium ↔
        ∃ p q : Nat × Nat, p ≠ q ∧
          Selects build info eventId actionServer actionMedia p medium ∧
          Selects build info eventId actionServer actionMedia q medium) := by
    intro medium below
    have used : medium < 15 := by omega
    rw [one_lt_count_map distinct]
    constructor
    · rintro ⟨p, pIn, q, qIn, other, pFlag, qFlag⟩
      exact ⟨p, q, other, (counted_iff_selects used).mp ⟨pIn, pFlag⟩,
        (counted_iff_selects used).mp ⟨qIn, qFlag⟩⟩
    · rintro ⟨p, q, other, pSelects, qSelects⟩
      obtain ⟨pIn, pFlag⟩ := (counted_iff_selects used).mpr pSelects
      obtain ⟨qIn, qFlag⟩ := (counted_iff_selects used).mpr qSelects
      exact ⟨p, pIn, q, qIn, other, pFlag, qFlag⟩
  constructor
  · rw [checkActMediaStatus_eq]
    have some : (∃ medium < build.layout.size .media,
        1 < ((countedPairs build info eventId).map
          (pairFlag build info eventId actionServer actionMedia)).count medium) ↔
        ∃ medium < build.layout.size .media, ∃ p q : Nat × Nat, p ≠ q ∧
          Selects build info eventId actionServer actionMedia p medium ∧
          Selects build info eventId actionServer actionMedia q medium :=
      exists_congr fun medium => and_congr_right fun below => twice medium below
    rw [← some]
    split
    · exact iff_of_false (by decide) (not_not_intro ‹_›)
    · exact iff_of_true rfl ‹_›
  · intro other
    rw [checkActMediaStatus_eq, checkActMediaStatus_eq]

end Exact

/-- What is left in the table does not matter: the two servers of the event get different media. -/
theorem check_act_media_status_exact_small :
    (checkActMediaStatus smallEventBuild ⟨fun _ => .num 0, 0⟩ 1 3 0x10 fun _ _ => 1).1 = 0 := by
  have numbers : smallEventBuild.layout.size .media ≤ 15 := by decide
  have exact := @check_act_media_status_exact smallEventBuild ⟨fun _ => .num 0, 0⟩ 1 3 0x10 numbers
    fun _ _ => 0
  rw [exact.2]
  decide

end BoaIpcam.Events
