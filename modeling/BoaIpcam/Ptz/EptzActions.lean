import BoaIpcam.Ptz.EptzTable
import BoaIpcam.Lib.Removal

/-!
# The actions on the tables of presets

Each action keeps the lists that the tables of its page hold and changes nothing outside the page,
when the request meets the condition. So the tables of all streams stay in order in every run of
such requests.
-/
namespace BoaIpcam.Eptz

open TransitionSystem Tables

/-- An action changes only its page, which holds lists again. -/
def Moves (limits : Limits) (page : Int) (before after : Entries) : Prop :=
  SameOutside page before after ∧
    ∃ presets sequence, PageHolds limits after page presets sequence

section Presets

variable {limits : Limits} {entries : Entries} {page : Int} {presets : List Preset}
  {sequence : List Int}

/-- Without a change the lists stay. -/
theorem PageHolds.moves (holds : PageHolds limits entries page presets sequence) :
    Moves limits page entries entries :=
  ⟨.refl page entries, presets, sequence, holds⟩

/-- The slots of a page after an entry was written. -/
theorem slot_update {α : Type} (table : Int → α) (page : Int) (i k : Nat) (value : α) :
    Function.update table (page + i) value (page + k) =
      if k = i then value else table (page + k) := by
  by_cases here : k = i
  · subst here
    rw [Function.update_self, if_pos rfl]
  · rw [Function.update_of_ne (by omega), if_neg here]

end Presets

/-! ## Deletion -/

section Deletion

variable {limits : Limits} {entries : Entries} {page index : Int} {presets : List Preset}
  {sequence : List Int}

/-- The entries of the sequence of a page with their times. -/
def Entries.cells (entries : Entries) (page : Int) (count : Nat) : List (Int × Int) :=
  (List.range count).map fun k : Nat => (entries.seq (page + k), entries.time (page + k))

/-- The entry in a slot. -/
theorem getElem?_cells {count k : Nat} (inside : k < count) :
    (entries.cells page count)[k]? = some (entries.seq (page + k), entries.time (page + k)) := by
  rw [Entries.cells, List.getElem?_map, List.getElem?_range inside, Option.map_some]

/-- There are as many entries as slots. -/
@[simp] theorem length_cells {count : Nat} : (entries.cells page count).length = count := by
  rw [Entries.cells, List.length_map, List.length_range]

/-- The inner loop moves the entries from a slot on, and their times with them. -/
theorem shift_cells {i : Nat} (inside : i ≤ limits.maxSequence) (k : Nat) :
    let after := loop i limits.maxSequence (shiftEntry page) entries
    (after.seq (page + k), after.time (page + k)) =
      if i ≤ k ∧ k < limits.maxSequence then
        (entries.seq (page + (k + 1 : Nat)), entries.time (page + (k + 1 : Nat)))
      else (entries.seq (page + k), entries.time (page + k)) := by
  refine loop_inv (fun n (now : Entries) => ∀ k : Nat,
    (now.seq (page + k), now.time (page + k)) =
      if i ≤ k ∧ k < n then
        (entries.seq (page + (k + 1 : Nat)), entries.time (page + (k + 1 : Nat)))
      else (entries.seq (page + k), entries.time (page + k))) inside ?_ ?_ k
  · intro k
    rw [if_neg (by omega)]
  · intro n now after _ shifted k
    simp only [shiftEntry, slot_update]
    by_cases here : k = n
    · subst here
      rw [if_pos rfl, if_pos rfl, if_pos (by omega), shifted, if_neg (by omega)]
    · rw [if_neg here, if_neg here, shifted]
      by_cases early : i ≤ k ∧ k < n
      · rw [if_pos early, if_pos (by omega)]
      · rw [if_neg early, if_neg (by omega)]

/-- A round of the first loop of a deletion takes out the entry in its slot if it is the preset. -/
theorem cells_dropEntry {i : Nat} (inside : i < limits.maxSequence) :
    (dropEntry limits page index i entries).cells page limits.maxSequence =
      takeOut (fun cell => decide (cell.1 = index))
        (entries.seq (page + limits.maxSequence), entries.time (page + limits.maxSequence)) i
        (entries.cells page limits.maxSequence) := by
  have same : ∀ k : Nat, k ≠ i →
      (clearEntry limits page i entries).seq (page + k) = entries.seq (page + k) ∧
      (clearEntry limits page i entries).time (page + k) = entries.time (page + k) := by
    intro k other
    simp only [clearEntry, slot_update, if_neg other, and_self]
  unfold takeOut dropEntry
  rw [getElem?_cells inside, Option.any_some]
  by_cases here : index = entries.seq (page + i)
  · rw [if_pos here, if_pos (decide_eq_true here.symm)]
    apply List.ext_getElem?
    intro k
    by_cases below : k < limits.maxSequence
    · rw [getElem?_cells below, shift_cells (Nat.le_of_lt inside)]
      rcases Nat.lt_or_ge k i with early | late
      · rw [if_neg (by omega), (same k (by omega)).1, (same k (by omega)).2]
        rw [getElem?_before _ (by rwa [length_cells]) early (getElem?_cells below)]
      · rw [if_pos ⟨late, below⟩, (same (k + 1) (by omega)).1, (same (k + 1) (by omega)).2]
        rcases Nat.lt_or_eq_of_le (Nat.succ_le_of_lt below) with more | last
        · rw [getElem?_moved _ late (getElem?_cells more)]
        · have length : ((entries.cells page limits.maxSequence).eraseIdx i).length = k := by
            rw [List.length_eraseIdx_of_lt (by rwa [length_cells]), length_cells]
            omega
          have end_k : k + 1 = limits.maxSequence := last
          rw [List.getElem?_append_right (by omega), length, Nat.sub_self, end_k]
          rfl
    · rw [List.getElem?_eq_none (by rw [length_cells]; omega), List.getElem?_eq_none]
      rw [List.length_append, List.length_eraseIdx_of_lt (by rwa [length_cells]), length_cells,
        List.length_singleton]
      omega
  · rw [if_neg here, if_neg fun found => here (of_decide_eq_true found).symm]

/-- It does not change what lies behind the sequence. -/
theorem dropEntry_behind {i : Nat} (inside : i < limits.maxSequence) :
    let after := dropEntry limits page index i entries
    (after.seq (page + limits.maxSequence), after.time (page + limits.maxSequence)) =
      (entries.seq (page + limits.maxSequence), entries.time (page + limits.maxSequence)) := by
  unfold dropEntry
  split
  · dsimp only
    rw [shift_cells (Nat.le_of_lt inside), if_neg (by omega)]
    simp only [clearEntry, slot_update, if_neg (Nat.ne_of_gt inside)]
  · rfl

/-- The first loop of a deletion takes out the preset, as a removal in place. -/
theorem cells_drop :
    (loop 0 limits.maxSequence (dropEntry limits page index) entries).cells page
        limits.maxSequence =
      takeOutAll (fun cell => decide (cell.1 = index))
        (entries.seq (page + limits.maxSequence), entries.time (page + limits.maxSequence))
        (entries.cells page limits.maxSequence) := by
  rw [takeOutAll, length_cells]
  apply loop_view (fun now : Entries => now.cells page limits.maxSequence)
    (fun now : Entries =>
      (now.seq (page + limits.maxSequence), now.time (page + limits.maxSequence)) =
        (entries.seq (page + limits.maxSequence), entries.time (page + limits.maxSequence))) rfl
  intro i now _ below same
  exact ⟨(dropEntry_behind below).trans same, by rw [cells_dropEntry below, same]⟩

/-- The inner loop does not change the presets, nor entries outside the page. -/
theorem shift_frame {first : Nat} :
    SameOutside page entries (loop first limits.maxSequence (shiftEntry page) entries) ∧
      (loop first limits.maxSequence (shiftEntry page) entries).id = entries.id := by
  have pages := limits.sequence_le
  refine loop_keeps (fun now => SameOutside page entries now ∧ now.id = entries.id)
    ⟨.refl _ _, rfl⟩ ?_
  intro i now _ below kept
  exact ⟨kept.1.trans (.setEntry _ _ _ (by omega)), kept.2⟩

/-- A round of the first loop of a deletion does not change the presets, nor entries outside the
page. -/
theorem dropEntry_frame {i : Nat} (inside : i < limits.maxSequence) :
    SameOutside page entries (dropEntry limits page index i entries) ∧
      (dropEntry limits page index i entries).id = entries.id := by
  have pages := limits.sequence_le
  unfold dropEntry
  split
  · obtain ⟨frame, same⟩ := @shift_frame limits (clearEntry limits page i entries) page i
    have cleared : SameOutside page entries (clearEntry limits page i entries) :=
      .setEntry _ _ _ (by omega)
    exact ⟨cleared.trans frame, same⟩
  · exact ⟨.refl _ _, rfl⟩

/-- The first loop does not change the presets, nor entries outside the page. -/
theorem drop_frame :
    SameOutside page entries (loop 0 limits.maxSequence (dropEntry limits page index) entries) ∧
      (loop 0 limits.maxSequence (dropEntry limits page index) entries).id = entries.id := by
  refine loop_keeps (fun now => SameOutside page entries now ∧ now.id = entries.id)
    ⟨.refl _ _, rfl⟩ ?_
  intro i now _ below kept
  obtain ⟨frame, same⟩ := @dropEntry_frame limits now page index i below
  exact ⟨kept.1.trans frame, same.trans kept.2⟩

/-- The entries after the first loop, if the preset does not occur twice in a row and no entry lies
behind the sequence. -/
theorem cells_drop_eq (positive : 1 ≤ index)
    (meets : ∀ k < limits.maxSequence, index = entries.seq (page + k) →
      entries.seq (page + limits.maxSequence) = 0 ∧
        index ≠ entries.seq (page + (k + 1 : Nat))) :
    (loop 0 limits.maxSequence (dropEntry limits page index) entries).cells page
        limits.maxSequence =
      (entries.cells page limits.maxSequence).filter (fun cell => !decide (cell.1 = index)) ++
        List.replicate
          ((entries.cells page limits.maxSequence).countP fun cell => decide (cell.1 = index))
          (entries.seq (page + limits.maxSequence), entries.time (page + limits.maxSequence)) := by
  have item : ∀ (k : Nat) cell, (entries.cells page limits.maxSequence)[k]? = some cell →
      k < limits.maxSequence ∧ cell.1 = entries.seq (page + k) := by
    intro k cell at_k
    have inside := (List.getElem?_eq_some_iff.mp at_k).1
    rw [length_cells] at inside
    rw [getElem?_cells inside] at at_k
    cases at_k
    exact ⟨inside, rfl⟩
  rw [cells_drop]
  apply takeOutAll_eq
  · intro k first second at_k next found
    obtain ⟨inside, value⟩ := item k first at_k
    obtain ⟨-, following⟩ := item (k + 1) second next
    have here : index = entries.seq (page + k) := by
      rw [← value]
      exact (of_decide_eq_true found).symm
    apply decide_eq_false
    rw [following]
    exact (meets k inside here).2.symm
  · rintro ⟨cell, member, found⟩
    obtain ⟨k, at_k⟩ := List.mem_iff_getElem?.mp member
    obtain ⟨inside, value⟩ := item k cell at_k
    have here : index = entries.seq (page + k) := by
      rw [← value]
      exact (of_decide_eq_true found).symm
    have behind := (meets k inside here).1
    apply decide_eq_false
    dsimp only
    omega

/-- The second loop counts down the members above the preset. -/
theorem lower_seq (k : Nat) :
    (loop 0 limits.maxSequence (lowerEntry page index) entries).seq (page + k) =
      if k < limits.maxSequence ∧ index < entries.seq (page + k) then entries.seq (page + k) - 1
      else entries.seq (page + k) := by
  refine loop_inv (fun n (now : Entries) => ∀ k : Nat, now.seq (page + k) =
    if k < n ∧ index < entries.seq (page + k) then entries.seq (page + k) - 1
    else entries.seq (page + k)) (Nat.zero_le _) ?_ ?_ k
  · intro k
    rw [if_neg (by omega)]
  · intro n now _ _ lowered k
    have here := lowered n
    rw [if_neg (by omega)] at here
    unfold lowerEntry
    rw [here]
    by_cases same : k = n
    · subst same
      split
      · next above =>
        simp only [slot_update]
        rw [if_pos trivial, if_pos ⟨by omega, above⟩]
      · next below => rw [here, if_neg (by omega)]
    · have kept : now.seq (page + k) =
          if k < n + 1 ∧ index < entries.seq (page + k) then entries.seq (page + k) - 1
          else entries.seq (page + k) := by
        rw [lowered]
        by_cases early : k < n ∧ index < entries.seq (page + k)
        · rw [if_pos early, if_pos (by omega)]
        · rw [if_neg early, if_neg (by omega)]
      split
      · simp only [slot_update]
        rw [if_neg same]
        exact kept
      · exact kept

/-- The second loop does not change the presets, nor entries outside the page. -/
theorem lower_frame :
    SameOutside page entries (loop 0 limits.maxSequence (lowerEntry page index) entries) ∧
      (loop 0 limits.maxSequence (lowerEntry page index) entries).id = entries.id := by
  have pages := limits.sequence_le
  refine loop_keeps (fun now => SameOutside page entries now ∧ now.id = entries.id)
    ⟨.refl _ _, rfl⟩ ?_
  intro i now _ below kept
  unfold lowerEntry
  split
  · refine ⟨kept.1.trans ⟨fun _ _ => rfl, ?_, fun _ _ => rfl, rfl⟩, kept.2⟩
    exact fun k out => update_outside _ _ (by omega) out
  · exact kept

/-- The state of the last loop of a deletion before a slot: the presets before the slot have moved
up, and the slots that they left have no name. -/
structure Moving (page : Int) (read : Nat → List UInt8) (presets : List Preset) (i : Nat)
    (start : Entries) (n : Nat) (state : Entries × Nat) : Prop where
  /-- Other pages stay. -/
  frame : SameOutside page start state.1
  /-- The sequences stay. -/
  seq : state.1.seq = start.seq
  /-- The next slot to fill. -/
  place : state.2 = min (n - 1) (presets.length - 1)
  /-- The slots before the deleted one stay. -/
  before : ∀ k < i, state.1.preset page k = read k
  /-- The presets behind it have moved up. -/
  moved : ∀ (k : Nat) old, i ≤ k → k < state.2 → presets[k + 1]? = some old →
    state.1.preset page k = { old with index := (k + 1 : Int) }.text
  /-- The slots that they left have no name. -/
  freed : ∀ k, state.2 ≤ k → k < n → Nameless (state.1.preset page k)
  /-- The slots that are still to come stay. -/
  after : ∀ k, n ≤ k → k < 20 → state.1.preset page k = read k

/-- A round of the last loop moves one preset. -/
theorem Moving.round {read : Nat → List UInt8} {i n : Nat} {start : Entries}
    {state : Entries × Nat} (moving : Moving page read presets i start n state)
    (holds : PresetsHold limits read presets) (inside : i < presets.length) (later : i < n)
    (below : n < limits.maxEptzpreset) :
    Moving page read presets i start (n + 1) (moveDown limits page n state) := by
  obtain ⟨now, d⟩ := state
  obtain ⟨frame, seq, place, before, moved, freed, after⟩ := moving
  have pages := limits.presets_le
  simp only at frame seq place before moved freed after
  by_cases within : n < presets.length
  · have at_n : presets[n]? = some presets[n] := List.getElem?_eq_getElem within
    generalize presets[n] = preset at at_n
    have proper := holds.proper preset (List.mem_of_getElem? at_n)
    have text : now.preset page n = preset.text := by
      rw [after n (Nat.le_refl _) (by omega)]
      refine holds.texts.item n _ ?_
      rw [List.getElem?_map, at_n, Option.map_some]
    have scanned : Preset.cleared.scan (now.preset page n) = preset := by
      rw [text]
      exact proper.scan_text _
    have index := holds.indexed n preset at_n
    have slots : ∀ k, (moveDown limits page n (now, d)).1.preset page k =
        if k = n then limits.eptzpresetDefault
        else if k = d then { preset with index := preset.index - 1 }.text
        else now.preset page k := by
      intro k
      simp only [moveDown, scanned]
      rw [if_pos proper.named]
      simp only [Entries.preset, slot_update]
    have state : (moveDown limits page n (now, d)).1.seq = now.seq ∧
        (moveDown limits page n (now, d)).2 = d + 1 ∧
        SameOutside page now (moveDown limits page n (now, d)).1 := by
      simp only [moveDown, scanned]
      rw [if_pos proper.named]
      refine ⟨rfl, rfl, fun k out => ?_, fun _ _ => rfl, fun _ _ => rfl, rfl⟩
      dsimp only
      rw [update_outside _ _ (by omega) out, update_outside _ _ (by omega) out]
    obtain ⟨same, next, outside⟩ := state
    refine ⟨frame.trans outside, same.trans seq, by omega, ?_, ?_, ?_, ?_⟩
    · intro k early
      rw [slots, if_neg (by omega), if_neg (by omega)]
      exact before k early
    · intro k old late early at_k
      rw [slots, if_neg (by omega)]
      by_cases last : k = d
      · have same : k + 1 = n := by omega
        rw [same, at_n] at at_k
        cases at_k
        rw [if_pos last, index]
        congr 2
        omega
      · rw [if_neg last]
        exact moved k old late (by omega) at_k
    · intro k late early
      have last : k = n := by omega
      rw [slots, if_pos last]
      exact limits.nameless
    · intro k late inside
      rw [slots, if_neg (by omega), if_neg (by omega)]
      exact after k (by omega) inside
  · have nameless := holds.nameless (show presets.length ≤ n by omega) (by omega)
    have kept : moveDown limits page n (now, d) = (now, d) := by
      simp only [moveDown]
      refine if_neg fun named => named ?_
      rw [after n (Nat.le_refl _) (by omega)]
      exact nameless.1
    rw [kept]
    refine ⟨frame, seq, by omega, before, moved, ?_, ?_⟩
    · intro k late early
      by_cases last : k = n
      · rw [last, after n (Nat.le_refl _) (by omega)]
        exact nameless
      · exact freed k late (by omega)
    · intro k late inside
      exact after k (by omega) inside

end Deletion

/-! ## The other actions -/

section Actions

variable {limits : Limits} {entries : Entries} {page : Int} {presets : List Preset}
  {sequence : List Int}

/-- The text in the slot of a preset is read into the variables. -/
theorem PresetsHold.scan {read : Nat → List UInt8} {i : Nat} {preset : Preset}
    (holds : PresetsHold limits read presets) (at_i : presets[i]? = some preset)
    (before : Preset) : before.scan (read i) = preset := by
  simp only [Preset.scan, holds.scanned at_i]
  rfl

end Actions

/-! ## Runs of requests -/

section Runs

variable {limits : Limits} {entries : Entries} {req : EptzRequest}

/-- The tables of every stream hold lists. -/
def AllHold (limits : Limits) (entries : Entries) : Prop :=
  ∀ stream, IsStream limits stream →
    ∃ presets sequence, PageHolds limits entries (pageOf stream) presets sequence

/-- A selection changes no table. -/
theorem select_tables (req : EptzRequest) (entries : Entries) :
    (req.select entries).id = entries.id ∧ (req.select entries).seq = entries.seq ∧
      (req.select entries).time = entries.time := by
  unfold EptzRequest.select
  cases req.streamid with
  | none => exact ⟨rfl, rfl, rfl⟩
  | some text => exact ⟨rfl, rfl, rfl⟩

/-- After a selection the tables hold the same lists. -/
theorem AllHold.select (all : AllHold limits entries) (req : EptzRequest) :
    AllHold limits (req.select entries) := by
  obtain ⟨id, seq, -⟩ := select_tables req entries
  intro stream valid
  obtain ⟨presets, sequence, holds⟩ := all stream valid
  refine ⟨presets, sequence, holds.table.congr fun k _ => ?_, holds.members.congr fun k _ => ?_⟩
  · rw [Entries.preset, id]
    rfl
  · rw [seq]

/-- A move of a page keeps the lists of all streams. -/
theorem Moves.all {after : Entries} {stream : Int} (all : AllHold limits entries)
    (moves : Moves limits (pageOf stream) entries after) : AllHold limits after := by
  have short := limits.sequence_le
  obtain ⟨frame, moved⟩ := moves
  intro other valid
  by_cases same : other = stream
  · rw [same]
    exact moved
  obtain ⟨presets, sequence, holds⟩ := all other valid
  have apart : ∀ k : Nat, k < 20 →
      pageOf other + k < pageOf stream ∨ pageOf stream + 20 ≤ pageOf other + k := by
    intro k inside
    unfold pageOf
    omega
  refine ⟨presets, sequence, holds.table.congr fun k inside => ?_,
    holds.members.congr fun k inside => ?_⟩
  · exact frame.id _ (apart k inside)
  · exact frame.seq _ (apart k (by omega))

end Runs

/-- A build with two presets and two members of the sequence. -/
def smallLimits : Limits where
  maxEptzpreset := 2
  maxSequence := 2
  maxWebProfileNum := 3
  minSeqTime := 1
  maxSeqTime := 999
  maxEptzpresetnameLen := 20
  seqTimeDef := 10
  eptzpresetDefault := ascii "0:0:10:0:0:00000000:"
  presets_le := by decide
  sequence_le := by decide
  nameless := by decide

/-- A request for stream 1. -/
def streamRequest (action : Action) (name rename index : List UInt8) (direction : Direction)
    (nameSolid : Solid name) (renameSolid : Solid rename) (nameFits : name.length < 32)
    (renameFits : rename.length < 32) : EptzRequest where
  action := action
  streamid := some (ascii "1")
  index := some index
  time := none
  name := name
  rename := rename
  direction := direction
  zoom := 0
  focus := 0
  position := 0
  nameSolid := nameSolid
  renameSolid := renameSolid
  nameFits := nameFits
  renameFits := renameFits
  zoomInt := by unfold IsInt; decide
  focusInt := by unfold IsInt; decide
  positionInt := by unfold IsInt; decide

end BoaIpcam.Eptz
