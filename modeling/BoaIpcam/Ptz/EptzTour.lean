import BoaIpcam.Ptz.EptzActions

/-!
# The tour after a deletion

The sequence of a stream is shown as pairs of the name of a preset and a time. `eptzpreset_del` is
to take the entries of the preset out of it and to leave the others, with their times, in their
order.
-/
namespace BoaIpcam.Eptz

open Tables

/-- What is shown of an entry: the name in the slot of the preset, unless the entry is empty, and
the time. -/
def Entries.shown (entries : Entries) (page : Int) (cell : Int × Int) : Option (List UInt8) × Int :=
  (if cell.1 = 0 then none else some (scanFields 6 (entries.id (page + (cell.1 - 1)))).2, cell.2)

/-- The tour of a page. -/
def Entries.tour (limits : Limits) (entries : Entries) (page : Int) :
    List (Option (List UInt8) × Int) :=
  (entries.cells page limits.maxSequence).map (entries.shown page)

/-- The entries of a tour that are left without a preset. -/
def leftOver (name : List UInt8) (tour : List (Option (List UInt8) × Int)) :
    List (Option (List UInt8) × Int) :=
  tour.filter fun entry => decide (entry.1 ≠ none ∧ entry.1 ≠ some name)

/-- After `eptzpreset_del` the tour is the former one without the entries of the preset, followed
by empty entries with the default time. -/
def KeepsTour (limits : Limits) (entries : Entries) (preset : Preset) : Prop :=
  let left := leftOver preset.name (entries.tour limits (pageOf preset.streamid))
  (del limits entries preset).tour limits (pageOf preset.streamid) =
    left ++ List.replicate (limits.maxSequence - left.length) (none, limits.seqTimeDef)

/-- When the deletion of the preset in a slot keeps the tour: the empty entries have the default
time, and if the preset is in the sequence, it does not occur twice in a row, and what lies behind
the sequence is an empty entry with the default time too. -/
def TourMeets (limits : Limits) (entries : Entries) (page : Int) (slot : Nat) : Prop :=
  (∀ k < limits.maxSequence, entries.seq (page + k) = 0 →
    entries.time (page + k) = limits.seqTimeDef) ∧
  ∀ k < limits.maxSequence, entries.seq (page + k) = slot + 1 →
    entries.seq (page + limits.maxSequence) = 0 ∧
    entries.time (page + limits.maxSequence) = limits.seqTimeDef ∧
    entries.seq (page + (k + 1 : Nat)) ≠ slot + 1

/-! ## Texts that are read -/

/-- The numbers that are read are of type `int`. -/
theorem isInt_scanFields {count : Nat} {text : List UInt8} {value : Int}
    (member : value ∈ (scanFields count text).1) : IsInt value := by
  induction count generalizing text with
  | zero => cases member
  | succ count ih =>
    unfold scanFields at member
    split at member
    · cases member
    · next first rest read =>
      split at member
      · obtain rfl := List.mem_singleton.mp member
        exact isInt_scanInt read
      · rcases List.mem_cons.mp member with rfl | later
        · exact isInt_scanInt read
        · exact ih later

/-- The name that is read has no white space. -/
theorem solid_scanFields (count : Nat) (text : List UInt8) : Solid (scanFields count text).2 := by
  have nothing : Solid [] := fun c member => by cases member
  induction count generalizing text with
  | zero => exact solid_scanWord text
  | succ count ih =>
    unfold scanFields
    split
    · exact nothing
    · split
      · exact nothing
      · exact ih _

/-- A name is only read behind all numbers. -/
theorem length_scanFields {count : Nat} {text : List UInt8}
    (named : (scanFields count text).2 ≠ []) : (scanFields count text).1.length = count := by
  induction count generalizing text with
  | zero => rfl
  | succ count ih =>
    unfold scanFields at named ⊢
    split at named
    · exact absurd rfl named
    · next first rest read =>
      split at named
      · exact absurd rfl named
      · next behind colon =>
        rw [List.length_cons, ih named]

/-- A preset that is read with a name is written so that it is read again. -/
theorem proper_scan {text : List UInt8} (named : (scanFields 6 text).2 ≠ []) (before : Preset) :
    (before.scan text).Proper := by
  have length := length_scanFields named
  have read : ∀ (k : Nat) (value : Int), k < 6 → IsInt ((scanFields 6 text).1.getD k value) := by
    intro k value below
    rw [List.getD_eq_getElem?_getD, List.getElem?_eq_getElem (by omega), Option.getD_some]
    exact isInt_scanFields (List.getElem_mem _)
  exact ⟨read 0 _ (by decide), read 1 _ (by decide), read 2 _ (by decide), read 3 _ (by decide),
    read 4 _ (by decide), read 5 _ (by decide), solid_scanFields 6 text, named⟩

/-! ## The names after a deletion -/

section Names

variable {limits : Limits} {entries start : Entries} {page : Int} {presets members i : Nat}

/-- The state of the last loop of a deletion before a slot: the names before the slot have moved
up, and the slots from there on are unchanged. -/
structure NamesMoving (limits : Limits) (entries start : Entries) (page : Int) (presets i n : Nat)
    (state : Entries × Nat) : Prop where
  /-- The sequences stay. -/
  seq : state.1.seq = start.seq
  /-- The times stay. -/
  time : state.1.time = start.time
  /-- The next slot to fill. -/
  place : state.2 = min (n - 1) (presets - 1)
  /-- The names behind the deleted one have moved up. -/
  moved : ∀ k < state.2,
    state.1.nameIn page k = entries.nameIn page (if k < i then k else k + 1)
  /-- The slots that are still to come stay. -/
  after : ∀ k, n ≤ k → k < limits.maxEptzpreset →
    state.1.preset page k = entries.preset page k

/-- A round of the last loop moves one name. -/
theorem NamesMoving.round (order : InOrder limits entries page presets members)
    (inside : i < presets) {n : Nat} {state : Entries × Nat} (later : i < n)
    (below : n < limits.maxEptzpreset)
    (moving : NamesMoving limits entries start page presets i n state) :
    NamesMoving limits entries start page presets i (n + 1) (moveDown limits page n state) := by
  obtain ⟨now, d⟩ := state
  obtain ⟨seq, time, place, moved, after⟩ := moving
  dsimp only at seq time place moved after
  have text := after n (Nat.le_refl n) below
  have name : (Preset.cleared.scan (now.preset page n)).name = entries.nameIn page n := by
    rw [text]
    rfl
  unfold moveDown
  dsimp only
  by_cases within : n < presets
  · have named := order.named n within
    have place : d + 1 = n := by omega
    rw [if_pos (by rwa [name])]
    generalize scanned : Preset.cleared.scan (now.preset page n) = preset at name
    have proper : preset.Proper := by
      rw [← scanned, text]
      exact proper_scan named .cleared
    have index : preset.index = n + 1 := by
      have read := order.indexed n within
      rw [← scanned, text]
      unfold Preset.scan
      dsimp only
      rw [List.getD_eq_getElem?_getD]
      rw [Entries.indexIn] at read
      rw [read, Option.getD_some]
    have lowered : { preset with index := preset.index - 1 }.Proper := by
      have size := limits.presets_le
      have bound : IsInt (preset.index - 1) := by
        unfold IsInt
        omega
      exact { proper with index := bound }
    have slots : ∀ k : Nat, Function.update (Function.update now.id (page + d)
          { preset with index := preset.index - 1 }.text) (page + n) limits.eptzpresetDefault
          (page + k) =
        if k = n then limits.eptzpresetDefault
        else if k = d then { preset with index := preset.index - 1 }.text
        else now.preset page k := by
      intro k
      simp only [slot_update, Entries.preset]
    refine ⟨seq, time, by dsimp only; omega, fun k early => ?_, fun k late short => ?_⟩
    · dsimp only at early
      rw [Entries.nameIn, Entries.preset]
      dsimp only
      rw [slots, if_neg (by omega)]
      by_cases last : k = d
      · rw [if_pos last, lowered.scanFields_text, if_neg (by omega), last, place, ← name]
      · rw [if_neg last]
        exact moved k (by omega)
    · rw [Entries.preset]
      dsimp only
      rw [slots, if_neg (by omega), if_neg (by omega)]
      exact after k (by omega) short
  · have unnamed := order.unnamed n (by omega) below
    rw [if_neg (by rw [name, unnamed]; exact fun named => named rfl)]
    exact ⟨seq, time, by dsimp only; omega, moved, fun k late short => after k (by omega) short⟩

/-- The search of a deletion finds the slot of the preset. -/
theorem search_found (order : InOrder limits entries page presets members) (inside : i < presets) :
    ∃ found, search (entries.preset page) (entries.nameIn page i) .cleared
        (List.range limits.maxEptzpreset) = (some i, found) ∧ found.index = i + 1 := by
  have fits := order.presets_le
  rcases search_cases (entries.preset page) (entries.nameIn page i) .cleared
      (List.range limits.maxEptzpreset) with ⟨j, before, found, result⟩ | ⟨missing, -⟩
  · obtain ⟨same, member, -⟩ := List.find?_range_eq_some.mp found
    have same : entries.nameIn page j = entries.nameIn page i := of_decide_eq_true same
    have within : j < presets := by
      by_contra behind
      rw [order.unnamed j (by omega) (List.mem_range.mp member)] at same
      exact order.named i inside same.symm
    obtain rfl := order.distinct j within i inside same
    refine ⟨_, result, ?_⟩
    have read := order.indexed j within
    rw [Entries.indexIn] at read
    unfold Preset.scan
    dsimp only
    rw [List.getD_eq_getElem?_getD, read, Option.getD_some]
  · have other := List.find?_range_eq_none.mp missing i (by omega)
    simp [Entries.nameIn] at other

/-- An entry of the sequence after the presets behind the deleted one were counted down. -/
def lowered (index : Int) (cell : Int × Int) : Int × Int :=
  (if index < cell.1 then cell.1 - 1 else cell.1, cell.2)

/-- The second loop of a deletion counts down the entries and leaves the times. -/
theorem cells_lower {index : Int} :
    (loop 0 limits.maxSequence (lowerEntry page index) entries).cells page limits.maxSequence =
      (entries.cells page limits.maxSequence).map (lowered index) := by
  have times : (loop 0 limits.maxSequence (lowerEntry page index) entries).time = entries.time := by
    apply loop_keeps (fun now : Entries => now.time = entries.time) rfl
    intro k now _ _ same
    unfold lowerEntry
    split
    · exact same
    · exact same
  unfold Entries.cells
  rw [List.map_map]
  apply List.map_congr_left
  intro k member
  have below := List.mem_range.mp member
  rw [lower_seq, times, Function.comp_apply, lowered]
  by_cases above : index < entries.seq (page + k)
  · rw [if_pos ⟨below, above⟩, if_pos above]
  · rw [if_neg fun both => above both.2, if_neg above]

/-- After a deletion the sequence is what the removal leaves, counted down, and the names of the
presets behind the deleted one have moved up. -/
theorem del_state (order : InOrder limits entries page presets members) (inside : i < presets)
    {preset : Preset} (at_page : pageOf preset.streamid = page)
    (named : entries.nameIn page i = preset.name) :
    (del limits entries preset).cells page limits.maxSequence =
      (takeOutAll (fun cell => decide (cell.1 = (i + 1 : Int)))
        (entries.seq (page + limits.maxSequence), entries.time (page + limits.maxSequence))
        (entries.cells page limits.maxSequence)).map (lowered (i + 1)) ∧
    ∀ k < presets - 1,
      (del limits entries preset).nameIn page k =
        entries.nameIn page (if k < i then k else k + 1) := by
  have fits := order.presets_le
  obtain ⟨found, result, index⟩ := search_found order inside
  rw [named] at result
  unfold del
  rw [at_page]
  dsimp only
  rw [result]
  dsimp only
  rw [index]
  let cleared : Entries :=
    { entries with id := Function.update entries.id (page + i) Preset.cleared.text }
  let dropped := loop 0 limits.maxSequence (dropEntry limits page (i + 1)) cleared
  let down := loop 0 limits.maxSequence (lowerEntry page (i + 1)) dropped
  have texts : down.id = cleared.id :=
    (@lower_frame limits dropped page (i + 1)).2.trans (@drop_frame limits cleared page (i + 1)).2
  have slots : ∀ k : Nat, down.preset page k =
      if k = i then Preset.cleared.text else entries.preset page k := by
    intro k
    rw [Entries.preset, texts]
    exact slot_update entries.id page i k _
  have start : NamesMoving limits entries down page presets i (i + 1) (down, i) := by
    refine ⟨rfl, rfl, by dsimp only; omega, fun k early => ?_, fun k late _ => ?_⟩
    · dsimp only at early
      rw [if_pos early, Entries.nameIn, slots, if_neg (by omega)]
      rfl
    · dsimp only
      rw [slots, if_neg (by omega)]
  have moved := loop_inv (NamesMoving limits entries down page presets i)
    (show i + 1 ≤ limits.maxEptzpreset by omega) start
    fun n state later below moving => moving.round order inside (by omega) below
  have place := moved.place
  constructor
  · have cells : ∀ after : Entries, after.seq = down.seq → after.time = down.time →
        after.cells page limits.maxSequence = down.cells page limits.maxSequence := by
      intro after seq time
      unfold Entries.cells
      rw [seq, time]
    rw [cells _ moved.seq moved.time]
    exact cells_lower.trans (congrArg _ cells_drop)
  · intro k below
    exact moved.moved k (by omega)

end Names

/-! ## The tour -/

section Tour

variable {limits : Limits} {entries after : Entries} {page : Int} {presets members i : Nat}

/-- An entry of the sequence is zero or the number of a preset. -/
theorem InOrder.cell_cases (order : InOrder limits entries page presets members) {cell : Int × Int}
    (member : cell ∈ entries.cells page limits.maxSequence) :
    cell.1 = 0 ∨ 1 ≤ cell.1 ∧ cell.1 ≤ presets := by
  obtain ⟨k, below, rfl⟩ := List.mem_map.mp member
  rcases Nat.lt_or_ge k members with within | behind
  · exact .inr (order.member k within)
  · exact .inl (order.rest k behind (List.mem_range.mp below))

/-- The name that is shown for the number of a preset. -/
theorem shown_eq {value time : Int} {k : Nat} (number : value = k + 1) :
    entries.shown page (value, time) = (some (entries.nameIn page k), time) := by
  have slot : page + (value - 1) = page + k := by omega
  rw [Entries.shown, if_neg (show ¬(value, time).1 = 0 by dsimp only; omega), slot]
  rfl

/-- Nothing is shown for an empty entry only. -/
theorem shown_lowered_none {index : Int} (positive : 1 ≤ index) (cell : Int × Int) :
    (after.shown page (lowered index cell)).1 = none ↔ cell.1 = 0 := by
  unfold Entries.shown lowered
  dsimp only
  split <;> split <;> simp <;> omega

/-- An entry that is neither empty nor the preset with an index. -/
def stays (index : Int) (cell : Int × Int) : Bool := decide (cell.1 ≠ 0 ∧ cell.1 ≠ index)

/-- An entry is left without the preset exactly when it is neither empty nor the preset. -/
theorem InOrder.shown_left (order : InOrder limits entries page presets members)
    (inside : i < presets) {cell : Int × Int}
    (member : cell ∈ entries.cells page limits.maxSequence) :
    ((entries.shown page cell).1 ≠ none ∧
      (entries.shown page cell).1 ≠ some (entries.nameIn page i)) ↔
      cell.1 ≠ 0 ∧ cell.1 ≠ i + 1 := by
  obtain ⟨value, time⟩ := cell
  rcases order.cell_cases member with zero | ⟨positive, most⟩
  · dsimp only at zero
    simp [Entries.shown, zero]
  · dsimp only at positive most ⊢
    obtain ⟨k, number⟩ : ∃ k : Nat, value = k + 1 := ⟨(value - 1).toNat, by omega⟩
    rw [shown_eq number]
    constructor
    · rintro ⟨-, other⟩
      refine ⟨by omega, fun same => other ?_⟩
      rw [show k = i by omega]
    · rintro ⟨-, other⟩
      refine ⟨by simp, fun same => other ?_⟩
      have same := order.distinct k (by omega) i inside (Option.some_inj.mp same)
      omega

/-- An entry that is left shows the same after the presets have moved up. -/
theorem InOrder.shown_same (order : InOrder limits entries page presets members)
    (inside : i < presets)
    (names : ∀ k < presets - 1, after.nameIn page k =
      entries.nameIn page (if k < i then k else k + 1))
    {cell : Int × Int} (member : cell ∈ entries.cells page limits.maxSequence)
    (other : cell.1 ≠ i + 1) :
    after.shown page (lowered (i + 1) cell) = entries.shown page cell := by
  obtain ⟨value, time⟩ := cell
  dsimp only at other
  unfold lowered
  dsimp only
  rcases order.cell_cases member with zero | ⟨positive, most⟩
  · dsimp only at zero
    rw [zero, if_neg (by omega)]
    simp [Entries.shown]
  · dsimp only at positive most
    obtain ⟨k, number⟩ : ∃ k : Nat, value = k + 1 := ⟨(value - 1).toNat, by omega⟩
    rw [shown_eq number]
    by_cases behind : (i + 1 : Int) < value
    · obtain ⟨j, rfl⟩ : ∃ j, k = j + 1 := ⟨k - 1, by omega⟩
      rw [if_pos behind, shown_eq (show value - 1 = j + 1 by omega), names j (by omega),
        if_neg (by omega)]
    · rw [if_neg behind, shown_eq number, names k (by omega), if_pos (by omega)]

/-- The entries that are left of the tour. -/
theorem InOrder.leftOver_tour (order : InOrder limits entries page presets members)
    (inside : i < presets) :
    leftOver (entries.nameIn page i) (entries.tour limits page) =
      ((entries.cells page limits.maxSequence).filter (stays (i + 1))).map (entries.shown page) := by
  unfold leftOver Entries.tour
  rw [List.filter_map]
  congr 1
  apply List.filter_congr
  intro cell member
  exact decide_eq_decide.mpr (order.shown_left inside member)

/-- With the default time in its empty entries the sequence is its members and empty entries. -/
theorem InOrder.filter_cells (order : InOrder limits entries page presets members)
    (times : ∀ k < limits.maxSequence, entries.seq (page + k) = 0 →
      entries.time (page + k) = limits.seqTimeDef) (index : Int) (positive : 1 ≤ index) :
    ∃ count, (entries.cells page limits.maxSequence).filter (fun cell => !decide (cell.1 = index)) =
      (entries.cells page limits.maxSequence).filter (stays index) ++
        List.replicate count (0, limits.seqTimeDef) := by
  have fits := order.members_le
  have split : limits.maxSequence = members + (limits.maxSequence - members) := by omega
  have rest : ((List.range (limits.maxSequence - members)).map (members + ·)).map
      (fun k : Nat => (entries.seq (page + k), entries.time (page + k))) =
      List.replicate (limits.maxSequence - members) (0, limits.seqTimeDef) := by
    apply List.eq_replicate_iff.mpr
    refine ⟨by simp, fun cell member => ?_⟩
    obtain ⟨k, among, rfl⟩ := List.mem_map.mp member
    obtain ⟨j, below, rfl⟩ := List.mem_map.mp among
    have small := List.mem_range.mp below
    have zero := order.rest (members + j) (by omega) (by omega)
    rw [zero, times (members + j) (by omega) zero]
  have members_left : ∀ cell ∈ (List.range members).map
      (fun k : Nat => (entries.seq (page + k), entries.time (page + k))),
      (!decide (cell.1 = index)) = stays index cell := by
    intro cell member
    obtain ⟨k, below, rfl⟩ := List.mem_map.mp member
    have bounds := (order.member k (List.mem_range.mp below)).1
    unfold stays
    dsimp only
    rw [← decide_not]
    exact decide_eq_decide.mpr ⟨fun other => ⟨by omega, other⟩, fun both => both.2⟩
  have filler : (!decide ((0, limits.seqTimeDef).1 = index)) = true ∧
      stays index (0, limits.seqTimeDef) = false := by
    unfold stays
    dsimp only
    rw [decide_eq_false (by omega)]
    simp
  refine ⟨limits.maxSequence - members, ?_⟩
  unfold Entries.cells
  rw [split, List.range_add, List.map_append, ← split, rest, List.filter_append, List.filter_append,
    List.filter_congr members_left,
    List.filter_replicate_of_pos (p := fun cell : Int × Int => !decide (cell.1 = index)) filler.1,
    List.filter_replicate_of_neg (by simp [filler.2]), List.append_nil]

/-- There are as many entries in the tour as in the sequence. -/
@[simp] theorem length_tour : (entries.tour limits page).length = limits.maxSequence := by
  rw [Entries.tour, List.length_map, length_cells]

/-- What is shown of an empty entry. -/
theorem shown_lowered_empty {index : Int} (positive : 1 ≤ index) (time : Int) :
    after.shown page (lowered index (0, time)) = (none, time) := by
  rw [lowered, if_neg (by dsimp only; omega)]
  rfl

/-- Under the condition a deletion keeps the tour. -/
theorem InOrder.keepsTour (order : InOrder limits entries page presets members)
    (inside : i < presets) {preset : Preset} (at_page : pageOf preset.streamid = page)
    (named : entries.nameIn page i = preset.name) (meets : TourMeets limits entries page i) :
    KeepsTour limits entries preset := by
  obtain ⟨cells, names⟩ := del_state order inside at_page named
  have positive : (1 : Int) ≤ i + 1 := by omega
  have taken := cells_drop.symm.trans (cells_drop_eq positive fun k below here =>
    ⟨(meets.2 k below here.symm).1, (meets.2 k below here.symm).2.2.symm⟩)
  obtain ⟨free, split⟩ := order.filter_cells meets.1 (i + 1) positive
  rw [taken, split] at cells
  generalize found : (entries.cells page limits.maxSequence).countP
    (fun cell => decide (cell.1 = (i + 1 : Int))) = count at cells
  have behind : List.replicate count (entries.seq (page + limits.maxSequence),
      entries.time (page + limits.maxSequence)) =
      List.replicate count (0, limits.seqTimeDef) := by
    rcases Nat.eq_zero_or_pos count with none | some
    · rw [none, List.replicate_zero, List.replicate_zero]
    · rw [← found] at some
      obtain ⟨cell, member, here⟩ := List.countP_pos_iff.mp some
      obtain ⟨k, below, rfl⟩ := List.mem_map.mp member
      obtain ⟨zero, time, -⟩ := meets.2 k (List.mem_range.mp below) (of_decide_eq_true here)
      rw [zero, time]
  have shown : ((entries.cells page limits.maxSequence).filter (stays (i + 1))).map
      ((del limits entries preset).shown page ∘ lowered (i + 1)) =
      ((entries.cells page limits.maxSequence).filter (stays (i + 1))).map
        (entries.shown page) := by
    apply List.map_congr_left
    intro cell member
    obtain ⟨among, left⟩ := List.mem_filter.mp member
    exact order.shown_same inside names among (of_decide_eq_true left).2
  have tour : (del limits entries preset).tour limits page =
      leftOver preset.name (entries.tour limits page) ++
        List.replicate (free + count) (none, limits.seqTimeDef) := by
    rw [Entries.tour, cells, behind, List.append_assoc, List.replicate_append_replicate,
      List.map_map, List.map_append, shown, ← order.leftOver_tour inside, named,
      List.map_replicate, Function.comp_apply, shown_lowered_empty positive]
  have length := congrArg List.length tour
  rw [length_tour, List.length_append, List.length_replicate] at length
  unfold KeepsTour
  dsimp only
  rw [at_page, tour]
  congr 2
  omega

end Tour

/-! ## What follows from a tour that is kept -/

section Kept

variable {limits : Limits} {entries after : Entries} {page index time : Int} {behind : Int × Int}
  {cells : List (Int × Int)}

/-- The removal of an index leaves what is asked of a tour. -/
def Leaves (entries after : Entries) (page index time : Int) (behind : Int × Int)
    (cells : List (Int × Int)) : Prop :=
  (takeOutAll (fun cell => decide (cell.1 = index)) behind cells).map
      (after.shown page ∘ lowered index) =
    (cells.filter (stays index)).map (entries.shown page) ++
      List.replicate (cells.length - (cells.filter (stays index)).length) (none, time)

/-- No empty entry is left with another time. -/
theorem Leaves.time_left (leaves : Leaves entries after page index time behind cells)
    (positive : 1 ≤ index) {cell : Int × Int}
    (member : cell ∈ takeOutAll (fun cell => decide (cell.1 = index)) behind cells)
    (empty : cell.1 = 0) : cell.2 = time := by
  have image := List.mem_map_of_mem (f := after.shown page ∘ lowered index) member
  rw [leaves] at image
  have nothing : ((after.shown page ∘ lowered index) cell).1 = none :=
    (shown_lowered_none positive cell).mpr empty
  rcases List.mem_append.mp image with among | filler
  · obtain ⟨other, found, same⟩ := List.mem_map.mp among
    have solid := (of_decide_eq_true (List.mem_filter.mp found).2).1
    rw [← same, Entries.shown, if_neg solid] at nothing
    cases nothing
  · exact congrArg Prod.snd (List.eq_of_mem_replicate filler)

/-- What lies behind the sequence is empty and has the default time if something is taken out. -/
theorem Leaves.behind_empty (leaves : Leaves entries after page index time behind cells)
    (positive : 1 ≤ index) (occurs : ∃ cell ∈ cells, decide (cell.1 = index) = true) :
    behind = (0, time) := by
  have last := getLast?_takeOutAll behind occurs
  have shorter : (cells.filter (stays index)).length < cells.length := by
    obtain ⟨cell, member, found⟩ := occurs
    apply List.length_filter_lt_length_iff_exists.mpr
    refine ⟨cell, member, fun left => ?_⟩
    exact (of_decide_eq_true left).2 (of_decide_eq_true found)
  have empty : behind.1 = 0 := by
    have ends := congrArg List.getLast? leaves
    rw [List.getLast?_map, last, Option.map_some, List.getLast?_append, List.getLast?_replicate,
      if_neg (by omega), Option.some_or] at ends
    apply (shown_lowered_none positive behind).mp
    exact congrArg Prod.fst (Option.some_inj.mp ends)
  have default_time := leaves.time_left positive (List.mem_of_getLast? last) empty
  exact Prod.ext empty default_time

/-- An empty entry with another time. -/
def stale (time : Int) (cell : Int × Int) : Bool := decide (cell.1 = 0 ∧ cell.2 ≠ time)

/-- The empty entries had the default time before. -/
theorem Leaves.time_before (leaves : Leaves entries after page index time behind cells)
    (positive : 1 ≤ index) {cell : Int × Int} (member : cell ∈ cells) (empty : cell.1 = 0) :
    cell.2 = time := by
  by_cases occurs : ∃ cell ∈ cells, decide (cell.1 = index) = true
  · by_contra other
    have unchanged : (takeOutAll (fun cell => decide (cell.1 = index)) behind cells).filter
        (stale time) = cells.filter (stale time) := by
      apply filter_takeOutAll
      · intro cell found
        have here := of_decide_eq_true found
        exact decide_eq_false fun both => by omega
      · simp [stale, leaves.behind_empty positive occurs]
    have selected : cell ∈ cells.filter (stale time) :=
      List.mem_filter.mpr ⟨member, decide_eq_true ⟨empty, other⟩⟩
    rw [← unchanged] at selected
    exact other (leaves.time_left positive (List.mem_filter.mp selected).1 empty)
  · apply leaves.time_left positive _ empty
    rw [takeOutAll_absent fun cell among => Bool.eq_false_iff.mpr fun found =>
      occurs ⟨cell, among, found⟩]
    exact member

/-- As many entries are left that are not empty as there were others before. -/
theorem Leaves.length_left (leaves : Leaves entries after page index time behind cells)
    (positive : 1 ≤ index) :
    ((takeOutAll (fun cell => decide (cell.1 = index)) behind cells).filter
      fun cell => decide (cell.1 ≠ 0)).length = (cells.filter (stays index)).length := by
  have shown := congrArg (List.filter fun entry => decide (entry.1 ≠ none)) leaves
  have left : ((cells.filter (stays index)).map (entries.shown page)).filter
      (fun entry => decide (entry.1 ≠ none)) =
      (cells.filter (stays index)).map (entries.shown page) := by
    apply List.filter_eq_self.mpr
    intro entry member
    obtain ⟨cell, among, rfl⟩ := List.mem_map.mp member
    have solid := (of_decide_eq_true (List.mem_filter.mp among).2).1
    rw [Entries.shown, if_neg solid]
    rfl
  have same : ((fun entry : Option (List UInt8) × Int => decide (entry.1 ≠ none)) ∘
      (after.shown page ∘ lowered index)) = fun cell => decide (cell.1 ≠ 0) := by
    funext cell
    exact decide_eq_decide.mpr (not_congr (shown_lowered_none positive cell))
  rw [List.filter_append, left, List.filter_replicate_of_neg (by simp), List.append_nil,
    List.filter_map, same] at shown
  have lengths := congrArg List.length shown
  rw [List.length_map, List.length_map] at lengths
  exact lengths

/-- The preset did not occur twice in a row. -/
theorem Leaves.apart (leaves : Leaves entries after page index time behind cells)
    (positive : 1 ≤ index) : Apart (fun cell => decide (cell.1 = index)) cells := by
  intro k first second at_k next found
  by_contra again
  obtain ⟨cell, member, here⟩ := takeOutAll_adjacent (fun cell => decide (cell.1 = index)) behind
    at_k next found (eq_true_of_ne_false again)
  have unchanged : (takeOutAll (fun cell => decide (cell.1 = index)) behind cells).filter
      (stays index) = cells.filter (stays index) := by
    apply filter_takeOutAll
    · intro cell found
      exact decide_eq_false fun both => both.2 (of_decide_eq_true found)
    · simp [stays, leaves.behind_empty positive ⟨first, List.mem_of_getElem? at_k, found⟩]
  have lengths := leaves.length_left positive
  rw [← unchanged] at lengths
  have both : (takeOutAll (fun cell => decide (cell.1 = index)) behind cells).filter (stays index) =
      ((takeOutAll (fun cell => decide (cell.1 = index)) behind cells).filter
        fun cell => decide (cell.1 ≠ 0)).filter fun cell => decide (cell.1 ≠ index) := by
    rw [List.filter_filter]
    apply List.filter_congr
    intro cell _
    unfold stays
    rw [Bool.decide_and, Bool.and_comm]
  rw [both] at lengths
  have all := List.length_filter_eq_length_iff.mp lengths.symm
  have value := of_decide_eq_true here
  have other := all cell (List.mem_filter.mpr ⟨member, decide_eq_true (by omega)⟩)
  exact of_decide_eq_true other value

/-- A deletion that keeps the tour meets the condition. -/
theorem InOrder.tourMeets {presets members i : Nat}
    (order : InOrder limits entries page presets members) (inside : i < presets) {preset : Preset}
    (at_page : pageOf preset.streamid = page) (named : entries.nameIn page i = preset.name)
    (keeps : KeepsTour limits entries preset) : TourMeets limits entries page i := by
  obtain ⟨after_cells, -⟩ := del_state order inside at_page named
  have positive : (1 : Int) ≤ i + 1 := by omega
  have leaves : Leaves entries (del limits entries preset) page (i + 1) limits.seqTimeDef
      (entries.seq (page + limits.maxSequence), entries.time (page + limits.maxSequence))
      (entries.cells page limits.maxSequence) := by
    unfold KeepsTour at keeps
    dsimp only at keeps
    rw [at_page, ← named, order.leftOver_tour inside, Entries.tour, after_cells, List.map_map,
      List.length_map] at keeps
    rw [Leaves, length_cells]
    exact keeps
  constructor
  · intro k below empty
    exact leaves.time_before positive (List.mem_of_getElem? (getElem?_cells below)) empty
  · intro k below here
    have behind := leaves.behind_empty positive
      ⟨_, List.mem_of_getElem? (getElem?_cells below), decide_eq_true here⟩
    have zero := congrArg Prod.fst behind
    refine ⟨zero, congrArg Prod.snd behind, fun again => ?_⟩
    rcases Nat.lt_or_eq_of_le (Nat.succ_le_of_lt below) with more | last
    · have other := leaves.apart positive k _ _ (getElem?_cells below) (getElem?_cells more)
        (decide_eq_true here)
      exact of_decide_eq_false other again
    · have end_k : k + 1 = limits.maxSequence := last
      rw [end_k] at again
      dsimp only at zero
      omega

end Kept

/-- The deletion of a preset of a table in order keeps the tour exactly when the empty entries have
the default time and, if the preset is in the sequence, it does not occur twice in a row and what
lies behind the sequence is an empty entry with the default time. -/
theorem del_keeps_tour {limits : Limits} {entries : Entries} {preset : Preset}
    {presets members slot : Nat}
    (order : InOrder limits entries (pageOf preset.streamid) presets members)
    (inside : slot < presets) (named : entries.nameIn (pageOf preset.streamid) slot = preset.name) :
    KeepsTour limits entries preset ↔ TourMeets limits entries (pageOf preset.streamid) slot :=
  ⟨order.tourMeets inside rfl named, order.keepsTour inside rfl named⟩

/-- Stream 1 with the presets `a` and `b` and a sequence of two entries of five seconds. -/
def twoPresets (first second : Int) : Entries where
  id k := if k = 0 then ascii "1:1:10:0:0:00000000:a" else
    if k = 1 then ascii "1:2:10:0:0:00000000:b" else ascii "0:0:10:0:0:00000000:"
  seq k := if k = 0 then first else if k = 1 then second else 0
  time k := if k = 0 ∨ k = 1 then 5 else 10
  streamid := 1

/-- The preset `a` of stream 1. -/
def presetA : Preset := ⟨1, 0, 10, 0, 0, 0, ascii "a"⟩

/-- The tables are in order with any two members of the sequence. -/
theorem twoPresets_inOrder {first second : Int} (firstIn : 1 ≤ first ∧ first ≤ 2)
    (secondIn : 1 ≤ second ∧ second ≤ 2) : InOrder smallLimits (twoPresets first second) 0 2 2 where
  presets_le := Nat.le_refl 2
  named := show ∀ i < 2, (twoPresets 1 2).nameIn 0 i ≠ [] by decide
  distinct := show ∀ i < 2, ∀ j < 2,
    (twoPresets 1 2).nameIn 0 i = (twoPresets 1 2).nameIn 0 j → i = j by decide
  indexed := show ∀ i < 2, (twoPresets 1 2).indexIn 0 i = some (i + 1 : Int) by decide
  unnamed i behind below := absurd below (Nat.not_lt.mpr behind)
  members_le := Nat.le_refl 2
  member := by
    intro i below
    rcases Nat.lt_or_ge i 1 with early | late
    · rw [show i = 0 by omega]
      exact firstIn
    · rw [show i = 1 by omega]
      exact secondIn
  rest i behind below := absurd below (Nat.not_lt.mpr behind)

/-- The tour of `a` and `b` without `a`. -/
theorem del_keeps_tour_first : KeepsTour smallLimits (twoPresets 1 2) presetA :=
  (del_keeps_tour (twoPresets_inOrder (by decide) (by decide)) (show 0 < 2 by decide)
    (show (twoPresets 1 2).nameIn 0 0 = ascii "a" by decide)).mpr (by
    refine ⟨?_, ?_⟩
    · decide
    · decide)

/-- The second of two entries of the deleted preset stays in the tour. -/
theorem del_leaves_second :
    InOrder smallLimits (twoPresets 1 1) 0 2 2 ∧
      (twoPresets 1 1).nameIn 0 0 = presetA.name ∧
      ¬KeepsTour smallLimits (twoPresets 1 1) presetA := by
  have order : InOrder smallLimits (twoPresets 1 1) 0 2 2 :=
    twoPresets_inOrder (by decide) (by decide)
  have named : (twoPresets 1 1).nameIn 0 0 = presetA.name := by decide
  refine ⟨order, named, fun keeps => ?_⟩
  have meets := order.tourMeets (show 0 < 2 by decide) (show pageOf presetA.streamid = 0 by decide)
    named keeps
  exact (meets.2 0 (by decide) rfl).2.2 rfl

end BoaIpcam.Eptz
