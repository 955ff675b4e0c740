import BoaIpcam.Ptz.Eptz
import BoaIpcam.Lib.Run

/-!
# The tables of presets stay in order

What is asked of the tables of the streams, when a request keeps it, and that it does then. The
presets of a page are described by a list of presets whose texts are in its first slots, and the
sequence by a list of numbers; each action changes the lists by one operation.
-/
namespace BoaIpcam.Eptz

open TransitionSystem Tables

/-! ## What is asked -/

/-- The name that is read of a slot of a page. -/
def Entries.nameIn (entries : Entries) (page : Int) (i : Nat) : List UInt8 :=
  (scanFields 6 (entries.preset page i)).2

/-- The index that is read of a slot of a page. -/
def Entries.indexIn (entries : Entries) (page : Int) (i : Nat) : Option Int :=
  (scanFields 6 (entries.preset page i)).1[1]?

/-- The page has presets with different names in its first slots, each with the number of its slot
as its index, and a sequence of these numbers in its first slots. -/
structure InOrder (limits : Limits) (entries : Entries) (page : Int) (presets members : Nat) :
    Prop where
  /-- There is room for the presets. -/
  presets_le : presets ≤ limits.maxEptzpreset
  /-- A preset has a name. -/
  named : ∀ i < presets, entries.nameIn page i ≠ []
  /-- The names are different. -/
  distinct : ∀ i < presets, ∀ j < presets, entries.nameIn page i = entries.nameIn page j → i = j
  /-- A preset has the number of its slot. -/
  indexed : ∀ i < presets, entries.indexIn page i = some (i + 1 : Int)
  /-- The other slots have no name. -/
  unnamed : ∀ i, presets ≤ i → i < limits.maxEptzpreset → entries.nameIn page i = []
  /-- There is room for the members. -/
  members_le : members ≤ limits.maxSequence
  /-- A member is the number of a preset. -/
  member : ∀ i < members, 1 ≤ entries.seq (page + i) ∧ entries.seq (page + i) ≤ presets
  /-- Behind the members there are zeros. -/
  rest : ∀ i, members ≤ i → i < limits.maxSequence → entries.seq (page + i) = 0

/-- The number of a stream. -/
def IsStream (limits : Limits) (stream : Int) : Prop :=
  1 ≤ stream ∧ stream ≤ limits.maxWebProfileNum

instance (limits : Limits) (stream : Int) : Decidable (IsStream limits stream) :=
  inferInstanceAs (Decidable (_ ∧ _))

/-- An entry outside the page of a stream. -/
def Outside (stream k : Int) : Prop := k < pageOf stream ∨ pageOf stream + 20 ≤ k

/-- The stream that a request is for: the one it names, or the one that was selected before. -/
def EptzRequest.stream (req : EptzRequest) (entries : Entries) : Int :=
  (req.select entries).streamid

/-- After the request the tables of every stream are in order, and the entries outside the page of
its stream are unchanged. -/
def Kept (limits : Limits) (entries : Entries) (req : EptzRequest) : Prop :=
  (∀ stream, IsStream limits stream →
    ∃ presets members, InOrder limits (req.run limits entries) (pageOf stream) presets members) ∧
  ∀ k, Outside (req.stream entries) k →
    (req.run limits entries).id k = entries.id k ∧ (req.run limits entries).seq k = entries.seq k ∧
      (req.run limits entries).time k = entries.time k

/-- When a preset with an index can be taken out of the sequence: if it occurs, it does not occur
twice in a row, and the entry behind the sequence is zero. -/
def TakeOutMeets (limits : Limits) (entries : Entries) (page : Int) (index : Option Int) : Prop :=
  ∀ k < limits.maxSequence, index = some (entries.seq (page + k)) →
    entries.seq (page + limits.maxSequence) = 0 ∧
      index ≠ some (entries.seq (page + (k + 1 : Nat)))

instance (limits : Limits) (entries : Entries) (page : Int) (index : Option Int) :
    Decidable (TakeOutMeets limits entries page index) :=
  inferInstanceAs (Decidable (∀ k < limits.maxSequence, _ → _))

/-- When the deletion of a preset keeps the tables: the name is not empty, and the preset can be
taken out of the sequence. -/
def DelMeets (limits : Limits) (entries : Entries) (page : Int) (name : List UInt8) : Prop :=
  ∀ i < limits.maxEptzpreset, entries.nameIn page i = name →
    name ≠ [] ∧ TakeOutMeets limits entries page (entries.indexIn page i)

/-- When the renaming of a preset keeps the tables: neither name is empty, and no other preset has
the new one. -/
def ModifyMeets (limits : Limits) (entries : Entries) (page : Int) (name rename : List UInt8) :
    Prop :=
  ∀ i < limits.maxEptzpreset, entries.nameIn page i = name →
    name ≠ [] ∧ rename ≠ [] ∧
      ∀ j < limits.maxEptzpreset, j ≠ i → entries.nameIn page j ≠ rename

instance (limits : Limits) (entries : Entries) (page : Int) (name : List UInt8) :
    Decidable (DelMeets limits entries page name) :=
  inferInstanceAs (Decidable (∀ i < limits.maxEptzpreset, _ → _))

instance (limits : Limits) (entries : Entries) (page : Int) (name rename : List UInt8) :
    Decidable (ModifyMeets limits entries page name rename) :=
  inferInstanceAs (Decidable (∀ i < limits.maxEptzpreset, _ → _))

/-- When an addition to the sequence keeps the tables: the name is not empty, or there is no preset
without a name, or no room. -/
def SeqAddMeets (limits : Limits) (entries : Entries) (page : Int) (name : List UInt8) : Prop :=
  name ≠ [] ∨ (∀ i < limits.maxSequence, entries.nameIn page i ≠ []) ∨
    ∀ k < limits.maxSequence, entries.seq (page + k) ≠ 0

/-- When a move in the sequence keeps the tables: upwards, when the entry is not the first behind
the sequence; downwards, when there is an entry behind it or the one behind the table is zero. -/
def SeqModifyMeets (limits : Limits) (entries : Entries) (page seqIdx : Int) : Direction → Prop
  | .up => seqIdx = 0 ∨ entries.seq (page + seqIdx) ≠ 0 ∨ entries.seq (page + (seqIdx - 1)) = 0
  | .down => seqIdx + 1 < limits.maxSequence ∨ entries.seq (page + (seqIdx + 1)) = 0
  | .other => True

/-- When a request that passes the range checks keeps the tables. Additions and deletions must name
the stream. An index must not be negative. -/
def Meets (limits : Limits) (entries : Entries) (req : EptzRequest) : Prop :=
  let now := req.select entries
  let page := pageOf now.streamid
  req.inRange limits →
    match req.action with
    | .add => 1 ≤ req.streamidValue
    | .del => 1 ≤ req.streamidValue ∧ DelMeets limits now page req.name
    | .modify => IsStream limits now.streamid ∧ ModifyMeets limits now page req.name req.rename
    | .seqAdd => IsStream limits now.streamid ∧ SeqAddMeets limits now page req.name
    | .seqDel => IsStream limits now.streamid ∧ 0 ≤ req.seqIdx
    | .seqUpdate => IsStream limits now.streamid ∧ 0 ≤ req.seqIdx
    | .seqModify =>
      IsStream limits now.streamid ∧ 0 ≤ req.seqIdx ∧
        SeqModifyMeets limits now page req.seqIdx req.direction
    | .other => True

/-! ## Texts that are read again -/

/-- A preset whose text is read as it was written: its numbers are of type `int`, and it has a
name without white space. -/
structure Preset.Proper (preset : Preset) : Prop where
  /-- The stream is an `int`. -/
  streamid : IsInt preset.streamid
  /-- The number is an `int`. -/
  index : IsInt preset.index
  /-- The time is an `int`. -/
  seqTime : IsInt preset.seqTime
  /-- The zoom is an `int`. -/
  zoom : IsInt preset.zoom
  /-- The focus is an `int`. -/
  focus : IsInt preset.focus
  /-- The position is an `int`. -/
  position : IsInt preset.position
  /-- The name has no white space. -/
  solid : Solid preset.name
  /-- There is a name. -/
  named : preset.name ≠ []

/-- A number and a colon are read. -/
theorem scanFields_succ {count : Nat} {text rest : List UInt8} {value : Int}
    (read : scanInt text = some (value, 58 :: rest)) :
    scanFields (count + 1) text = (value :: (scanFields count rest).1, (scanFields count rest).2) := by
  have colon : scanChar 58 (58 :: rest) = some rest := rfl
  simp only [scanFields, read, colon]

/-- The text of a proper preset is read as it was written. -/
theorem Preset.Proper.scanFields_text {preset : Preset} (proper : preset.Proper) :
    scanFields 6 preset.text =
      ([preset.streamid, preset.index, preset.seqTime, preset.zoom, preset.focus,
        preset.position], preset.name) := by
  have colon : ∀ rest : List UInt8, NoDigit (58 :: rest) := by
    intro rest c first
    cases first
    rfl
  rw [Preset.text, scanFields_succ (scanInt_intText proper.streamid (colon _)),
    scanFields_succ (scanInt_intText proper.index (colon _)),
    scanFields_succ (scanInt_intText proper.seqTime (colon _)),
    scanFields_succ (scanInt_intText proper.zoom (colon _)),
    scanFields_succ (scanInt_intText proper.focus (colon _)),
    scanFields_succ (scanInt_intText8 proper.position (colon _))]
  simp only [scanFields, scanWord_solid proper.solid, if_neg proper.named, Option.getD_some]

/-- So are the variables. -/
theorem Preset.Proper.scan_text {preset : Preset} (proper : preset.Proper) (before : Preset) :
    before.scan preset.text = preset := by
  simp only [Preset.scan, proper.scanFields_text]
  rfl

/-- A search stops at the first slot with the name, with what is read of it in the variables; or
there is none, and the index in the variables was read of a slot or is the one before. -/
theorem search_cases (read : Nat → List UInt8) (name : List UInt8) (start : Preset)
    (slots : List Nat) :
    (∃ i before, slots.find? (fun i => (scanFields 6 (read i)).2 = name) = some i ∧
      search read name start slots = (some i, Preset.scan (read i) before)) ∨
    (slots.find? (fun i => (scanFields 6 (read i)).2 = name) = none ∧ ∃ last,
      search read name start slots = (none, last) ∧
      (last.index = start.index ∨ ∃ i ∈ slots, (scanFields 6 (read i)).1[1]? = some last.index)) := by
  induction slots generalizing start with
  | nil => exact .inr ⟨rfl, start, rfl, .inl rfl⟩
  | cons i slots ih =>
    by_cases here : (scanFields 6 (read i)).2 = name
    · left
      refine ⟨i, start, by rw [List.find?_cons_of_pos (by simpa using here)], ?_⟩
      exact if_pos here
    · have step : search read name start (i :: slots) =
          search read name (start.scan (read i)) slots := if_neg here
      rw [step, List.find?_cons_of_neg (by simpa using here)]
      rcases ih (start.scan (read i)) with found | ⟨missing, last, result, index⟩
      · exact .inl found
      refine .inr ⟨missing, last, result, ?_⟩
      rcases index with same | ⟨j, member, from_j⟩
      · cases second : (scanFields 6 (read i)).1[1]? with
        | none =>
          left
          rw [same]
          simp [Preset.scan, List.getD, second]
        | some value =>
          right
          refine ⟨i, List.mem_cons_self, ?_⟩
          rw [second, same]
          simp [Preset.scan, List.getD, second]
      · exact .inr ⟨j, List.mem_cons_of_mem _ member, from_j⟩

/-! ## Lists of presets -/

/-- The slots of a page hold the texts of the presets: proper presets with different names, each
with its place as its index. -/
structure PresetsHold (limits : Limits) (read : Nat → List UInt8) (presets : List Preset) :
    Prop where
  /-- There is room for the presets. -/
  presets_le : presets.length ≤ limits.maxEptzpreset
  /-- The first slots have their texts. -/
  texts : Filled Nameless read 20 (presets.map Preset.text)
  /-- Each of them is proper. -/
  proper : ∀ preset ∈ presets, preset.Proper
  /-- A preset has the number of its slot. -/
  indexed : ∀ (i : Nat) preset, presets[i]? = some preset → preset.index = (i + 1 : Int)
  /-- The names are different. -/
  distinct : ∀ (i j : Nat) preset other, presets[i]? = some preset → presets[j]? = some other →
    preset.name = other.name → i = j

section Presets

variable {limits : Limits} {read next : Nat → List UInt8} {presets : List Preset} {i : Nat}
  {preset : Preset}

/-- The text in the slot of a preset is read as the preset. -/
theorem PresetsHold.scanned (holds : PresetsHold limits read presets)
    (at_i : presets[i]? = some preset) :
    scanFields 6 (read i) = ([preset.streamid, preset.index, preset.seqTime, preset.zoom,
      preset.focus, preset.position], preset.name) := by
  have text : read i = preset.text := by
    refine holds.texts.item i _ ?_
    rw [List.getElem?_map, at_i, Option.map_some]
  rw [text]
  exact (holds.proper preset (List.mem_of_getElem? at_i)).scanFields_text

/-- The slots behind the presets have no name. -/
theorem PresetsHold.nameless (holds : PresetsHold limits read presets)
    (behind : presets.length ≤ i) (inside : i < 20) : Nameless (read i) :=
  holds.texts.rest i (by simpa using behind) inside

/-- Only the slots of the page count. -/
theorem PresetsHold.congr (holds : PresetsHold limits read presets)
    (same : ∀ k < 20, next k = read k) : PresetsHold limits next presets :=
  ⟨holds.presets_le, holds.texts.congr same, holds.proper, holds.indexed, holds.distinct⟩

/-- A preset is added behind the others. -/
theorem PresetsHold.append (holds : PresetsHold limits read presets)
    (room : presets.length < limits.maxEptzpreset) (proper : preset.Proper)
    (index : preset.index = (presets.length + 1 : Int))
    (fresh : ∀ other ∈ presets, other.name ≠ preset.name)
    (new : next presets.length = preset.text)
    (same : ∀ k < 20, k ≠ presets.length → next k = read k) :
    PresetsHold limits next (presets ++ [preset]) := by
  have pages := limits.presets_le
  have length : (presets.map Preset.text).length = presets.length := List.length_map _
  have item : ∀ (k : Nat) other, (presets ++ [preset])[k]? = some other →
      presets[k]? = some other ∨ k = presets.length ∧ other = preset := by
    intro k other at_k
    by_cases before : k < presets.length
    · rw [List.getElem?_append_left before] at at_k
      exact .inl at_k
    · rw [List.getElem?_append_right (by omega), List.getElem?_singleton] at at_k
      split at at_k
      · next last =>
        cases at_k
        exact .inr ⟨by omega, rfl⟩
      · cases at_k
  refine ⟨by rw [List.length_append, List.length_singleton]; omega, ?_, ?_, ?_, ?_⟩
  · rw [List.map_append]
    refine holds.texts.append (by omega) ?_ ?_
    · rw [length]
      exact new
    · rw [length]
      exact same
  · intro other member
    rcases List.mem_append.mp member with old | last
    · exact holds.proper other old
    · rw [List.mem_singleton.mp last]
      exact proper
  · intro k other at_k
    rcases item k other at_k with old | ⟨rfl, rfl⟩
    · exact holds.indexed k other old
    · exact index
  · intro j k left right at_j at_k names
    rcases item j left at_j with old | ⟨rfl, rfl⟩
    · rcases item k right at_k with old' | ⟨rfl, rfl⟩
      · exact holds.distinct j k left right old old' names
      · exact absurd names (fresh left (List.mem_of_getElem? old))
    · rcases item k right at_k with old' | ⟨rfl, rfl⟩
      · exact absurd names.symm (fresh right (List.mem_of_getElem? old'))
      · rfl

/-- A preset is renamed. -/
theorem PresetsHold.rename (holds : PresetsHold limits read presets)
    (at_i : presets[i]? = some preset) {name : List UInt8} (solid : Solid name)
    (nonempty : name ≠ [])
    (fresh : ∀ (j : Nat) other, presets[j]? = some other → j ≠ i → other.name ≠ name)
    (new : next i = { preset with name := name }.text)
    (same : ∀ k < 20, k ≠ i → next k = read k) :
    PresetsHold limits next (presets.set i { preset with name := name }) := by
  have inside : i < presets.length := (List.getElem?_eq_some_iff.mp at_i).1
  have before := holds.proper preset (List.mem_of_getElem? at_i)
  have item : ∀ (k : Nat) other, (presets.set i { preset with name := name })[k]? = some other →
      k ≠ i ∧ presets[k]? = some other ∨ k = i ∧ other = { preset with name := name } := by
    intro k other at_k
    by_cases here : i = k
    · subst here
      rw [List.getElem?_set_self inside] at at_k
      cases at_k
      exact .inr ⟨rfl, rfl⟩
    · rw [List.getElem?_set_ne here] at at_k
      exact .inl ⟨fun same => here same.symm, at_k⟩
  refine ⟨by simpa using holds.presets_le, ?_, ?_, ?_, ?_⟩
  · rw [List.map_set]
    exact holds.texts.set new same (by simpa using inside)
  · intro other among
    rcases List.mem_or_eq_of_mem_set among with old | rfl
    · exact holds.proper other old
    · exact { before with solid := solid, named := nonempty }
  · intro k other at_k
    rcases item k other at_k with ⟨-, old⟩ | ⟨rfl, rfl⟩
    · exact holds.indexed k other old
    · exact holds.indexed k preset at_i
  · intro j k left right at_j at_k names
    rcases item j left at_j with ⟨other, old⟩ | ⟨rfl, rfl⟩
    · rcases item k right at_k with ⟨-, old'⟩ | ⟨rfl, rfl⟩
      · exact holds.distinct j k left right old old' names
      · exact absurd names (fresh j left old other)
    · rcases item k right at_k with ⟨other, old'⟩ | ⟨rfl, rfl⟩
      · exact absurd names.symm (fresh k right old' other)
      · rfl

/-- The presets without one, with their new places as their indices. -/
def erased (presets : List Preset) (i : Nat) : List Preset :=
  (presets.eraseIdx i).mapIdx fun k preset => { preset with index := (k + 1 : Int) }

/-- A preset that is left has moved up if it was behind. -/
theorem getElem?_erased {k : Nat} {other : Preset} (at_k : (erased presets i)[k]? = some other) :
    ∃ old, presets[if k < i then k else k + 1]? = some old ∧
      other = { old with index := (k + 1 : Int) } := by
  rw [erased, List.getElem?_mapIdx] at at_k
  obtain ⟨old, before, rfl⟩ := Option.map_eq_some_iff.mp at_k
  refine ⟨old, ?_, rfl⟩
  by_cases early : k < i
  · rw [List.getElem?_eraseIdx_of_lt early] at before
    rw [if_pos early]
    exact before
  · rw [List.getElem?_eraseIdx_of_ge (by omega)] at before
    rw [if_neg early]
    exact before

/-- One preset less is left. -/
theorem length_erased (inside : i < presets.length) :
    (erased presets i).length = presets.length - 1 := by
  rw [erased, List.length_mapIdx, List.length_eraseIdx_of_lt inside]

/-- A preset is taken out. -/
theorem PresetsHold.erase (holds : PresetsHold limits read presets) (inside : i < presets.length)
    (before : ∀ k < i, next k = read k)
    (moved : ∀ (k : Nat) old, i ≤ k → presets[k + 1]? = some old →
      next k = { old with index := (k + 1 : Int) }.text)
    (freed : ∀ k, presets.length ≤ k + 1 → k < 20 → Nameless (next k)) :
    PresetsHold limits next (erased presets i) := by
  have length := length_erased inside
  have fits := holds.presets_le
  have pages := limits.presets_le
  refine ⟨by omega, ⟨?_, ?_, ?_⟩, ?_, ?_, ?_⟩
  · rw [List.length_map]
    omega
  · intro k text at_k
    rw [List.getElem?_map] at at_k
    obtain ⟨other, left, rfl⟩ := Option.map_eq_some_iff.mp at_k
    obtain ⟨old, place, rfl⟩ := getElem?_erased left
    by_cases early : k < i
    · rw [if_pos early] at place
      have index := holds.indexed k old place
      have same : { old with index := (k + 1 : Int) } = old := by rw [← index]
      rw [before k early, same]
      refine holds.texts.item k _ ?_
      rw [List.getElem?_map, place, Option.map_some]
    · rw [if_neg early] at place
      exact moved k old (by omega) place
  · intro k behind below
    rw [List.length_map] at behind
    exact freed k (by omega) below
  · intro other among
    obtain ⟨k, at_k⟩ := List.mem_iff_getElem?.mp among
    obtain ⟨old, place, rfl⟩ := getElem?_erased at_k
    have small : k < (erased presets i).length := (List.getElem?_eq_some_iff.mp at_k).1
    have proper := holds.proper old (List.mem_of_getElem? place)
    have index : IsInt (k + 1 : Int) := by
      unfold IsInt
      omega
    exact { proper with index := index }
  · intro k other at_k
    obtain ⟨old, -, rfl⟩ := getElem?_erased at_k
    rfl
  · intro j k left right at_j at_k names
    obtain ⟨first, at_first, rfl⟩ := getElem?_erased at_j
    obtain ⟨second, at_second, rfl⟩ := getElem?_erased at_k
    have same := holds.distinct _ _ first second at_first at_second names
    split at same <;> split at same <;> omega

end Presets

/-! ## Lists of members of the sequence -/

/-- The slots of a page hold a sequence of presets. -/
structure SequenceHolds (limits : Limits) (read : Nat → Int) (presets : Nat)
    (sequence : List Int) : Prop where
  /-- The first slots have the members. -/
  slots : Filled (· = 0) read limits.maxSequence sequence
  /-- A member is the number of a preset. -/
  range : ∀ value ∈ sequence, 1 ≤ value ∧ value ≤ presets

/-- The tables of a page hold lists of presets and of members of the sequence. -/
structure PageHolds (limits : Limits) (entries : Entries) (page : Int) (presets : List Preset)
    (sequence : List Int) : Prop where
  /-- The table holds the presets. -/
  table : PresetsHold limits (entries.preset page) presets
  /-- The sequence holds its members. -/
  members : SequenceHolds limits (fun k => entries.seq (page + k)) presets.length sequence

section Sequence

variable {limits : Limits} {read next : Nat → Int} {presets : Nat} {sequence : List Int}

/-- Only the slots of the sequence count. -/
theorem SequenceHolds.congr (holds : SequenceHolds limits read presets sequence)
    (same : ∀ k < limits.maxSequence, next k = read k) :
    SequenceHolds limits next presets sequence :=
  ⟨holds.slots.congr same, holds.range⟩

/-- A member is added behind the others. -/
theorem SequenceHolds.append (holds : SequenceHolds limits read presets sequence)
    (room : sequence.length < limits.maxSequence) {value : Int}
    (range : 1 ≤ value ∧ value ≤ presets) (new : next sequence.length = value)
    (same : ∀ k < limits.maxSequence, k ≠ sequence.length → next k = read k) :
    SequenceHolds limits next presets (sequence ++ [value]) := by
  refine ⟨holds.slots.append room new same, fun other among => ?_⟩
  rcases List.mem_append.mp among with old | last
  · exact holds.range other old
  · rw [List.mem_singleton.mp last]
    exact range

/-- Two members are exchanged. -/
theorem SequenceHolds.exchange (holds : SequenceHolds limits read presets sequence) {i j : Nat}
    (first : i < sequence.length) (second : j < sequence.length)
    (new : ∀ k, next k = if k = j then read i else if k = i then read j else read k) :
    SequenceHolds limits next presets ((sequence.set i (read j)).set j (read i)) := by
  have member : ∀ k < sequence.length, 1 ≤ read k ∧ read k ≤ presets := by
    intro k inside
    have at_k : sequence[k]? = some sequence[k] := List.getElem?_eq_getElem inside
    rw [holds.slots.item k _ at_k]
    exact holds.range _ (List.mem_of_getElem? at_k)
  have moved : Filled (· = 0) (fun k => if k = i then read j else read k) limits.maxSequence
      (sequence.set i (read j)) :=
    holds.slots.set (if_pos rfl) (fun k _ apart => if_neg apart) first
  refine ⟨moved.set ?_ ?_ (by simpa using second), fun value among => ?_⟩
  · rw [new, if_pos rfl]
  · intro k _ apart
    rw [new, if_neg apart]
  · rcases List.mem_or_eq_of_mem_set among with among | rfl
    · rcases List.mem_or_eq_of_mem_set among with old | rfl
      · exact holds.range value old
      · exact member j second
    · exact member i first

end Sequence

/-- The entries outside a page and the selected stream are unchanged. -/
structure SameOutside (page : Int) (before after : Entries) : Prop where
  /-- The texts of other pages stay. -/
  id : ∀ k, k < page ∨ page + 20 ≤ k → after.id k = before.id k
  /-- Their sequences stay. -/
  seq : ∀ k, k < page ∨ page + 20 ≤ k → after.seq k = before.seq k
  /-- Their times stay. -/
  time : ∀ k, k < page ∨ page + 20 ≤ k → after.time k = before.time k
  /-- The selected stream stays. -/
  streamid : after.streamid = before.streamid

section Frame

variable {page : Int} {before mid after : Entries}

/-- Nothing is changed. -/
theorem SameOutside.refl (page : Int) (entries : Entries) : SameOutside page entries entries :=
  ⟨fun _ _ => rfl, fun _ _ => rfl, fun _ _ => rfl, rfl⟩

/-- Two changes in turn. -/
theorem SameOutside.trans (first : SameOutside page before mid)
    (second : SameOutside page mid after) : SameOutside page before after :=
  ⟨fun k out => (second.id k out).trans (first.id k out),
    fun k out => (second.seq k out).trans (first.seq k out),
    fun k out => (second.time k out).trans (first.time k out),
    second.streamid.trans first.streamid⟩

/-- A write inside the page is not outside. -/
theorem update_outside {α : Type} (table : Int → α) {i : Int} (value : α)
    (inside : page ≤ i ∧ i < page + 20) {k : Int} (out : k < page ∨ page + 20 ≤ k) :
    Function.update table i value k = table k :=
  Function.update_of_ne (by omega) _ _

/-- An entry of the sequence and its time are written inside the page. -/
theorem SameOutside.setEntry (entries : Entries) {i : Int} (value time : Int)
    (inside : page ≤ i ∧ i < page + 20) :
    SameOutside page entries
      { entries with
        seq := Function.update entries.seq i value
        time := Function.update entries.time i time } :=
  ⟨fun _ _ => rfl, fun _ out => update_outside _ _ inside out,
    fun _ out => update_outside _ _ inside out, rfl⟩

end Frame

end BoaIpcam.Eptz
