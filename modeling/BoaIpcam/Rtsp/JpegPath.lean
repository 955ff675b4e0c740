import BoaIpcam.Lib.Prefixes
import BoaIpcam.Rtsp.JpegScan

/-!
# What the scan looks at

The positions that the scan looks at depend on the bytes of the buffer alone. They are a path that is
followed until a DQT that fills the table and a SOF0 have been met. What the scan has found is then a
function of the positions that it looked at, and it stores inside the table when no DQT is met behind
one that stands for some bytes.
-/
namespace BoaIpcam.JpegSource

open Rounds Prefixes

variable {headerSize : Nat} {fBuffer : Nat → UInt8} {i : Nat}

/-! ## Positions -/

/-- Two bytes are a number of 16 bits. -/
theorem word_eq (fBuffer : Nat → UInt8) (offset : Nat) :
    word fBuffer offset = (fBuffer offset).toNat * 256 + (fBuffer (offset + 1)).toNat := by
  have low : (fBuffer (offset + 1)).toNat < 2 ^ 8 := UInt8.toNat_lt _
  rw [word, ← Nat.shiftLeft_add_eq_or_of_lt low, Nat.shiftLeft_eq]

/-- The length of a segment has 16 bits. -/
theorem segmentLength_lt (fBuffer : Nat → UInt8) (i : Nat) : segmentLength fBuffer i < 65536 := by
  have high := (fBuffer (i + 2)).toNat_lt
  have low := (fBuffer (i + 2 + 1)).toNat_lt
  rw [segmentLength, word_eq]
  omega

/-- Only a segment of length 3 stands for no bytes. -/
theorem filled_eq_zero {length : Nat} (bound : length < 65536) : filled length = 0 ↔ length = 3 := by
  rw [filled]
  omega

/-- The loop goes on behind the position that it looks at. -/
theorem lt_nextAt (headerSize : Nat) (fBuffer : Nat → UInt8) (i : Nat) :
    i < nextAt headerSize fBuffer i := by
  rw [nextAt]
  split_ifs <;> omega

/-- The positions from one on, each where the loop goes on behind the one before. -/
def path (headerSize : Nat) (fBuffer : Nat → UInt8) (i : Nat) : List Nat :=
  if i < headerSize - 8 then i :: path headerSize fBuffer (nextAt headerSize fBuffer i) else []
termination_by headerSize - 8 - i
decreasing_by
  have further := lt_nextAt headerSize fBuffer i
  omega

/-- The positions of a build, in case the loop ends. -/
def Build.path (build : Build) (fBuffer : Nat → UInt8) : List Nat :=
  match build with
  | .dm355 => JpegSource.path Build.dm355.headerSize fBuffer 0
  | .other =>
    0x14 :: if segmentLength fBuffer 0x14 < 584 then
      0x23e :: JpegSource.path Build.other.headerSize fBuffer 0x247
    else []

/-- The table is full and there was a SOF0. -/
def Complete (headerSize : Nat) (fBuffer : Nat → UInt8) (done : List Nat) : Prop :=
  (∃ i ∈ done, IsDqt headerSize fBuffer i ∧ filled (segmentLength fBuffer i) = 128) ∧
    ∃ i ∈ done, IsSof0 fBuffer i

instance (headerSize : Nat) (fBuffer : Nat → UInt8) : DecidablePred (Complete headerSize fBuffer) :=
  fun _ => inferInstanceAs (Decidable (_ ∧ _))

/-- The positions that a build looks at: the path up to the first position at which the search is
complete. -/
def Build.lookedAt (build : Build) (fBuffer : Nat → UInt8) : List Nat :=
  upTo (Complete build.headerSize fBuffer) [] (build.path fBuffer)

/-- The positions of the DQT segments. -/
def dqtsOf (headerSize : Nat) (fBuffer : Nat → UInt8) (done : List Nat) : List Nat :=
  done.filter fun i => IsDqt headerSize fBuffer i

/-- The position of the last SOF0. -/
def lastSof0 (fBuffer : Nat → UInt8) (done : List Nat) : Option Nat :=
  (done.filter fun i => IsSof0 fBuffer i).getLast?

/-- Every DQT that is followed by another one stands for no bytes. -/
def StoresInside (headerSize : Nat) (fBuffer : Nat → UInt8) (done : List Nat) : Prop :=
  (dqtsOf headerSize fBuffer done).Pairwise fun i _ => segmentLength fBuffer i = 3

/-- What is found at some positions. -/
def Found.after (headerSize : Nat) (fBuffer : Nat → UInt8) (start : Found) (done : List Nat) :
    Found where
  tableSize := (dqtsOf headerSize fBuffer done).getLast?.elim 0 fun i =>
    filled (segmentLength fBuffer i)
  foundSof0 := (lastSof0 fBuffer done).isSome
  table := (dqtsOf headerSize fBuffer done).getLast?.elim start.table (tablesAt fBuffer)
  height := (lastSof0 fBuffer done).elim start.height fun i => eighth fBuffer (i + 5)
  width := (lastSof0 fBuffer done).elim start.width fun i => eighth fBuffer (i + 7)
  reach := done.foldl (fun reach i => max reach (reachAt headerSize fBuffer i)) start.reach

/-- The size of the table without a DQT. -/
theorem after_tableSize_none {headerSize : Nat} {fBuffer : Nat → UInt8} {done : List Nat}
    (start : Found) (last : (dqtsOf headerSize fBuffer done).getLast? = none) :
    (Found.after headerSize fBuffer start done).tableSize = 0 := by
  have size : (Found.after headerSize fBuffer start done).tableSize =
      (dqtsOf headerSize fBuffer done).getLast?.elim 0 fun i =>
        filled (segmentLength fBuffer i) := rfl
  rw [size, last, Option.elim_none]

/-- The size of the table behind a DQT. -/
theorem after_tableSize_some {headerSize : Nat} {fBuffer : Nat → UInt8} {done : List Nat} {i : Nat}
    (start : Found) (last : (dqtsOf headerSize fBuffer done).getLast? = some i) :
    (Found.after headerSize fBuffer start done).tableSize = filled (segmentLength fBuffer i) := by
  have size : (Found.after headerSize fBuffer start done).tableSize =
      (dqtsOf headerSize fBuffer done).getLast?.elim 0 fun i =>
        filled (segmentLength fBuffer i) := rfl
  rw [size, last, Option.elim_some]

/-! ## One more position -/

/-- A DQT is the last one. -/
theorem dqtsOf_append (dqt : IsDqt headerSize fBuffer i) (done : List Nat) :
    dqtsOf headerSize fBuffer (done ++ [i]) = dqtsOf headerSize fBuffer done ++ [i] := by
  rw [dqtsOf, List.filter_append, List.filter_cons_of_pos (by simpa using dqt), List.filter_nil,
    dqtsOf]

/-- Anything else is no DQT. -/
theorem dqtsOf_append_not (noDqt : ¬ IsDqt headerSize fBuffer i) (done : List Nat) :
    dqtsOf headerSize fBuffer (done ++ [i]) = dqtsOf headerSize fBuffer done := by
  rw [dqtsOf, List.filter_append, List.filter_cons_of_neg (by simpa using noDqt), List.filter_nil,
    List.append_nil, dqtsOf]

/-- A SOF0 is the last one. -/
theorem lastSof0_append (sof0 : IsSof0 fBuffer i) (done : List Nat) :
    lastSof0 fBuffer (done ++ [i]) = some i := by
  rw [lastSof0, List.filter_append, List.filter_cons_of_pos (by simpa using sof0), List.filter_nil,
    List.getLast?_append, List.getLast?_singleton, Option.some_or]

/-- Anything else is no SOF0. -/
theorem lastSof0_append_not (noSof0 : ¬ IsSof0 fBuffer i) (done : List Nat) :
    lastSof0 fBuffer (done ++ [i]) = lastSof0 fBuffer done := by
  rw [lastSof0, List.filter_append, List.filter_cons_of_neg (by simpa using noSof0), List.filter_nil,
    List.append_nil, lastSof0]

/-- There was a SOF0 when there is a last one. -/
theorem lastSof0_isSome (done : List Nat) :
    (lastSof0 fBuffer done).isSome ↔ ∃ i ∈ done, IsSof0 fBuffer i := by
  rw [lastSof0, List.getLast?_isSome, ne_eq, List.filter_eq_nil_iff]
  simp

variable {start : Found} {done : List Nat}

/-- A table of 128 bytes stays one. -/
theorem after_table_length (full : start.table.length = 128) (done : List Nat) :
    (Found.after headerSize fBuffer start done).table.length = 128 := by
  rw [Found.after]
  cases (dqtsOf headerSize fBuffer done).getLast? with
  | none => exact full
  | some i => exact tablesAt_length fBuffer i

/-- A list that ends with an item. -/
theorem eq_of_getLast {items : List Nat} {last : Nat} (ends : items.getLast? = some last) :
    ∃ front, items = front ++ [last] := by
  obtain ⟨front, whole⟩ := List.getLast?_eq_some_iff.mp ends
  exact ⟨front, whole⟩

/-- The table is empty when all DQT segments stand for no bytes. -/
theorem after_tableSize_eq_zero (inside : StoresInside headerSize fBuffer done) :
    (Found.after headerSize fBuffer start done).tableSize = 0 ↔
      ∀ i ∈ dqtsOf headerSize fBuffer done, segmentLength fBuffer i = 3 := by
  cases last : (dqtsOf headerSize fBuffer done).getLast? with
  | none =>
    have empty := List.getLast?_eq_none_iff.mp last
    rw [empty]
    exact iff_of_true (after_tableSize_none start last) (List.forall_mem_nil _)
  | some i =>
    obtain ⟨front, whole⟩ := eq_of_getLast last
    have earlier : ∀ j ∈ front, segmentLength fBuffer j = 3 := by
      intro j there
      rw [StoresInside, whole, List.pairwise_append] at inside
      exact inside.2.2 j there i (List.mem_singleton_self i)
    rw [after_tableSize_some start last, filled_eq_zero (segmentLength_lt fBuffer i), whole]
    constructor
    · intro three j there
      rcases List.mem_append.mp there with there | there
      · exact earlier j there
      · rw [List.mem_singleton.mp there]
        exact three
    · intro all
      exact all i (List.mem_append_right _ (List.mem_singleton_self i))

/-- The table is full when a DQT fills it. -/
theorem after_tableSize_eq_full (inside : StoresInside headerSize fBuffer done) :
    (Found.after headerSize fBuffer start done).tableSize = 128 ↔
      ∃ i ∈ done, IsDqt headerSize fBuffer i ∧ filled (segmentLength fBuffer i) = 128 := by
  have member (j : Nat) : j ∈ dqtsOf headerSize fBuffer done ↔
      j ∈ done ∧ IsDqt headerSize fBuffer j := by simp [dqtsOf]
  cases last : (dqtsOf headerSize fBuffer done).getLast? with
  | none =>
    have empty := List.getLast?_eq_none_iff.mp last
    rw [after_tableSize_none start last]
    refine iff_of_false (by decide) ?_
    rintro ⟨i, there, dqt, _⟩
    have listed := (member i).mpr ⟨there, dqt⟩
    rw [empty] at listed
    exact List.not_mem_nil listed
  | some i =>
    obtain ⟨front, whole⟩ := eq_of_getLast last
    rw [after_tableSize_some start last]
    constructor
    · intro full
      have listed : i ∈ dqtsOf headerSize fBuffer done := by
        rw [whole]
        exact List.mem_append_right _ (List.mem_singleton_self i)
      obtain ⟨there, dqt⟩ := (member i).mp listed
      exact ⟨i, there, dqt, full⟩
    · rintro ⟨j, there, dqt, full⟩
      have listed := (member j).mpr ⟨there, dqt⟩
      rw [whole] at listed
      rcases List.mem_append.mp listed with earlier | same
      · rw [StoresInside, whole, List.pairwise_append] at inside
        have three := inside.2.2 j earlier i (List.mem_singleton_self i)
        rw [three] at full
        exact absurd full (by decide)
      · rw [← List.mem_singleton.mp same]
        exact full

/-- Another position that is no DQT keeps the stores inside. -/
theorem storesInside_append_not (noDqt : ¬ IsDqt headerSize fBuffer i) :
    StoresInside headerSize fBuffer (done ++ [i]) ↔ StoresInside headerSize fBuffer done := by
  rw [StoresInside, dqtsOf_append_not noDqt, StoresInside]

/-- A DQT keeps the stores inside when the table is empty. -/
theorem storesInside_append (dqt : IsDqt headerSize fBuffer i)
    (inside : StoresInside headerSize fBuffer done) :
    StoresInside headerSize fBuffer (done ++ [i]) ↔
      (Found.after headerSize fBuffer start done).tableSize = 0 := by
  rw [after_tableSize_eq_zero inside, StoresInside, dqtsOf_append dqt, List.pairwise_append]
  constructor
  · intro ⟨_, _, all⟩ j there
    exact all j there i (List.mem_singleton_self i)
  · intro all
    exact ⟨inside, List.pairwise_singleton _ i, fun j there _ _ => all j there⟩

/-- The search is complete when the table is full and a SOF0 was found. -/
theorem complete_iff (start : Found) (inside : StoresInside headerSize fBuffer done) :
    Complete headerSize fBuffer done ↔
      (Found.after headerSize fBuffer start done).tableSize = 128 ∧
        (Found.after headerSize fBuffer start done).foundSof0 := by
  rw [Complete, after_tableSize_eq_full inside]
  exact and_congr_right fun _ => (lastSof0_isSome done).symm

instance (headerSize : Nat) (fBuffer : Nat → UInt8) (done : List Nat) :
    Decidable (StoresInside headerSize fBuffer done) :=
  List.instDecidablePairwise (R := fun i _ => segmentLength fBuffer i = 3) _

/-- What is found with a DQT more. -/
theorem after_dqt (dqt : IsDqt headerSize fBuffer i) (start : Found) (done : List Nat) :
    Found.after headerSize fBuffer start (done ++ [i]) =
      { (Found.after headerSize fBuffer start done).read (i + 134) with
        table := tablesAt fBuffer i
        tableSize := filled (segmentLength fBuffer i) } := by
  have reach : reachAt headerSize fBuffer i = i + 134 := if_pos dqt
  -- the kernel would unfold what stands behind an implicit proof down to the literals of `filled`
  simp -implicitDefEqProofs only [Found.after, Found.read, dqtsOf_append dqt,
    lastSof0_append_not dqt.not_sof0, List.getLast?_append, List.getLast?_singleton,
    Option.some_or, Option.elim_some, List.foldl_append, List.foldl_cons, List.foldl_nil, reach]

/-- What is found with a SOF0 more. -/
theorem after_sof0 (sof0 : IsSof0 fBuffer i) (start : Found) (done : List Nat) :
    Found.after headerSize fBuffer start (done ++ [i]) =
      { (Found.after headerSize fBuffer start done).read (i + 9) with
        height := eighth fBuffer (i + 5)
        width := eighth fBuffer (i + 7)
        foundSof0 := true } := by
  have noDqt : ¬ IsDqt headerSize fBuffer i := fun dqt => dqt.not_sof0 sof0
  have reach : reachAt headerSize fBuffer i = i + 9 := by
    rw [reachAt, if_neg noDqt, if_pos sof0]
  simp only [Found.after, Found.read, dqtsOf_append_not noDqt, lastSof0_append sof0,
    Option.elim_some, Option.isSome_some, List.foldl_append, List.foldl_cons, List.foldl_nil, reach]

/-- What is found with a position more that is neither. -/
theorem after_else (noDqt : ¬ IsDqt headerSize fBuffer i) (noSof0 : ¬ IsSof0 fBuffer i)
    (start : Found) (done : List Nat) :
    Found.after headerSize fBuffer start (done ++ [i]) =
      (Found.after headerSize fBuffer start done).read (reachAt headerSize fBuffer i) := by
  simp only [Found.after, Found.read, dqtsOf_append_not noDqt, lastSof0_append_not noSof0,
    List.foldl_append, List.foldl_cons, List.foldl_nil]

/-- A look finds what one more position shows. It ends the loop when the search is complete then, and
has no result when it stores outside the table. -/
theorem look_after (full : start.table.length = 128)
    (inside : StoresInside headerSize fBuffer done)
    (incomplete : ¬ Complete headerSize fBuffer done) (i : Nat) :
    look headerSize fBuffer (Found.after headerSize fBuffer start done) i =
      if StoresInside headerSize fBuffer (done ++ [i]) then
        if Complete headerSize fBuffer (done ++ [i]) then
          .done (.finished (Found.after headerSize fBuffer start (done ++ [i])))
        else .next ⟨nextAt headerSize fBuffer i,
          Found.after headerSize fBuffer start (done ++ [i])⟩
      else .done .overrun := by
  by_cases dqt : IsDqt headerSize fBuffer i
  · rw [look_dqt dqt (after_table_length full done)]
    by_cases empty : (Found.after headerSize fBuffer start done).tableSize = 0
    · have inside' := (storesInside_append dqt inside).mpr empty
      rw [if_pos empty, if_pos inside', ← after_dqt dqt start done]
      exact if_congr (complete_iff start inside').symm rfl rfl
    · have outside : ¬ StoresInside headerSize fBuffer (done ++ [i]) :=
        fun inside' => empty ((storesInside_append dqt inside).mp inside')
      rw [if_neg empty, if_neg outside]
  · have inside' : StoresInside headerSize fBuffer (done ++ [i]) :=
      (storesInside_append_not dqt).mpr inside
    rw [if_pos inside']
    by_cases sof0 : IsSof0 fBuffer i
    · have ends : Complete headerSize fBuffer (done ++ [i]) ↔
          (Found.after headerSize fBuffer start (done ++ [i])).tableSize = 128 := by
        rw [complete_iff start inside', after_sof0 sof0]
        exact and_iff_left rfl
      rw [look_sof0 sof0, ← after_sof0 sof0 start done]
      exact if_congr ends.symm rfl rfl
    · have still : ¬ Complete headerSize fBuffer (done ++ [i]) := by
        rw [complete_iff start inside', after_else dqt sof0]
        exact fun complete => incomplete ((complete_iff start inside).mpr complete)
      rw [look_else dqt sof0, if_neg still, after_else dqt sof0]

/-! ## The whole path -/

/-- The outcome at the positions that were looked at. -/
def outcomeAt (headerSize : Nat) (fBuffer : Nat → UInt8) (start : Found) (done : List Nat) :
    Outcome :=
  if StoresInside headerSize fBuffer done then .finished (Found.after headerSize fBuffer start done)
  else .overrun

/-- A store outside the table stays one. -/
theorem storesInside_front {more : List Nat}
    (inside : StoresInside headerSize fBuffer (done ++ more)) :
    StoresInside headerSize fBuffer done := by
  rw [StoresInside, dqtsOf, List.filter_append, List.pairwise_append] at inside
  exact inside.1

/-- The index is left alone. -/
def Build.Steady (build : Build) (found : Found) : Prop :=
  build = .dm355 ∨ found.tableSize ≠ 0 ∧ found.foundSof0 = true

/-- Where the index is left alone, the loop looks at it. -/
theorem Build.Steady.place_eq {build : Build} {scan : Scan} (steady : build.Steady scan.found) :
    build.place scan = scan.index := by
  cases build with
  | dm355 => rfl
  | other =>
    obtain ⟨notEmpty, sof0⟩ := steady.resolve_left (by decide)
    rw [Build.place]
    simp only [if_neg notEmpty, sof0, ↓reduceIte]

/-- The index stays alone. -/
theorem Build.Steady.append {build : Build}
    (steady : build.Steady (Found.after build.headerSize fBuffer start done))
    (inside : StoresInside build.headerSize fBuffer done)
    (inside' : StoresInside build.headerSize fBuffer (done ++ [i])) :
    build.Steady (Found.after build.headerSize fBuffer start (done ++ [i])) := by
  refine steady.imp_right fun ⟨notEmpty, sof0⟩ => ?_
  have noDqt : ¬ IsDqt build.headerSize fBuffer i :=
    fun dqt => notEmpty ((storesInside_append dqt inside).mp inside')
  by_cases isSof0 : IsSof0 fBuffer i
  · rw [after_sof0 isSof0]
    exact ⟨notEmpty, rfl⟩
  · rw [after_else noDqt isSof0]
    exact ⟨notEmpty, sof0⟩

/-- Where the index is left alone, the loop follows the path. -/
theorem ends_path {build : Build} (full : start.table.length = 128)
    (inside : StoresInside build.headerSize fBuffer done)
    (incomplete : ¬ Complete build.headerSize fBuffer done)
    (steady : build.Steady (Found.after build.headerSize fBuffer start done)) (i : Nat)
    (outcome : Outcome) :
    Ends (scanRound build fBuffer) ⟨i, Found.after build.headerSize fBuffer start done⟩ outcome ↔
      outcome = outcomeAt build.headerSize fBuffer start
        (upTo (Complete build.headerSize fBuffer) done (path build.headerSize fBuffer i)) := by
  fun_induction path build.headerSize fBuffer i generalizing done with
  | case1 i more ih =>
    have round : scanRound build fBuffer ⟨i, Found.after build.headerSize fBuffer start done⟩ =
        look build.headerSize fBuffer (Found.after build.headerSize fBuffer start done) i := by
      rw [scanRound, if_pos more, steady.place_eq]
    rw [look_after full inside incomplete i] at round
    rw [upTo]
    by_cases inside' : StoresInside build.headerSize fBuffer (done ++ [i])
    · rw [if_pos inside'] at round
      by_cases complete : Complete build.headerSize fBuffer (done ++ [i])
      · rw [if_pos complete] at round ⊢
        rw [ends_done round, outcomeAt, if_pos inside']
      · rw [if_neg complete] at round ⊢
        rw [ends_next round]
        exact ih inside' complete (steady.append inside inside')
    · rw [if_neg inside'] at round
      have outside : ∀ looked, (∃ more, looked = (done ++ [i]) ++ more) →
          ¬ StoresInside build.headerSize fBuffer looked := by
        rintro looked ⟨more, rfl⟩ all
        exact inside' (storesInside_front all)
      rw [ends_done round, outcomeAt, if_neg]
      apply outside
      split_ifs
      · exact ⟨[], (List.append_nil _).symm⟩
      · exact upTo_front _ _
  | case2 i beyond =>
    have round : scanRound build fBuffer ⟨i, Found.after build.headerSize fBuffer start done⟩ =
        .done (.finished (Found.after build.headerSize fBuffer start done)) := by
      rw [scanRound, if_neg beyond]
    rw [ends_done round, upTo, outcomeAt, if_pos inside]

end BoaIpcam.JpegSource
