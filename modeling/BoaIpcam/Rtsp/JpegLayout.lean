import BoaIpcam.Rtsp.JpegPath

/-!
# When the scan ends

For the DM355 the scan always ends. In the other builds it sets its index again until there are
tables, and then until there is a SOF0: it ends only when both are where it looks for them, or when
the DQT is so long that nothing is left of the header behind it.
-/
namespace BoaIpcam.JpegSource

open Rounds Prefixes

variable {fBuffer : Nat → UInt8}

/-- The segments are where a build expects them. -/
def Build.Layout (build : Build) (fBuffer : Nat → UInt8) : Prop :=
  match build with
  | .dm355 => True
  | .other => IsDqt Build.other.headerSize fBuffer 0x14 ∧ segmentLength fBuffer 0x14 ≠ 3 ∧
      (segmentLength fBuffer 0x14 < 584 → IsSof0 fBuffer 0x23e)

/-- At no positions nothing is stored. -/
theorem storesInside_nil (headerSize : Nat) (fBuffer : Nat → UInt8) :
    StoresInside headerSize fBuffer [] := List.Pairwise.nil

/-- At no positions nothing is complete. -/
theorem not_complete_nil (headerSize : Nat) (fBuffer : Nat → UInt8) :
    ¬ Complete headerSize fBuffer [] := fun ⟨⟨_, there, _⟩, _⟩ => List.not_mem_nil there

/-- An outcome is finished when the stores are inside. -/
theorem finished_eq_outcomeAt {headerSize : Nat} {start found : Found} {done : List Nat} :
    Outcome.finished found = outcomeAt headerSize fBuffer start done ↔
      StoresInside headerSize fBuffer done ∧ found = Found.after headerSize fBuffer start done := by
  rw [outcomeAt]
  by_cases inside : StoresInside headerSize fBuffer done
  · rw [if_pos inside, Outcome.finished.injEq]
    exact (and_iff_right inside).symm
  · rw [if_neg inside]
    exact iff_of_false Outcome.noConfusion fun both => inside both.1

/-- For the DM355 the scan follows its path. -/
theorem ends_dm355 (members : Members) (found : Found) :
    Ends (scanRound .dm355 fBuffer) ⟨0, members.start⟩ (.finished found) ↔
      StoresInside Build.dm355.headerSize fBuffer (Build.dm355.lookedAt fBuffer) ∧
        found = Found.after Build.dm355.headerSize fBuffer members.start
          (Build.dm355.lookedAt fBuffer) := by
  rw [← finished_eq_outcomeAt]
  have full : members.start.table.length = 128 := members.tableFull
  have steady : Build.Steady .dm355 (Found.after Build.dm355.headerSize fBuffer members.start []) :=
    .inl rfl
  exact ends_path full (storesInside_nil _ _) (not_complete_nil _ _) steady 0 _

/-- Without a DQT that stands for some bytes the scan does not end. -/
theorem not_ends_without_dqt {start : Found} (full : start.table.length = 128)
    (empty : start.tableSize = 0)
    (none : IsDqt Build.other.headerSize fBuffer 0x14 → segmentLength fBuffer 0x14 = 3)
    (outcome : Outcome) : ¬ Ends (scanRound .other fBuffer) ⟨0, start⟩ outcome := by
  have inside : (0 : Nat) < Build.other.headerSize - 8 := by decide
  apply not_ends fun scan : Scan => scan.index < Build.other.headerSize - 8 ∧
    scan.found.tableSize = 0 ∧ scan.found.table.length = 128
  · intro scan ⟨below, empty, full⟩
    have round : scanRound .other fBuffer scan =
        look Build.other.headerSize fBuffer scan.found 0x14 := by
      rw [scanRound, if_pos below, Build.place]
      simp only [if_pos empty]
    rw [round]
    by_cases dqt : IsDqt Build.other.headerSize fBuffer 0x14
    · have three := none dqt
      have next : nextAt Build.other.headerSize fBuffer 0x14 = 24 := by
        rw [nextAt, if_pos dqt, three]
      have zero : filled (segmentLength fBuffer 0x14) = 0 := by
        rw [three]
        decide
      rw [look_dqt dqt full, if_pos empty, zero, next]
      exact ⟨_, if_neg fun both => Nat.zero_ne_add_one 127 both.1,
        show 24 < Build.other.headerSize - 8 by decide, rfl, tablesAt_length fBuffer 0x14⟩
    · by_cases sof0 : IsSof0 fBuffer 0x14
      · have next : nextAt Build.other.headerSize fBuffer 0x14 = 29 := by
          rw [nextAt, if_neg dqt, if_pos sof0]
        have notFull : (scan.found.read (0x14 + 9)).tableSize ≠ 128 := by
          show scan.found.tableSize ≠ 128
          omega
        rw [look_sof0 sof0, next]
        exact ⟨_, if_neg notFull, show 29 < Build.other.headerSize - 8 by decide, empty, full⟩
      · have next : nextAt Build.other.headerSize fBuffer 0x14 = 21 := by
          rw [nextAt, if_neg dqt, if_neg sof0]
        rw [look_else dqt sof0, next]
        exact ⟨_, rfl, show 21 < Build.other.headerSize - 8 by decide, empty, full⟩
  · exact ⟨inside, empty, full⟩

/-- With tables and no SOF0 or DQT where it is expected the scan does not end. -/
theorem not_ends_without_sof0 {scan : Scan} (below : scan.index < Build.other.headerSize - 8)
    (notEmpty : scan.found.tableSize ≠ 0) (noSof0 : scan.found.foundSof0 = false)
    (dqt : ¬ IsDqt Build.other.headerSize fBuffer 0x23e) (sof0 : ¬ IsSof0 fBuffer 0x23e)
    (outcome : Outcome) : ¬ Ends (scanRound .other fBuffer) scan outcome := by
  apply not_ends fun scan : Scan => scan.index < Build.other.headerSize - 8 ∧
    scan.found.tableSize ≠ 0 ∧ scan.found.foundSof0 = false
  · intro scan ⟨below, notEmpty, noSof0⟩
    have round : scanRound .other fBuffer scan =
        look Build.other.headerSize fBuffer scan.found 0x23e := by
      rw [scanRound, if_pos below, Build.place]
      simp only [if_neg notEmpty, noSof0, Bool.false_eq_true, ↓reduceIte]
    have next : nextAt Build.other.headerSize fBuffer 0x23e = 0x23f := by
      rw [nextAt, if_neg dqt, if_neg sof0]
    rw [round, look_else dqt sof0, next]
    exact ⟨_, rfl, show 0x23f < Build.other.headerSize - 8 by decide, notEmpty, noSof0⟩
  · exact ⟨below, notEmpty, noSof0⟩

/-! ## The first DQT -/

section First

variable {headerSize i : Nat}

/-- One position stores inside the table. -/
theorem storesInside_single (headerSize : Nat) (fBuffer : Nat → UInt8) (i : Nat) :
    StoresInside headerSize fBuffer [i] := by
  rw [StoresInside, dqtsOf]
  exact (List.pairwise_singleton _ i).filter _

/-- A DQT alone does not complete the search. -/
theorem IsDqt.not_complete (dqt : IsDqt headerSize fBuffer i) :
    ¬ Complete headerSize fBuffer [i] := by
  rintro ⟨_, j, there, sof0⟩
  rw [List.mem_singleton.mp there] at sof0
  exact dqt.not_sof0 sof0

/-- Behind a DQT that stands for some bytes the table is not empty. -/
theorem IsDqt.notEmpty (dqt : IsDqt headerSize fBuffer i) (notThree : segmentLength fBuffer i ≠ 3)
    (start : Found) : (Found.after headerSize fBuffer start [i]).tableSize ≠ 0 := by
  intro empty
  have three := (after_tableSize_eq_zero (storesInside_single headerSize fBuffer i)).mp empty
  have only : dqtsOf headerSize fBuffer [i] = [i] := dqtsOf_append dqt []
  rw [only] at three
  exact notThree (three i (List.mem_singleton_self i))

/-- Behind a DQT alone there was no SOF0. -/
theorem IsDqt.noneFound (dqt : IsDqt headerSize fBuffer i) (start : Found) :
    (Found.after headerSize fBuffer start [i]).foundSof0 = false := by
  have last : lastSof0 fBuffer [i] = none := lastSof0_append_not dqt.not_sof0 []
  rw [Found.after, last, Option.isSome_none]

/-- In the other builds the second place is looked at behind a DQT that is not too long, and the scan
goes on there only from a SOF0. -/
theorem ends_second (members : Members)
    (dqt : IsDqt Build.other.headerSize fBuffer 0x14) (notThree : segmentLength fBuffer 0x14 ≠ 3)
    (index : Nat) (below : index < Build.other.headerSize - 8) (outcome : Found) :
    Ends (scanRound .other fBuffer)
        ⟨index, Found.after Build.other.headerSize fBuffer members.start [0x14]⟩
        (.finished outcome) ↔
      IsSof0 fBuffer 0x23e ∧ .finished outcome = outcomeAt Build.other.headerSize fBuffer
        members.start (upTo (Complete Build.other.headerSize fBuffer) [0x14]
          (0x23e :: path Build.other.headerSize fBuffer 0x247)) := by
  have full : members.start.table.length = 128 := members.tableFull
  have inside := storesInside_single Build.other.headerSize fBuffer 0x14
  have notEmpty := dqt.notEmpty notThree members.start
  have noneFound := dqt.noneFound members.start
  have round : scanRound .other fBuffer
      ⟨index, Found.after Build.other.headerSize fBuffer members.start [0x14]⟩ =
        look Build.other.headerSize fBuffer
          (Found.after Build.other.headerSize fBuffer members.start [0x14]) 0x23e := by
    rw [scanRound, if_pos below, Build.place]
    simp only [if_neg notEmpty, noneFound, Bool.false_eq_true, ↓reduceIte]
  have looked := look_after full inside dqt.not_complete 0x23e
  rw [looked] at round
  by_cases sof0 : IsSof0 fBuffer 0x23e
  · have noDqt : ¬ IsDqt Build.other.headerSize fBuffer 0x23e := fun other => other.not_sof0 sof0
    have inside' : StoresInside Build.other.headerSize fBuffer ([0x14] ++ [0x23e]) :=
      (storesInside_append_not noDqt).mpr inside
    rw [if_pos inside'] at round
    rw [upTo, and_iff_right sof0]
    by_cases complete : Complete Build.other.headerSize fBuffer ([0x14] ++ [0x23e])
    · rw [if_pos complete] at round ⊢
      rw [ends_done round, outcomeAt, if_pos inside']
    · have next : nextAt Build.other.headerSize fBuffer 0x23e = 0x247 := by
        rw [nextAt, if_neg noDqt, if_pos sof0]
      have steady : Build.Steady .other (Found.after Build.other.headerSize fBuffer members.start
          ([0x14] ++ [0x23e])) := by
        rw [after_sof0 sof0]
        exact .inr ⟨notEmpty, rfl⟩
      rw [if_neg complete, next] at round
      rw [if_neg complete, ends_next round]
      exact ends_path full inside' complete steady 0x247 _
  · refine iff_of_false ?_ fun both => sof0 both.1
    by_cases second : IsDqt Build.other.headerSize fBuffer 0x23e
    · have outside : ¬ StoresInside Build.other.headerSize fBuffer ([0x14] ++ [0x23e]) :=
        fun inside' => notEmpty ((storesInside_append second inside).mp inside')
      rw [if_neg outside] at round
      rw [ends_done round]
      exact Outcome.noConfusion
    · exact not_ends_without_sof0 below notEmpty noneFound second sof0 _

end First

/-! ## Both builds -/

/-- In the other builds the scan ends when the segments are where they are expected, and then it
looks at those and at what is behind. -/
theorem ends_other (members : Members) (found : Found) :
    Ends (scanRound .other fBuffer) ⟨0, members.start⟩ (.finished found) ↔
      Build.other.Layout fBuffer ∧
        StoresInside Build.other.headerSize fBuffer (Build.other.lookedAt fBuffer) ∧
        found = Found.after Build.other.headerSize fBuffer members.start
          (Build.other.lookedAt fBuffer) := by
  by_cases tables : IsDqt Build.other.headerSize fBuffer 0x14 ∧ segmentLength fBuffer 0x14 ≠ 3
  · obtain ⟨dqt, notThree⟩ := tables
    have full : members.start.table.length = 128 := members.tableFull
    have inside := storesInside_single Build.other.headerSize fBuffer 0x14
    have first := look_after full (storesInside_nil Build.other.headerSize fBuffer)
      (not_complete_nil _ _) 0x14
    rw [List.nil_append, if_pos inside, if_neg dqt.not_complete, nextAt, if_pos dqt] at first
    have round : scanRound .other fBuffer ⟨0, members.start⟩ = _ := first
    rw [ends_next round]
    by_cases short : segmentLength fBuffer 0x14 < 584
    · have below : 0x14 + segmentLength fBuffer 0x14 + 1 < Build.other.headerSize - 8 := by
        show 0x14 + segmentLength fBuffer 0x14 + 1 < 605
        omega
      have looked : Build.other.lookedAt fBuffer = upTo (Complete Build.other.headerSize fBuffer) [0x14]
          (0x23e :: path Build.other.headerSize fBuffer 0x247) := by
        rw [Build.lookedAt, Build.path, if_pos short, upTo, List.nil_append,
          if_neg dqt.not_complete]
      have layout : Build.other.Layout fBuffer ↔ IsSof0 fBuffer 0x23e :=
        ⟨fun layout => layout.2.2 short, fun sof0 => ⟨dqt, notThree, fun _ => sof0⟩⟩
      rw [ends_second members dqt notThree _ below, layout, looked, finished_eq_outcomeAt]
    · have beyond : ¬ 0x14 + segmentLength fBuffer 0x14 + 1 < Build.other.headerSize - 8 := by
        show ¬ 0x14 + segmentLength fBuffer 0x14 + 1 < 605
        omega
      have looked : Build.other.lookedAt fBuffer = [0x14] := by
        rw [Build.lookedAt, Build.path, if_neg short, upTo, List.nil_append,
          if_neg dqt.not_complete, upTo]
      have last : scanRound .other fBuffer ⟨0x14 + segmentLength fBuffer 0x14 + 1,
          Found.after Build.other.headerSize fBuffer members.start [0x14]⟩ =
            .done (.finished (Found.after Build.other.headerSize fBuffer members.start [0x14])) := by
        rw [scanRound, if_neg beyond]
      have layout : Build.other.Layout fBuffer := ⟨dqt, notThree, fun below => absurd below short⟩
      rw [ends_done last, looked, Outcome.finished.injEq]
      exact ⟨fun same => ⟨layout, inside, same⟩, fun both => both.2.2⟩
  · have none : IsDqt Build.other.headerSize fBuffer 0x14 → segmentLength fBuffer 0x14 = 3 :=
      fun dqt => by_contra fun other => tables ⟨dqt, other⟩
    refine iff_of_false (not_ends_without_dqt members.tableFull rfl none _) ?_
    exact fun both => tables ⟨both.1.1, both.1.2.1⟩

/-- In every build the scan ends and stores inside the table exactly when the segments are where the
build expects them and no DQT that is looked at follows one that stands for some bytes. What it has
found is what the positions show. -/
theorem ends_iff (build : Build) (members : Members) (found : Found) :
    Ends (scanRound build fBuffer) ⟨0, members.start⟩ (.finished found) ↔
      build.Layout fBuffer ∧ StoresInside build.headerSize fBuffer (build.lookedAt fBuffer) ∧
        found = Found.after build.headerSize fBuffer members.start (build.lookedAt fBuffer) := by
  cases build with
  | dm355 =>
    rw [ends_dm355]
    exact (and_iff_right trivial).symm
  | other => exact ends_other members found

end BoaIpcam.JpegSource
