import BoaIpcam.Lib.Memory
import BoaIpcam.Lib.Rounds

/-!
# The scan of a JPEG header

`afterGettingFrame1` of `ApproJPEGStreamSource.cpp` takes the quantization tables and the size of a
picture from the header of a frame, whose length is fixed by the build, and hands over the bytes
behind it. A build for the DM355 goes over the bytes of the header. The others jump to where they
expect the tables, until they have some, and then to where they expect the SOF0.
-/
namespace BoaIpcam.JpegSource

open Rounds

/-! ## The function -/

/-- With `PLAT_DM355` or without. -/
inductive Build where
  | dm355
  | other
deriving DecidableEq, Repr

/-- `JPEGHeaderSize`. -/
def Build.headerSize : Build → Nat
  | .dm355 => 607
  | .other => 0x265

/-- What the scan has found so far: the members of the source, whether there was a SOF0, and the end
of what was read of `fBuffer`. -/
structure Found where
  /-- The size of the tables. -/
  tableSize : Nat
  /-- Whether there was a SOF0. -/
  foundSof0 : Bool
  /-- `fLastQuantizationTable`. -/
  table : List UInt8
  /-- `fLastHeight`. -/
  height : UInt8
  /-- `fLastWidth`. -/
  width : UInt8
  /-- The end of what was read. -/
  reach : Nat
deriving DecidableEq, Repr

/-- The variables of the loop. -/
structure Scan where
  /-- The variable `i`. -/
  index : Nat
  /-- What was found. -/
  found : Found
deriving DecidableEq, Repr

/-- How the loop ends. A store that leaves `fLastQuantizationTable` has no result. -/
inductive Outcome where
  | finished (found : Found)
  | overrun
deriving DecidableEq, Repr

/-- The bytes up to a position have been read. -/
def Found.read (found : Found) (reach : Nat) : Found := { found with reach := max found.reach reach }

/-- So many bytes of `fBuffer`. -/
def bytesAt (fBuffer : Nat → UInt8) (offset count : Nat) : List UInt8 :=
  (List.range count).map fun index => fBuffer (offset + index)

/-- The two bytes at an offset, the high one first. -/
def word (fBuffer : Nat → UInt8) (offset : Nat) : Nat :=
  (fBuffer offset).toNat <<< 8 ||| (fBuffer (offset + 1)).toNat

/-- The two bytes at an offset divided by eight, as far as they fit a byte. -/
def eighth (fBuffer : Nat → UInt8) (offset : Nat) : UInt8 :=
  UInt8.ofNat ((fBuffer offset).toNat <<< 5 ||| (fBuffer (offset + 1)).toNat >>> 3)

/-- The two calls of `memmove` for a DQT. -/
def moveTables (fBuffer : Nat → UInt8) (table : List UInt8) (size index : Nat) :
    Option (List UInt8) :=
  (Buffer.write table size (bytesAt fBuffer (index + 5) 64)).bind fun table =>
    Buffer.write table (size + 64) (bytesAt fBuffer (index + 5 + 1 + 64) 64)

/-- `tableSize` for a segment of some length: a `u_int16_t`, and no more than there is room for. -/
def grown (size length : Nat) : Nat :=
  let tableSize := (length + 65533) % 65536
  if 128 < size + tableSize then 128 - size else tableSize

/-- The body of the loop at a position. -/
def look (headerSize : Nat) (fBuffer : Nat → UInt8) (found : Found) (i : Nat) :
    Round Scan Outcome :=
  let found := found.read (i + 1)
  if fBuffer i = 0xff then
    let found := found.read (i + 2)
    if fBuffer (i + 1) = 0xdb then
      let found := found.read (i + 4)
      let length := word fBuffer (i + 2)
      if i + 2 + length < headerSize then
        let found := found.read (i + 5 + 1 + 64 + 64)
        match moveTables fBuffer found.table found.tableSize i with
        | none => .done .overrun
        | some table =>
          let found := { found with
            table := table
            tableSize := found.tableSize + grown found.tableSize length }
          if found.tableSize = 128 ∧ found.foundSof0 then .done (.finished found)
          else .next ⟨i + length + 1, found⟩
      else .next ⟨i + 1, found⟩
    else if fBuffer (i + 1) = 0xc0 then
      let found := { found.read (i + 9) with
        height := eighth fBuffer (i + 5)
        width := eighth fBuffer (i + 7)
        foundSof0 := true }
      if found.tableSize = 128 then .done (.finished found) else .next ⟨i + 8 + 1, found⟩
    else .next ⟨i + 1, found⟩
  else .next ⟨i + 1, found⟩

/-- Where the body looks: a build without `PLAT_DM355` sets the index again. -/
def Build.place (build : Build) (scan : Scan) : Nat :=
  match build with
  | .dm355 => scan.index
  | .other =>
    if scan.found.tableSize = 0 then 0x14
    else if scan.found.foundSof0 then scan.index
    else 0x23e

/-- One round of the loop. -/
def scanRound (build : Build) (fBuffer : Nat → UInt8) (scan : Scan) : Round Scan Outcome :=
  if scan.index < build.headerSize - 8 then
    look build.headerSize fBuffer scan.found (build.place scan)
  else .done (.finished scan.found)

/-- The members that stay between two frames. -/
structure Members where
  /-- `fLastQuantizationTable`. -/
  table : List UInt8
  /-- `fLastHeight`. -/
  height : UInt8
  /-- `fLastWidth`. -/
  width : UInt8
  /-- The table has 128 bytes. -/
  tableFull : table.length = 128

/-- The variables at the start of the loop. -/
def Members.start (members : Members) : Found :=
  ⟨0, false, members.table, members.height, members.width, 0⟩

/-- The loop that looks for the restart interval, from a position on with at most the given number
of rounds: the end of what it reads and the interval. -/
def restartScan (fBuffer : Nat → UInt8) : Nat → Nat → Nat × Option (UInt8 × UInt8)
  | 0, i => (i, none)
  | rounds + 1, i =>
    if fBuffer i = 0xff then
      if fBuffer (i + 1) = 0xdd then (i + 6, some (fBuffer (i + 4), fBuffer (i + 5)))
      else
        let (reach, interval) := restartScan fBuffer rounds (i + 1)
        (max (i + 2) reach, interval)
    else
      let (reach, interval) := restartScan fBuffer rounds (i + 1)
      (max (i + 1) reach, interval)

/-- The loop from `0x251` on, in a build without `PLAT_DM355`. -/
def Build.restart (build : Build) (fBuffer : Nat → UInt8) : Nat × Option (UInt8 × UInt8) :=
  match build with
  | .dm355 => (0, none)
  | .other => restartScan fBuffer (0x265 - 8 - 0x251) 0x251

/-- A restart interval stands at a position. -/
def RestartAt (fBuffer : Nat → UInt8) (i : Nat) : Prop :=
  fBuffer i = 0xff ∧ fBuffer (i + 1) = 0xdd

/-- The bytes that are read of a restart interval that is looked for at a position. -/
def RestartRead (fBuffer : Nat → UInt8) (i position : Nat) : Prop :=
  position = i ∨ fBuffer i = 0xff ∧ position = i + 1 ∨
    RestartAt fBuffer i ∧ (position = i + 4 ∨ position = i + 5)

/-- The loop reads a byte: it looks at a position with no restart interval in front of it. -/
def RestartReads (fBuffer : Nat → UInt8) (first rounds position : Nat) : Prop :=
  ∃ i, first ≤ i ∧ i < first + rounds ∧ (∀ j, first ≤ j → j < i → ¬RestartAt fBuffer j) ∧
    RestartRead fBuffer i position

/-- What the loop reads in its first round and behind it. -/
theorem restartReads_succ {fBuffer : Nat → UInt8} {first rounds position : Nat} :
    RestartReads fBuffer first (rounds + 1) position ↔
      RestartRead fBuffer first position ∨
        ¬RestartAt fBuffer first ∧ RestartReads fBuffer (first + 1) rounds position := by
  constructor
  · rintro ⟨i, least, less, none, read⟩
    by_cases here : i = first
    · exact .inl (here ▸ read)
    · refine .inr ⟨none first (Nat.le_refl _) (by omega), i, by omega, by omega, ?_, read⟩
      exact fun j after before => none j (by omega) before
  · rintro (read | ⟨absent, i, least, less, none, read⟩)
    · exact ⟨first, Nat.le_refl _, by omega, fun j after before => absurd after (by omega), read⟩
    · refine ⟨i, by omega, by omega, fun j after before => ?_, read⟩
      by_cases here : j = first
      · exact here ▸ absent
      · exact none j (by omega) before

/-- The end of what the loop reads. -/
theorem restartScan_le_iff {fBuffer : Nat → UInt8} {rounds first size : Nat} :
    (restartScan fBuffer rounds first).1 ≤ size ↔
      first ≤ size ∧ ∀ position, RestartReads fBuffer first rounds position → position < size := by
  induction rounds generalizing first with
  | zero =>
    refine ⟨fun inside => ⟨inside, ?_⟩, fun all => all.1⟩
    rintro position ⟨i, least, less, -⟩
    omega
  | succ rounds ih =>
    have own : first < size → (fBuffer first = 0xff → first + 1 < size) →
        (RestartAt fBuffer first → first + 5 < size) →
          ∀ position, RestartRead fBuffer first position → position < size := by
      rintro here next interval position (rfl | ⟨mark, rfl⟩ | ⟨stands, rfl | rfl⟩)
      · exact here
      · exact next mark
      · have last := interval stands
        omega
      · exact interval stands
    have reads : ∀ position, RestartRead fBuffer first position →
        RestartReads fBuffer first (rounds + 1) position :=
      fun position read => restartReads_succ.mpr (.inl read)
    rw [restartScan]
    by_cases mark : fBuffer first = 0xff
    · rw [if_pos mark]
      by_cases second : fBuffer (first + 1) = 0xdd
      · rw [if_pos second]
        constructor
        · intro inside
          have inside : first + 6 ≤ size := inside
          refine ⟨by omega, fun position read => ?_⟩
          rcases restartReads_succ.mp read with read | ⟨absent, -⟩
          · exact own (by omega) (by omega) (by omega) position read
          · exact absurd ⟨mark, second⟩ absent
        · intro all
          have last := all.2 (first + 5) (reads _ (.inr (.inr ⟨⟨mark, second⟩, .inr rfl⟩)))
          show first + 6 ≤ size
          omega
      · have absent : ¬RestartAt fBuffer first := fun stands => second stands.2
        rw [if_neg second]
        simp only [Nat.max_le, ih]
        constructor
        · rintro ⟨own', -, later⟩
          refine ⟨by omega, fun position read => ?_⟩
          rcases restartReads_succ.mp read with read | ⟨-, read⟩
          · exact own (by omega) (by omega) (fun stands => absurd stands absent) position read
          · exact later position read
        · intro all
          have next := all.2 (first + 1) (reads _ (.inr (.inl ⟨mark, rfl⟩)))
          refine ⟨by omega, by omega, fun position read => ?_⟩
          exact all.2 position (restartReads_succ.mpr (.inr ⟨absent, read⟩))
    · have absent : ¬RestartAt fBuffer first := fun stands => mark stands.1
      rw [if_neg mark]
      simp only [Nat.max_le, ih]
      constructor
      · rintro ⟨own', -, later⟩
        refine ⟨by omega, fun position read => ?_⟩
        rcases restartReads_succ.mp read with read | ⟨-, read⟩
        · exact own (by omega) (fun is => absurd is mark) (fun stands => absurd stands absent)
            position read
        · exact later position read
      · intro all
        have here := all.2 first (reads _ (.inl rfl))
        refine ⟨by omega, by omega, fun position read => ?_⟩
        exact all.2 position (restartReads_succ.mpr (.inr ⟨absent, read⟩))

/-- The bytes that the loop from `0x251` on reads. -/
def Build.ReadsRestart (build : Build) (fBuffer : Nat → UInt8) (position : Nat) : Prop :=
  build = .other ∧ RestartReads fBuffer 0x251 (0x265 - 8 - 0x251) position

/-- The end of what that loop reads. -/
theorem Build.restart_le_iff {build : Build} {fBuffer : Nat → UInt8} {size : Nat} :
    (build.restart fBuffer).1 ≤ size ↔
      ∀ position, build.ReadsRestart fBuffer position → position < size := by
  cases build with
  | dm355 => exact ⟨fun _ position read => absurd read.1 (by decide), fun _ => Nat.zero_le _⟩
  | other =>
    unfold Build.restart
    dsimp only
    rw [restartScan_le_iff]
    refine ⟨fun all position read => all.2 position read.2, fun all => ⟨?_, ?_⟩⟩
    · have first : RestartReads fBuffer 0x251 (0x265 - 8 - 0x251) 0x251 :=
        ⟨0x251, Nat.le_refl _, by decide, fun j after before => absurd after (by omega), .inl rfl⟩
      exact Nat.le_of_lt (all 0x251 ⟨rfl, first⟩)
    · exact fun position read => all position ⟨rfl, read⟩

/-- What the source hands over for a frame. -/
structure Frame where
  /-- The quantization tables. -/
  tables : List UInt8
  /-- The width in eights. -/
  width : UInt8
  /-- The height in eights. -/
  height : UInt8
  /-- The restart interval. -/
  restart : Option (UInt8 × UInt8)
  /-- The bytes at `fTo`. -/
  bytes : List UInt8
  /-- How many bytes were lost. -/
  numTruncatedBytes : Nat
  /-- The end of what the scan read. -/
  reach : Nat
deriving DecidableEq, Repr

/-- The tables behind the loops: one alone is there twice. -/
def Found.tables (found : Found) : List UInt8 :=
  if found.tableSize = 64 then found.table.take 64 ++ found.table.take 64
  else found.table.take found.tableSize

/-- `fFrameSize`. -/
def deliveredSize (headerSize frameSize fMaxSize : Nat) : Nat :=
  let fFrameSize := if frameSize < fMaxSize then frameSize else fMaxSize
  if headerSize < fFrameSize then fFrameSize - headerSize else 0

/-- The rest of `afterGettingFrame1` behind the scan. -/
def handOver (build : Build) (fBuffer : Nat → UInt8) (frameSize fMaxSize numTruncatedBytes : Nat)
    (found : Found) : Frame where
  tables := found.tables
  width := found.width
  height := found.height
  restart := (build.restart fBuffer).2
  bytes := bytesAt fBuffer build.headerSize (deliveredSize build.headerSize frameSize fMaxSize)
  numTruncatedBytes := numTruncatedBytes
  reach := max found.reach (build.restart fBuffer).1

/-- `afterGettingFrame1` hands a frame over: its scan ends and stores nothing outside the table. -/
def AfterGettingFrame1 (build : Build) (fBuffer : Nat → UInt8)
    (frameSize fMaxSize numTruncatedBytes : Nat) (members : Members) (frame : Frame) : Prop :=
  ∃ found, Ends (scanRound build fBuffer) ⟨0, members.start⟩ (.finished found) ∧
    frame = handOver build fBuffer frameSize fMaxSize numTruncatedBytes found

/-! ## What a byte says -/

/-- The length of a segment. -/
abbrev segmentLength (fBuffer : Nat → UInt8) (i : Nat) : Nat := word fBuffer (i + 2)

/-- A DQT whose segment ends inside the header. -/
def IsDqt (headerSize : Nat) (fBuffer : Nat → UInt8) (i : Nat) : Prop :=
  fBuffer i = 0xff ∧ fBuffer (i + 1) = 0xdb ∧ i + 2 + segmentLength fBuffer i < headerSize

/-- A SOF0. -/
def IsSof0 (fBuffer : Nat → UInt8) (i : Nat) : Prop := fBuffer i = 0xff ∧ fBuffer (i + 1) = 0xc0

instance (headerSize : Nat) (fBuffer : Nat → UInt8) (i : Nat) :
    Decidable (IsDqt headerSize fBuffer i) := inferInstanceAs (Decidable (_ ∧ _))

instance (fBuffer : Nat → UInt8) (i : Nat) : Decidable (IsSof0 fBuffer i) :=
  inferInstanceAs (Decidable (_ ∧ _))

/-- How many bytes of the table a DQT of some length stands for, when it is the first. -/
def filled (length : Nat) : Nat := min 128 ((length + 65533) % 65536)

/-- The end of what is read at a position. -/
def reachAt (headerSize : Nat) (fBuffer : Nat → UInt8) (i : Nat) : Nat :=
  if IsDqt headerSize fBuffer i then i + 134
  else if IsSof0 fBuffer i then i + 9
  else if fBuffer i = 0xff then if fBuffer (i + 1) = 0xdb then i + 4 else i + 2
  else i + 1

/-- Where the loop goes on behind a position. -/
def nextAt (headerSize : Nat) (fBuffer : Nat → UInt8) (i : Nat) : Nat :=
  if IsDqt headerSize fBuffer i then i + segmentLength fBuffer i + 1
  else if IsSof0 fBuffer i then i + 9
  else i + 1

/-- The bytes that a DQT puts into the table. -/
def tablesAt (fBuffer : Nat → UInt8) (i : Nat) : List UInt8 :=
  bytesAt fBuffer (i + 5) 64 ++ bytesAt fBuffer (i + 70) 64

/-! ## One look -/

section Look

variable {headerSize : Nat} {fBuffer : Nat → UInt8} {i : Nat}

/-- So many bytes are as many. -/
@[simp] theorem bytesAt_length (fBuffer : Nat → UInt8) (offset count : Nat) :
    (bytesAt fBuffer offset count).length = count := by
  rw [bytesAt, List.length_map, List.length_range]

/-- A DQT fills the whole table. -/
theorem tablesAt_length (fBuffer : Nat → UInt8) (i : Nat) : (tablesAt fBuffer i).length = 128 := by
  rw [tablesAt, List.length_append, bytesAt_length, bytesAt_length]

/-- The tables are stored inside the table only when it is empty. -/
theorem moveTables_eq {table : List UInt8} (full : table.length = 128) (size : Nat) :
    moveTables fBuffer table size i = if size = 0 then some (tablesAt fBuffer i) else none := by
  by_cases empty : size = 0
  · rw [if_pos empty, empty, moveTables]
    have first : Buffer.write table 0 (bytesAt fBuffer (i + 5) 64) =
        some (bytesAt fBuffer (i + 5) 64 ++ table.drop 64) := by
      have fits : 0 + (bytesAt fBuffer (i + 5) 64).length ≤ table.length := by
        rw [bytesAt_length]
        omega
      rw [Buffer.write, if_pos fits, bytesAt_length, List.take_zero, List.nil_append]
    have second := Buffer.write_front (bytesAt fBuffer (i + 5) 64) (table.drop 64)
      (bytesAt fBuffer (i + 5 + 1 + 64) 64) (by simp [full])
    have nothing : (table.drop 64).drop 64 = [] :=
      List.drop_eq_nil_of_le (by rw [List.length_drop]; omega)
    rw [bytesAt_length, bytesAt_length, nothing, List.append_nil] at second
    rw [first, Option.bind_some]
    exact second
  · rw [if_neg empty, moveTables]
    by_cases fits : size + (bytesAt fBuffer (i + 5) 64).length ≤ table.length
    · rw [Buffer.write, if_pos fits, Option.bind_some, Buffer.write, if_neg]
      simp only [bytesAt_length, List.length_append, List.length_take, List.length_drop] at fits ⊢
      omega
    · rw [Buffer.write, if_neg fits, Option.bind_none]

/-- The first DQT makes the table as large as it stands for. -/
theorem grown_empty (length : Nat) : 0 + grown 0 length = filled length := by
  unfold grown filled
  simp only [Nat.zero_add, Nat.sub_zero]
  split_ifs <;> omega

/-- A DQT and a SOF0 are different. -/
theorem IsDqt.not_sof0 (dqt : IsDqt headerSize fBuffer i) : ¬ IsSof0 fBuffer i := by
  intro sof0
  have same : (0xdb : UInt8) = 0xc0 := dqt.2.1.symm.trans sof0.2
  exact absurd same (by decide)

/-- A look at a DQT stores its tables when there are none, and ends the loop when a SOF0 was found
and the table is full. -/
theorem look_dqt (dqt : IsDqt headerSize fBuffer i) {found : Found}
    (full : found.table.length = 128) :
    look headerSize fBuffer found i =
      if found.tableSize = 0 then
        let found := { found.read (i + 134) with
          table := tablesAt fBuffer i
          tableSize := filled (segmentLength fBuffer i) }
        if found.tableSize = 128 ∧ found.foundSof0 then .done (.finished found)
        else .next ⟨nextAt headerSize fBuffer i, found⟩
      else .done .overrun := by
  obtain ⟨mark, kind, inside⟩ := id dqt
  have reach : max (max (max (max found.reach (i + 1)) (i + 2)) (i + 4)) (i + 5 + 1 + 64 + 64) =
      max found.reach (i + 134) := by omega
  rw [look, nextAt, if_pos dqt]
  simp only [mark, kind, ↓reduceIte, inside, Found.read, moveTables_eq full, reach]
  by_cases empty : found.tableSize = 0
  · simp only [empty, ↓reduceIte, grown_empty]
    exact rfl
  · simp only [empty, ↓reduceIte]

/-- A look at a SOF0 takes the size of the picture, and ends the loop when the table is full. -/
theorem look_sof0 (sof0 : IsSof0 fBuffer i) (found : Found) :
    look headerSize fBuffer found i =
      let found := { found.read (i + 9) with
        height := eighth fBuffer (i + 5)
        width := eighth fBuffer (i + 7)
        foundSof0 := true }
      if found.tableSize = 128 then .done (.finished found)
      else .next ⟨nextAt headerSize fBuffer i, found⟩ := by
  obtain ⟨mark, kind⟩ := id sof0
  have other : ¬ IsDqt headerSize fBuffer i := fun dqt => dqt.not_sof0 sof0
  have reach : max (max (max found.reach (i + 1)) (i + 2)) (i + 9) = max found.reach (i + 9) := by
    omega
  have differ : (0xc0 : UInt8) ≠ 0xdb := by decide
  rw [look, nextAt, if_neg other, if_pos sof0]
  simp only [mark, kind, ↓reduceIte, differ, Found.read, reach]
  exact rfl

/-- A look at anything else only reads. -/
theorem look_else (noDqt : ¬ IsDqt headerSize fBuffer i) (noSof0 : ¬ IsSof0 fBuffer i)
    (found : Found) :
    look headerSize fBuffer found i =
      .next ⟨nextAt headerSize fBuffer i, found.read (reachAt headerSize fBuffer i)⟩ := by
  rw [look, nextAt, reachAt]
  simp only [noDqt, noSof0, ↓reduceIte, Found.read]
  by_cases mark : fBuffer i = 0xff
  · have notC0 : fBuffer (i + 1) ≠ 0xc0 := fun kind => noSof0 ⟨mark, kind⟩
    by_cases kind : fBuffer (i + 1) = 0xdb
    · have long : ¬ i + 2 + word fBuffer (i + 2) < headerSize :=
        fun inside => noDqt ⟨mark, kind, inside⟩
      have reach : max (max (max found.reach (i + 1)) (i + 2)) (i + 4) =
          max found.reach (i + 4) := by omega
      simp only [mark, kind, long, ↓reduceIte, reach]
    · have reach : max (max found.reach (i + 1)) (i + 2) = max found.reach (i + 2) := by omega
      simp only [mark, kind, notC0, ↓reduceIte, reach]
  · simp only [mark, ↓reduceIte]

end Look

end BoaIpcam.JpegSource
