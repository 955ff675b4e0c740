import BoaIpcam.Rtsp.JpegPlain

/-!
# When a frame is handed over as it should be

The scan has to end, to store inside the table and to read inside the frame. For a frame with a
well-formed header the source has to hand over the tables and the size that the header has and the
payload, as far as the sink has room for it, and has to count the bytes for which there was no room.
-/
namespace BoaIpcam.JpegSource

open Rounds

variable {build : Build} {fBuffer : Nat → UInt8} {header : Header build.headerSize} {i j : Nat}

/-! ## What is asked -/

/-- What is handed over for a frame reads inside it, and shows its header and its payload. -/
structure Frame.Right (build : Build) (fBuffer : Nat → UInt8)
    (frameSize fMaxSize numTruncatedBytes : Nat) (frame : Frame) : Prop where
  /-- The scan reads inside the frame. -/
  inside : frame.reach ≤ frameSize
  /-- A header and a payload are handed over. -/
  shown : ∀ (header : Header build.headerSize) (payload : List UInt8),
    HoldsFrame fBuffer frameSize header payload →
      frame.tables = header.tableBytes ∧
        (frame.height.toNat = header.size.1.toNat / 8 ∧
          frame.width.toNat = header.size.2.toNat / 8) ∧
        frame.bytes = payload.take fMaxSize ∧
        frame.numTruncatedBytes = numTruncatedBytes + (payload.length - fMaxSize)

/-- Whatever the frame before has left in the members, a frame is handed over, and it is right. The
bytes that were lost on the way to `fBuffer` stay lost. -/
def HandsOver (build : Build) (fBuffer : Nat → UInt8)
    (frameSize fMaxSize numTruncatedBytes : Nat) : Prop :=
  ∀ members, ∃ frame,
    AfterGettingFrame1 build fBuffer frameSize fMaxSize numTruncatedBytes members frame ∧
      frame.Right build fBuffer frameSize fMaxSize numTruncatedBytes

/-- The bytes behind the last DQT that is looked at are some tables, or one that is there twice. -/
def ShowsTables (build : Build) (fBuffer : Nat → UInt8) (tables : List UInt8) : Prop :=
  ∃ i, (dqtsOf build.headerSize fBuffer (build.lookedAt fBuffer)).getLast? = some i ∧
    (filled (segmentLength fBuffer i) = 128 ∧ tablesAt fBuffer i = tables ∨
      filled (segmentLength fBuffer i) = 64 ∧
        bytesAt fBuffer (i + 5) 64 ++ bytesAt fBuffer (i + 5) 64 = tables)

/-- The last SOF0 that is looked at has a size, counted in eights up to a byte. -/
def ShowsSize (build : Build) (fBuffer : Nat → UInt8) (height width : Nat) : Prop :=
  ∃ i, lastSof0 fBuffer (build.lookedAt fBuffer) = some i ∧
    word fBuffer (i + 5) / 8 % 256 = height / 8 ∧ word fBuffer (i + 7) / 8 % 256 = width / 8

/-- A header is shown. When it is plain, one DQT segment has both tables, or they are the same, and
the height and the width are below 2048. When other bytes of it look like marks, those that the scan
meets last have the same tables and the same size. -/
structure Header.Shown (build : Build) (fBuffer : Nat → UInt8) (header : Header build.headerSize) :
    Prop where
  /-- What is asked of a plain header. -/
  plain : header.Plain → (header.OneDqt ∨ header.first.values = header.second.values) ∧
    header.size.1.toNat < 2048 ∧ header.size.2.toNat < 2048
  /-- What is asked when other bytes look like marks. -/
  misled : ¬ header.Plain → ShowsTables build fBuffer header.tableBytes ∧
    ShowsSize build fBuffer header.size.1.toNat header.size.2.toNat

/-! ## What the scan hands over -/

/-- The two bytes at an offset divided by eight, up to a byte. -/
theorem eighth_toNat (fBuffer : Nat → UInt8) (offset : Nat) :
    (eighth fBuffer offset).toNat = word fBuffer offset / 8 % 256 := by
  have high := (fBuffer offset).toNat_lt
  have low := (fBuffer (offset + 1)).toNat_lt
  have small : (fBuffer (offset + 1)).toNat >>> 3 < 2 ^ 5 := by
    rw [Nat.shiftRight_eq_div_pow]
    omega
  have value : (eighth fBuffer offset).toNat =
      ((fBuffer offset).toNat <<< 5 ||| (fBuffer (offset + 1)).toNat >>> 3) % 256 :=
    UInt8.toNat_ofNat'
  rw [value, ← Nat.shiftLeft_add_eq_or_of_lt small, Nat.shiftLeft_eq, Nat.shiftRight_eq_div_pow,
    word_eq]
  omega

/-- No more bytes than there are. -/
theorem filled_le (length : Nat) : filled length ≤ 128 := Nat.min_le_left _ _

/-- A table of some size is handed over as some tables of 128 bytes when it is full and the same, or
when it has 64 bytes that are the same twice. -/
theorem tables_of_size {table tables : List UInt8} {size : Nat} (full : table.length = 128)
    (whole : tables.length = 128) (bound : size ≤ 128) :
    (if size = 64 then table.take 64 ++ table.take 64 else table.take size) = tables ↔
      size = 128 ∧ table = tables ∨ size = 64 ∧ table.take 64 ++ table.take 64 = tables := by
  by_cases one : size = 64
  · rw [if_pos one]
    constructor
    · exact fun same => .inr ⟨one, same⟩
    · rintro (⟨two, _⟩ | ⟨_, same⟩)
      · omega
      · exact same
  · rw [if_neg one]
    by_cases both : size = 128
    · rw [both, List.take_of_length_le (Nat.le_of_eq full)]
      constructor
      · exact fun same => .inl ⟨rfl, same⟩
      · rintro (⟨_, same⟩ | ⟨other, _⟩)
        · exact same
        · omega
    · refine iff_of_false (fun same => ?_) (by omega)
      have length := congrArg List.length same
      rw [List.length_take, full, whole] at length
      omega

/-- The tables that are handed over are some tables of 128 bytes when the last DQT shows them. -/
theorem tables_eq_iff {start : Found} {tables : List UInt8} (whole : tables.length = 128) :
    (Found.after build.headerSize fBuffer start (build.lookedAt fBuffer)).tables = tables ↔
      ShowsTables build fBuffer tables := by
  rw [ShowsTables, Found.tables, Found.after]
  cases last : (dqtsOf build.headerSize fBuffer (build.lookedAt fBuffer)).getLast? with
  | none =>
    have absent : ¬ ∃ i, none = some i ∧
        (filled (segmentLength fBuffer i) = 128 ∧ tablesAt fBuffer i = tables ∨
          filled (segmentLength fBuffer i) = 64 ∧
            bytesAt fBuffer (i + 5) 64 ++ bytesAt fBuffer (i + 5) 64 = tables) := by
      rintro ⟨i, absent, _⟩
      exact absurd absent (Option.some_ne_none i).symm
    refine iff_of_false ?_ absent
    intro empty
    have length : ([] : List UInt8).length = tables.length := by
      rw [← empty]
      exact rfl
    rw [whole] at length
    exact absurd length (by decide)
  | some i =>
    have half : (tablesAt fBuffer i).take 64 = bytesAt fBuffer (i + 5) 64 := by
      rw [tablesAt, List.take_append_of_le_length (Nat.le_of_eq (bytesAt_length _ _ _).symm)]
      exact List.take_of_length_le (Nat.le_of_eq (bytesAt_length _ _ _))
    have unique : (∃ j, some i = some j ∧
        (filled (segmentLength fBuffer j) = 128 ∧ tablesAt fBuffer j = tables ∨
          filled (segmentLength fBuffer j) = 64 ∧
            bytesAt fBuffer (j + 5) 64 ++ bytesAt fBuffer (j + 5) 64 = tables)) ↔
        (filled (segmentLength fBuffer i) = 128 ∧ tablesAt fBuffer i = tables ∨
          filled (segmentLength fBuffer i) = 64 ∧
            bytesAt fBuffer (i + 5) 64 ++ bytesAt fBuffer (i + 5) 64 = tables) := by
      constructor
      · rintro ⟨j, same, shown⟩
        rw [Option.some.inj same]
        exact shown
      · exact fun shown => ⟨i, rfl, shown⟩
    rw [unique]
    simp -implicitDefEqProofs only [Option.elim_some]
    rw [← half]
    exact tables_of_size (tablesAt_length fBuffer i) whole (filled_le _)

/-- The size that is handed over is that of the header whatever the members were when the last SOF0
shows it. -/
theorem size_eq_iff (height width : Nat) :
    (∀ members : Members,
      (Found.after build.headerSize fBuffer members.start (build.lookedAt fBuffer)).height.toNat =
          height / 8 ∧
        (Found.after build.headerSize fBuffer members.start (build.lookedAt fBuffer)).width.toNat =
          width / 8) ↔
      ShowsSize build fBuffer height width := by
  simp only [ShowsSize, Found.after]
  cases last : lastSof0 fBuffer (build.lookedAt fBuffer) with
  | none =>
    apply iff_of_false
    · intro all
      -- what a frame before has left is not what this one has
      have first := (all ⟨List.replicate 128 0, 0, 0, List.length_replicate⟩).1
      have second := (all ⟨List.replicate 128 0, 1, 0, List.length_replicate⟩).1
      have differ : (0 : UInt8).toNat = (1 : UInt8).toNat := first.trans second.symm
      exact absurd differ (by decide)
    · rintro ⟨i, absent, _⟩
      exact absurd absent (Option.some_ne_none i).symm
  | some i =>
    constructor
    · intro all
      have shown := all ⟨List.replicate 128 0, 0, 0, List.length_replicate⟩
      simp only [Option.elim_some, eighth_toNat] at shown
      exact ⟨i, rfl, shown⟩
    · rintro ⟨j, same, shown⟩ members
      obtain rfl := Option.some.inj same
      simp only [Option.elim_some, eighth_toNat]
      exact shown

/-- The scan reads inside the frame when it does so at each position. -/
theorem reach_le_iff (members : Members) (headerSize bound : Nat) (done : List Nat) :
    (Found.after headerSize fBuffer members.start done).reach ≤ bound ↔
      ∀ i ∈ done, reachAt headerSize fBuffer i ≤ bound := by
  suffices from_start : ∀ start,
      done.foldl (fun reach i => max reach (reachAt headerSize fBuffer i)) start ≤ bound ↔
        start ≤ bound ∧ ∀ i ∈ done, reachAt headerSize fBuffer i ≤ bound from
    (from_start 0).trans (and_iff_right (Nat.zero_le bound))
  induction done with
  | nil => exact fun start => (and_iff_left (List.forall_mem_nil _)).symm
  | cons i rest ih =>
    intro start
    rw [List.foldl_cons, ih, Nat.max_le, List.forall_mem_cons, and_assoc]

/-- The header is taken off the bytes that fit. -/
theorem deliveredSize_eq (headerSize frameSize fMaxSize : Nat) :
    deliveredSize headerSize frameSize fMaxSize = min frameSize fMaxSize - headerSize := by
  have least : (if frameSize < fMaxSize then frameSize else fMaxSize) = min frameSize fMaxSize := by
    split_ifs <;> omega
  rw [deliveredSize, least]
  split_ifs <;> omega

/-- The payload is handed over and counted as it should be when the whole frame has room, or there is
no payload. -/
theorem delivered_iff {frameSize fMaxSize lost : Nat} {payload : List UInt8}
    (frame : HoldsFrame fBuffer frameSize header payload) :
    bytesAt fBuffer build.headerSize (deliveredSize build.headerSize frameSize fMaxSize) =
          payload.take fMaxSize ∧ lost = lost + (payload.length - fMaxSize) ↔
      frameSize ≤ fMaxSize ∨ payload = [] := by
  have size : header.bytes.length = build.headerSize := header.whole
  have length := congrArg List.length frame
  rw [bytesAt_length, List.length_append, size] at length
  have behind : bytesAt fBuffer build.headerSize payload.length = payload := by
    rw [HoldsFrame, length, bytesAt_add] at frame
    have second := (List.append_inj frame ((bytesAt_length _ _ _).trans size.symm)).2
    rw [Nat.zero_add] at second
    exact second
  constructor
  · rintro ⟨bytes, counted⟩
    have room : payload.length ≤ fMaxSize := by omega
    rw [List.take_of_length_le room] at bytes
    have sizes := congrArg List.length bytes
    rw [bytesAt_length, deliveredSize_eq] at sizes
    by_cases fits : frameSize ≤ fMaxSize
    · exact .inl fits
    · exact .inr (List.eq_nil_of_length_eq_zero (by omega))
  · intro fits
    have room : payload.length ≤ fMaxSize := by
      rcases fits with fits | none
      · omega
      · rw [none]
        exact Nat.zero_le _
    have sizes : deliveredSize build.headerSize frameSize fMaxSize = payload.length := by
      rw [deliveredSize_eq]
      rcases fits with fits | none
      · omega
      · rw [none, List.length_nil] at length ⊢
        omega
    rw [sizes, behind, List.take_of_length_le room]
    exact ⟨rfl, by omega⟩

/-! ## A plain header -/

/-- A DQT of a plain header has the tables of one segment. -/
theorem plain_tables (plain : header.Plain) (held : Holds fBuffer 0 header.bytes)
    (dqt : IsDqt build.headerSize fBuffer i) :
    (header.OneDqt ∧ segmentLength fBuffer i = 132 ∧ tablesAt fBuffer i = header.tableBytes) ∨
      (¬ header.OneDqt ∧ segmentLength fBuffer i = 67 ∧
        (bytesAt fBuffer (i + 5) 64 = header.first.values ∨
          bytesAt fBuffer (i + 5) 64 = header.second.values)) := by
  obtain ⟨tables, given, there⟩ := plain_dqt plain held dqt
  obtain ⟨_, length, tablesHeld⟩ := dqt_at held there
  rcases header.dqt_cases with ⟨one, all⟩ | ⟨notOne, all⟩
  · obtain rfl := all i tables given there
    obtain ⟨first, rest⟩ := table_at tablesHeld
    obtain ⟨second, _⟩ := table_at rest
    refine .inl ⟨one, length, ?_⟩
    rw [tablesAt, Header.tableBytes]
    exact congrArg₂ _ first second
  · rcases all i tables given there with rfl | rfl
    · exact .inr ⟨notOne, length, .inl (table_at tablesHeld).1⟩
    · exact .inr ⟨notOne, length, .inr (table_at tablesHeld).1⟩

/-- The scan of a plain header looks at a DQT and at a SOF0. -/
theorem plain_looked (plain : header.Plain) (held : Holds fBuffer 0 header.bytes)
    (layout : build.Layout fBuffer) :
    (∃ i ∈ build.lookedAt fBuffer, IsDqt build.headerSize fBuffer i) ∧
      ∃ i ∈ build.lookedAt fBuffer, IsSof0 fBuffer i := by
  have ends : Complete build.headerSize fBuffer (build.lookedAt fBuffer) ∨
      build.lookedAt fBuffer = [] ++ build.path fBuffer := Prefixes.upTo_all [] _
  rcases ends with complete | all
  · obtain ⟨⟨i, there, dqt, _⟩, sof0⟩ := complete
    exact ⟨⟨i, there, dqt⟩, sof0⟩
  · rw [all, List.nil_append]
    cases build with
    | dm355 =>
      obtain ⟨i, tables, given, dqt⟩ := header.exists_dqt
      obtain ⟨j, ⟨components, given', sof0⟩, _⟩ := header.exists_sof0
      exact ⟨⟨i, places_passed plain held dqt, (dqt_at held dqt).1⟩,
        ⟨j, places_passed plain held sof0, (sof0_at held sof0).1⟩⟩
    | other =>
      obtain ⟨dqt, _, sof0⟩ := layout
      have short : segmentLength fBuffer 0x14 < 584 := by
        rcases plain_tables plain held dqt with ⟨_, length, _⟩ | ⟨_, length, _⟩ <;> omega
      rw [Build.path, if_pos short]
      exact ⟨⟨0x14, List.mem_cons_self, dqt⟩,
        ⟨0x23e, .tail _ List.mem_cons_self, sof0 short⟩⟩

/-- What the scan of a plain header shows of the tables. -/
theorem plain_shows_tables (plain : header.Plain) (held : Holds fBuffer 0 header.bytes)
    (layout : build.Layout fBuffer) :
    ShowsTables build fBuffer header.tableBytes ↔
      header.OneDqt ∨ header.first.values = header.second.values := by
  obtain ⟨⟨i, dqtThere, dqt⟩, _⟩ := plain_looked plain held layout
  -- the last DQT is one of the header
  have member : i ∈ dqtsOf build.headerSize fBuffer (build.lookedAt fBuffer) := by
    simpa [dqtsOf] using ⟨dqtThere, dqt⟩
  obtain ⟨last, ends⟩ := Option.isSome_iff_exists.mp
    (List.getLast?_isSome.mpr (List.ne_nil_of_mem member))
  have lastDqt : IsDqt build.headerSize fBuffer last := by
    have lastMember := List.mem_of_getLast? ends
    simp only [dqtsOf, List.mem_filter, decide_eq_true_eq] at lastMember
    exact lastMember.2
  rw [ShowsTables, ends]
  rcases plain_tables plain held lastDqt with ⟨one, length, same⟩ | ⟨notOne, length, same⟩
  · refine iff_of_true ⟨last, rfl, .inl ⟨?_, same⟩⟩ (.inl one)
    rw [length]
    decide
  · have half : filled (segmentLength fBuffer last) = 64 := by
      rw [length]
      decide
    have twice : header.first.values = header.second.values ↔
        bytesAt fBuffer (last + 5) 64 ++ bytesAt fBuffer (last + 5) 64 = header.tableBytes := by
      rw [Header.tableBytes]
      have sizes : (bytesAt fBuffer (last + 5) 64).length = header.first.values.length := by
        rw [bytesAt_length, header.first.valuesLength]
      constructor
      · intro equal
        rcases same with same | same
        · rw [same, ← equal]
        · rw [same, equal]
      · intro equal
        obtain ⟨left, right⟩ := List.append_inj equal sizes
        exact left.symm.trans right
    rw [twice]
    constructor
    · rintro ⟨j, found, shown⟩
      obtain rfl := Option.some.inj found
      rcases shown with ⟨full, _⟩ | ⟨_, shown⟩
      · omega
      · exact .inr shown
    · rintro (one | shown)
      · exact absurd one notOne
      · exact ⟨last, rfl, .inr ⟨half, shown⟩⟩

/-- What the scan of a plain header shows of the size. -/
theorem plain_shows_size (plain : header.Plain) (held : Holds fBuffer 0 header.bytes)
    (layout : build.Layout fBuffer) :
    ShowsSize build fBuffer header.size.1.toNat header.size.2.toNat ↔
      header.size.1.toNat < 2048 ∧ header.size.2.toNat < 2048 := by
  obtain ⟨_, ⟨j, sof0There, sof0⟩⟩ := plain_looked plain held layout
  -- the last SOF0 is the one of the header
  obtain ⟨last, ends⟩ := Option.isSome_iff_exists.mp
    ((lastSof0_isSome (build.lookedAt fBuffer)).mpr ⟨j, sof0There, sof0⟩)
  have lastMember := List.mem_of_getLast? ends
  simp only [List.mem_filter, decide_eq_true_eq] at lastMember
  have bound := build.headerSize_le
  have below := build.lookedAt_lt lastMember.1
  obtain ⟨height, width, components, given, there⟩ :=
    plain_sof0 plain held (by omega) lastMember.2
  obtain ⟨only, ⟨components', given', sizes⟩, unique⟩ := header.exists_sof0
  obtain rfl := unique last height width components given there
  obtain ⟨_, heightHeld, widthHeld⟩ := sof0_at held sizes
  rw [ShowsSize, ends]
  constructor
  · rintro ⟨j, found, heightShown, widthShown⟩
    obtain rfl := Option.some.inj found
    rw [heightHeld] at heightShown
    rw [widthHeld] at widthShown
    omega
  · intro small
    refine ⟨last, rfl, ?_, ?_⟩
    · rw [heightHeld]
      omega
    · rw [widthHeld]
      omega

/-- What the scan of a plain header shows. -/
theorem plain_shown (plain : header.Plain) (held : Holds fBuffer 0 header.bytes)
    (layout : build.Layout fBuffer) :
    ShowsTables build fBuffer header.tableBytes ∧
        ShowsSize build fBuffer header.size.1.toNat header.size.2.toNat ↔
      (header.OneDqt ∨ header.first.values = header.second.values) ∧
        header.size.1.toNat < 2048 ∧ header.size.2.toNat < 2048 :=
  and_congr (plain_shows_tables plain held layout) (plain_shows_size plain held layout)

/-! ## The frame -/

/-- A header is shown when the scan shows its tables and its size. -/
theorem shown_iff (held : Holds fBuffer 0 header.bytes) (layout : build.Layout fBuffer) :
    header.Shown build fBuffer ↔
      ShowsTables build fBuffer header.tableBytes ∧
        ShowsSize build fBuffer header.size.1.toNat header.size.2.toNat := by
  by_cases plain : header.Plain
  · rw [plain_shown plain held layout]
    exact ⟨fun shown => shown.plain plain, fun all => ⟨fun _ => all, fun not => absurd plain not⟩⟩
  · exact ⟨fun shown => shown.misled plain, fun all => ⟨fun is => absurd is plain, fun _ => all⟩⟩

/-- A frame is handed over when the scan ends, and then what the positions show is handed over. -/
theorem afterGettingFrame1_iff {frameSize fMaxSize numTruncatedBytes : Nat} {members : Members}
    {frame : Frame} :
    AfterGettingFrame1 build fBuffer frameSize fMaxSize numTruncatedBytes members frame ↔
      (build.Layout fBuffer ∧ StoresInside build.headerSize fBuffer (build.lookedAt fBuffer)) ∧
        frame = handOver build fBuffer frameSize fMaxSize numTruncatedBytes
          (Found.after build.headerSize fBuffer members.start (build.lookedAt fBuffer)) := by
  simp only [AfterGettingFrame1, ends_iff]
  constructor
  · rintro ⟨found, ⟨layout, inside, rfl⟩, rfl⟩
    exact ⟨⟨layout, inside⟩, rfl⟩
  · rintro ⟨⟨layout, inside⟩, rfl⟩
    exact ⟨_, ⟨layout, inside, rfl⟩, rfl⟩

/-- In every build, for every content of the buffer, frame size and room, a right frame is handed
over exactly when the segments are where the build expects them, no DQT that is looked at follows
one that stands for some bytes, all that is read is inside the frame, and for a frame with a
well-formed header that is shown the whole frame has room or there is no payload. -/
theorem after_getting_frame_iff (build : Build) (fBuffer : Nat → UInt8)
    (frameSize fMaxSize numTruncatedBytes : Nat) :
    HandsOver build fBuffer frameSize fMaxSize numTruncatedBytes ↔
      build.Layout fBuffer ∧ StoresInside build.headerSize fBuffer (build.lookedAt fBuffer) ∧
        ((∀ i ∈ build.lookedAt fBuffer, reachAt build.headerSize fBuffer i ≤ frameSize) ∧
          ∀ position, build.ReadsRestart fBuffer position → position < frameSize) ∧
        ∀ (header : Header build.headerSize) (payload : List UInt8),
          HoldsFrame fBuffer frameSize header payload →
            header.Shown build fBuffer ∧ (frameSize ≤ fMaxSize ∨ payload = []) := by
  simp only [HandsOver, afterGettingFrame1_iff]
  have lengths : ∀ header : Header build.headerSize, header.tableBytes.length = 128 := by
    intro header
    rw [Header.tableBytes, List.length_append, header.first.valuesLength,
      header.second.valuesLength]
  constructor
  · intro all
    have anyMembers : Members := ⟨List.replicate 128 0, 0, 0, List.length_replicate⟩
    obtain ⟨frame, ⟨⟨layout, stores⟩, rfl⟩, right⟩ := all anyMembers
    have reads := Nat.max_le.mp right.inside
    refine ⟨layout, stores, ⟨(reach_le_iff anyMembers _ _ _).mp reads.1,
      Build.restart_le_iff.mp reads.2⟩, ?_⟩
    intro header payload holds
    obtain ⟨tables, _, bytes, counted⟩ := right.shown header payload holds
    refine ⟨(shown_iff holds.holds layout).mpr ⟨(tables_eq_iff (lengths header)).mp tables, ?_⟩,
      (delivered_iff holds).mp ⟨bytes, counted⟩⟩
    apply (size_eq_iff _ _).mp
    intro members
    obtain ⟨frame, ⟨_, rfl⟩, right⟩ := all members
    exact (right.shown header payload holds).2.1
  · intro ⟨layout, stores, reads, shown⟩ members
    refine ⟨_, ⟨⟨layout, stores⟩, rfl⟩, ?_, ?_⟩
    · exact Nat.max_le.mpr ⟨(reach_le_iff members _ _ _).mpr reads.1,
        Build.restart_le_iff.mpr reads.2⟩
    · intro header payload holds
      obtain ⟨headerShown, fits⟩ := shown header payload holds
      obtain ⟨tables, size⟩ := (shown_iff holds.holds layout).mp headerShown
      exact ⟨(tables_eq_iff (lengths header)).mpr tables, (size_eq_iff _ _).mpr size members,
        (delivered_iff holds).mpr fits⟩

/-- In the other builds the scan of a frame of zeros does not end. -/
theorem after_getting_frame_hangs : ¬ HandsOver .other (fun _ => 0) 1000 1000 0 := by
  intro all
  obtain ⟨frame, handed, _⟩ := all ⟨List.replicate 128 0, 0, 0, List.length_replicate⟩
  have mark : (0 : UInt8) = 0xff := (afterGettingFrame1_iff.mp handed).1.1.1.1
  exact absurd mark (by decide)

end BoaIpcam.JpegSource
