import BoaIpcam.Rtsp.JpegMarks

/-!
# The scan of a plain header

In a plain header the scan looks at the segments of the header and is not misled by other bytes. So
what it has found can be read off the header: the size of the picture, and both tables when they are
in one segment.
-/
namespace BoaIpcam.JpegSource

variable {build : Build} {fBuffer : Nat → UInt8} {header : Header build.headerSize} {i j : Nat}

/-! ## Along a path -/

/-- Positions of a path are in front of the last eight bytes. -/
theorem path_lt {headerSize : Nat} (there : j ∈ path headerSize fBuffer i) : j < headerSize - 8 := by
  fun_induction path headerSize fBuffer i with
  | case1 i more ih =>
    rcases List.mem_cons.mp there with rfl | later
    · exact more
    · exact ih later
  | case2 i beyond => exact absurd there List.not_mem_nil

/-- A path goes on where the loop goes on. -/
theorem path_next {headerSize : Nat} (there : j ∈ path headerSize fBuffer i)
    (more : nextAt headerSize fBuffer j < headerSize - 8) :
    nextAt headerSize fBuffer j ∈ path headerSize fBuffer i := by
  fun_induction path headerSize fBuffer i with
  | case1 i inside ih =>
    rcases List.mem_cons.mp there with rfl | later
    · rw [path, if_pos more]
      exact .tail _ List.mem_cons_self
    · exact .tail _ (ih later)
  | case2 i beyond => exact absurd there List.not_mem_nil

/-- A path passes bytes that mark nothing one by one. -/
theorem path_steps {headerSize stop : Nat} (start : Nat) (there : j ∈ path headerSize fBuffer i)
    (order : j ≤ stop) (more : stop < headerSize - 8) (behind : start ≤ j)
    (none : ∀ k, start ≤ k → k < stop → ¬ IsDqt headerSize fBuffer k ∧ ¬ IsSof0 fBuffer k) :
    stop ∈ path headerSize fBuffer i := by
  induction stop with
  | zero =>
    obtain rfl : j = 0 := Nat.le_zero.mp order
    exact there
  | succ stop ih =>
    rcases Nat.lt_or_ge stop j with beyond | below
    · obtain rfl : j = stop + 1 := by omega
      exact there
    · have before := ih below (by omega) fun k low high => none k low (by omega)
      obtain ⟨noDqt, noSof0⟩ := none stop (by omega) (by omega)
      have next : nextAt headerSize fBuffer stop = stop + 1 := by
        rw [nextAt, if_neg noDqt, if_neg noSof0]
      rw [← next] at more ⊢
      exact path_next before more

/-- A build looks in front of the last eight bytes. -/
theorem Build.lookedAt_lt (build : Build) (there : i ∈ build.lookedAt fBuffer) :
    i < build.headerSize - 8 := by
  have onPath := Prefixes.upTo_subset _ _ i there
  rw [List.nil_append] at onPath
  cases build with
  | dm355 => exact path_lt onPath
  | other =>
    rw [Build.path] at onPath
    rcases List.mem_cons.mp onPath with rfl | later
    · decide
    · split_ifs at later
      · rcases List.mem_cons.mp later with rfl | behind
        · decide
        · exact path_lt behind
      · exact absurd later List.not_mem_nil

/-! ## Past the segments -/

/-- Inside a segment of a plain header nothing is marked. -/
theorem no_mark_inside (plain : header.Plain) (held : Holds fBuffer 0 header.bytes)
    {segment : Segment} (there : (i, segment) ∈ header.places) {k : Nat} (behind : i < k)
    (inside : k < i + segment.bytes.length) :
    ¬ IsDqt build.headerSize fBuffer k ∧ ¬ IsSof0 fBuffer k := by
  have bound := (Header.places_inside there).2
  have length := segment.bytes_length
  constructor
  · intro dqt
    obtain ⟨tables, given, other⟩ := plain_dqt plain held dqt
    have apart := (placed_apart there other (Nat.le_of_lt behind) inside).1
    omega
  · intro sof0
    obtain ⟨height, width, components, given, other⟩ := plain_sof0 plain held (by omega) sof0
    have apart := (placed_apart there other (Nat.le_of_lt behind) inside).1
    omega

/-- The path passes a segment of a plain header from its head to its end. -/
theorem segment_passed (plain : header.Plain) (held : Holds fBuffer 0 header.bytes)
    {segment : Segment} (there : (i, segment) ∈ header.places) {start : Nat}
    (onPath : i ∈ path build.headerSize fBuffer start) :
    i + segment.bytes.length ∈ path build.headerSize fBuffer start := by
  have bound := (Header.places_inside there).2
  have length := segment.bytes_length
  have more : i + segment.bytes.length < build.headerSize - 8 := by omega
  have none := fun k (low : i + 1 ≤ k) (high : k < i + segment.bytes.length) =>
    no_mark_inside plain held there low high
  cases segment with
  | dqt tables given =>
    obtain ⟨dqt, size, _⟩ := dqt_at held there
    have body : (Segment.dqt tables given).body.length = 65 * tables.length :=
      tables_length tables
    have next : nextAt build.headerSize fBuffer i = i + segmentLength fBuffer i + 1 := if_pos dqt
    have landed := path_next onPath (by omega)
    exact path_steps (i + 1) landed (by omega) more (by omega) none
  | sof0 height width components given =>
    obtain ⟨sof0, _⟩ := sof0_at held there
    have noDqt : ¬ IsDqt build.headerSize fBuffer i := fun dqt => dqt.not_sof0 sof0
    have next : nextAt build.headerSize fBuffer i = i + 9 := by
      rw [nextAt, if_neg noDqt, if_pos sof0]
    have body : 6 ≤ (Segment.sof0 height width components given).body.length := by
      simp [Segment.body, bytes16]
    have landed := path_next onPath (by omega)
    exact path_steps (i + 1) landed (by omega) more (by omega) none
  | other marker body valid =>
    have kind : fBuffer (i + 1) = marker :=
      (holds_cons.mp (holds_cons.mp (Header.places_holds held there)).2).1
    have notDb : marker ≠ 0xdb := fun same => absurd (same ▸ valid) (by decide)
    have notC0 : marker ≠ 0xc0 := fun same => absurd (same ▸ valid) (by decide)
    refine path_steps i onPath (by omega) more (Nat.le_refl i) fun k low high => ?_
    rcases Nat.eq_or_lt_of_le low with rfl | behind
    · exact ⟨fun dqt => notDb (kind.symm.trans dqt.2.1), fun sof0 => notC0 (kind.symm.trans sof0.2)⟩
    · exact none k behind high

/-- Where the head of the first segment is passed, the heads of all are. -/
theorem placed_passed {segments : List Segment} {offset start : Nat}
    (pass : ∀ i segment, (i, segment) ∈ placed offset segments →
      i ∈ path build.headerSize fBuffer start →
        i + segment.bytes.length ∈ path build.headerSize fBuffer start)
    (first : offset ∈ path build.headerSize fBuffer start) :
    ∀ i segment, (i, segment) ∈ placed offset segments →
      i ∈ path build.headerSize fBuffer start := by
  induction segments generalizing offset with
  | nil => exact fun i segment there => absurd there List.not_mem_nil
  | cons head rest ih =>
    intro i segment there
    rcases List.mem_cons.mp there with same | later
    · obtain ⟨rfl, rfl⟩ := Prod.mk.inj same
      exact first
    · have next := pass offset head List.mem_cons_self first
      exact ih (fun i segment there => pass i segment (.tail _ there)) next i segment later

/-- The path of the DM355 passes the heads of all segments of a plain header. -/
theorem places_passed {header : Header Build.dm355.headerSize} (plain : header.Plain)
    (held : Holds fBuffer 0 header.bytes) {segment : Segment}
    (there : (i, segment) ∈ header.places) : i ∈ Build.dm355.path fBuffer := by
  have first : fBuffer 0 = 0xff := (holds_cons.mp held).1
  have second : fBuffer 1 = 0xd8 := (holds_cons.mp (holds_cons.mp held).2).1
  have start : 0 ∈ Build.dm355.path fBuffer := by
    rw [Build.path, path, if_pos (by decide)]
    exact List.mem_cons_self
  have two : 2 ∈ Build.dm355.path fBuffer := by
    refine path_steps 0 start (by decide) (by decide) (Nat.le_refl 0) fun k _ high => ?_
    have cases : k = 0 ∨ k = 1 := by omega
    rcases cases with rfl | rfl
    · constructor
      · exact fun dqt => absurd (second.symm.trans dqt.2.1) (by decide)
      · exact fun sof0 => absurd (second.symm.trans sof0.2) (by decide)
    · constructor
      · exact fun dqt => absurd (second.symm.trans dqt.1) (by decide)
      · exact fun sof0 => absurd (second.symm.trans sof0.1) (by decide)
  have pass : ∀ i segment, (i, segment) ∈ placed 2 header.segments →
      i ∈ path Build.dm355.headerSize fBuffer 0 →
        i + segment.bytes.length ∈ path Build.dm355.headerSize fBuffer 0 :=
    fun i segment there => segment_passed plain held there
  exact placed_passed pass two i segment there

end BoaIpcam.JpegSource
