import BoaIpcam.Rtsp.JpegFrame
import BoaIpcam.Rtsp.JpegLayout
import Mathlib.Data.List.GetD

/-!
# The marks of a well-formed header

What the scan meets at the segments of a header, and what it meets at all when the header is plain:
then a DQT or SOF0 that the scan sees is a segment of the header, and the scan of the DM355 passes
every segment.
-/
namespace BoaIpcam.JpegSource

variable {build : Build} {fBuffer : Nat → UInt8} {header : Header build.headerSize} {i : Nat}

/-! ## At a segment -/

/-- A header has fewer bytes than 16 bits count. -/
theorem Build.headerSize_le (build : Build) : 607 ≤ build.headerSize ∧ build.headerSize ≤ 613 := by
  cases build <;> decide

/-- The tables of a segment take 65 bytes each. -/
theorem tables_length (tables : List QTable) :
    (tables.flatMap QTable.bytes).length = 65 * tables.length := by
  induction tables with
  | nil => rfl
  | cons table rest ih =>
    rw [List.flatMap_cons, List.length_append, ih, QTable.bytes, List.length_cons,
      table.valuesLength, List.length_cons]
    omega

/-- A DQT segment is met as one. -/
theorem dqt_at {tables : List QTable} {given : tables ≠ []}
    (held : Holds fBuffer 0 header.bytes) (there : (i, .dqt tables given) ∈ header.places) :
    IsDqt build.headerSize fBuffer i ∧ segmentLength fBuffer i = 65 * tables.length + 2 ∧
      Holds fBuffer (i + 4) (tables.flatMap QTable.bytes) := by
  have bound := build.headerSize_le
  have inside := (Header.places_inside there).2
  have body : (Segment.dqt tables given).body = tables.flatMap QTable.bytes := rfl
  rw [body] at inside
  have length := tables_length tables
  obtain ⟨mark, kind, size, rest⟩ :=
    holds_marker (by rw [body]; omega) (Header.places_holds held there)
  rw [body, length] at size
  exact ⟨⟨mark, kind, by omega⟩, size, rest⟩

/-- One table is held behind the head of its segment. -/
theorem table_at {table : QTable} {rest : List QTable} {offset : Nat}
    (held : Holds fBuffer offset ((table :: rest).flatMap QTable.bytes)) :
    bytesAt fBuffer (offset + 1) 64 = table.values ∧
      Holds fBuffer (offset + 65) (rest.flatMap QTable.bytes) := by
  rw [List.flatMap_cons] at held
  obtain ⟨front, back⟩ := holds_append.mp held
  have values := (holds_cons.mp front).2
  rw [Holds, table.valuesLength] at values
  rw [QTable.bytes, List.length_cons, table.valuesLength] at back
  exact ⟨values, back⟩

/-- A SOF0 segment is met as one, and shows its size. -/
theorem sof0_at {height width : UInt16} {components : List (UInt8 × UInt8 × UInt8)}
    {given : components ≠ []} (held : Holds fBuffer 0 header.bytes)
    (there : (i, .sof0 height width components given) ∈ header.places) :
    IsSof0 fBuffer i ∧ word fBuffer (i + 5) = height.toNat ∧ word fBuffer (i + 7) = width.toNat := by
  have bound := build.headerSize_le
  have inside := (Header.places_inside there).2
  obtain ⟨mark, kind, _, rest⟩ := holds_marker (by omega) (Header.places_holds held there)
  obtain ⟨_, rest⟩ := holds_cons.mp (holds_append.mp rest).1
  obtain ⟨sizes, _⟩ := holds_append.mp rest
  obtain ⟨heightHeld, widthHeld⟩ := holds_append.mp sizes
  exact ⟨⟨mark, kind⟩, word_of_holds height.toNat_lt heightHeld,
    word_of_holds width.toNat_lt widthHeld⟩

/-! ## In a plain header -/

/-- A byte of the header is in the buffer. -/
theorem holds_getD {bytes : List UInt8} (held : Holds fBuffer 0 bytes) (inside : i < bytes.length) :
    bytes.getD i 0 = fBuffer i := by
  have same : bytes.getD i 0 = (bytesAt fBuffer 0 bytes.length).getD i 0 := by rw [held]
  rw [same, List.getD_eq_getElem _ _ (by rw [bytesAt_length]; exact inside)]
  simp [bytesAt]

/-- In a plain header a mark is the head of a segment. -/
theorem plain_segment (plain : header.Plain) (held : Holds fBuffer 0 header.bytes)
    (inside : i + 1 < build.headerSize) (mark : fBuffer i = 0xff)
    (kind : fBuffer (i + 1) = 0xdb ∨ fBuffer (i + 1) = 0xc0) :
    ∃ segment, (i, segment) ∈ header.places ∧ segment.marker = fBuffer (i + 1) := by
  have size : header.bytes.length = build.headerSize := header.whole
  have first := holds_getD held (i := i) (by omega)
  have second := holds_getD held (i := i + 1) (by omega)
  rw [← first] at mark
  rw [← second] at kind ⊢
  exact plain i mark kind

/-- In a plain header a DQT that is met is a DQT segment. -/
theorem plain_dqt (plain : header.Plain) (held : Holds fBuffer 0 header.bytes)
    (dqt : IsDqt build.headerSize fBuffer i) :
    ∃ tables given, (i, Segment.dqt tables given) ∈ header.places := by
  obtain ⟨mark, kind, inside⟩ := dqt
  obtain ⟨segment, there, marker⟩ := plain_segment plain held (by omega) mark (.inl kind)
  rw [kind] at marker
  cases segment with
  | dqt tables given => exact ⟨tables, given, there⟩
  | sof0 height width components given =>
    have same : (0xc0 : UInt8) = 0xdb := marker
    exact absurd same (by decide)
  | other other body valid =>
    have same : other = 0xdb := marker
    rw [same] at valid
    exact absurd valid (by decide)

/-- In a plain header a SOF0 that is met is a SOF0 segment. -/
theorem plain_sof0 (plain : header.Plain) (held : Holds fBuffer 0 header.bytes)
    (inside : i + 1 < build.headerSize) (sof0 : IsSof0 fBuffer i) :
    ∃ height width components given,
      (i, Segment.sof0 height width components given) ∈ header.places := by
  obtain ⟨mark, kind⟩ := sof0
  obtain ⟨segment, there, marker⟩ := plain_segment plain held inside mark (.inr kind)
  rw [kind] at marker
  cases segment with
  | dqt tables given =>
    have same : (0xdb : UInt8) = 0xc0 := marker
    exact absurd same (by decide)
  | sof0 height width components given => exact ⟨height, width, components, given, there⟩
  | other other body valid =>
    have same : other = 0xc0 := marker
    rw [same] at valid
    exact absurd valid (by decide)

/-! ## The segments of each kind -/

/-- The places of the segments from which something is taken, and what is taken. -/
def Header.marked {α : Type} {headerSize : Nat} (header : Header headerSize)
    (take : Segment → Option α) : List (Nat × α) :=
  header.places.filterMap fun place => (take place.2).map fun value => (place.1, value)

section Marked

variable {α : Type} {take : Segment → Option α}

/-- What is marked comes from a segment. -/
theorem Header.mem_marked {value : α} :
    (i, value) ∈ header.marked take ↔
      ∃ segment, (i, segment) ∈ header.places ∧ take segment = some value := by
  rw [Header.marked, List.mem_filterMap]
  constructor
  · rintro ⟨⟨place, segment⟩, there, taken⟩
    obtain ⟨other, given, same⟩ := Option.map_eq_some_iff.mp taken
    obtain ⟨rfl, rfl⟩ := Prod.mk.inj same
    exact ⟨segment, there, given⟩
  · rintro ⟨segment, there, given⟩
    exact ⟨(i, segment), there, Option.map_eq_some_iff.mpr ⟨value, given, rfl⟩⟩

/-- What is taken is what the segments have. -/
theorem Header.marked_map (header : Header build.headerSize) (take : Segment → Option α) :
    (header.marked take).map Prod.snd = header.segments.filterMap take := by
  have segments : header.places.map Prod.snd = header.segments := placed_map 2 header.segments
  rw [Header.marked, List.map_filterMap, ← segments, List.filterMap_map]
  apply List.filterMap_congr
  intro place _
  show ((take place.2).map _).map Prod.snd = take place.2
  cases take place.2 <;> rfl

end Marked

/-- Lists with something in them that have no item together. -/
theorem flatten_eq_none {α : Type} {lists : List (List α)} (given : ∀ list ∈ lists, list ≠ [])
    (flat : lists.flatten = []) : lists = [] := by
  cases lists with
  | nil => rfl
  | cons first rest =>
    have empty : first = [] := List.flatten_eq_nil_iff.mp flat first List.mem_cons_self
    exact absurd empty (given first List.mem_cons_self)

/-- Lists with something in them begin with the first item of all, and go on with the others. -/
theorem flatten_eq_cons {α : Type} {lists : List (List α)} {item : α} {items : List α}
    (given : ∀ list ∈ lists, list ≠ []) (flat : lists.flatten = item :: items) :
    ∃ front rest, lists = (item :: front) :: rest ∧ front ++ rest.flatten = items ∧
      ∀ list ∈ rest, list ≠ [] := by
  cases lists with
  | nil => exact absurd flat.symm (List.cons_ne_nil _ _)
  | cons first rest =>
    cases first with
    | nil => exact absurd rfl (given [] List.mem_cons_self)
    | cons head front =>
      rw [List.flatten_cons, List.cons_append] at flat
      obtain ⟨rfl, whole⟩ := List.cons_eq_cons.mp flat
      exact ⟨front, rest, rfl, whole, fun list there => given list (.tail _ there)⟩

/-- Lists with something in them that have two items together. -/
theorem flatten_eq_pair {α : Type} {lists : List (List α)} {first second : α}
    (given : ∀ list ∈ lists, list ≠ []) (flat : lists.flatten = [first, second]) :
    lists = [[first, second]] ∨ lists = [[first], [second]] := by
  obtain ⟨front, rest, rfl, whole, restGiven⟩ := flatten_eq_cons given flat
  rcases List.append_eq_singleton_iff.mp whole with ⟨rfl, later⟩ | ⟨rfl, later⟩
  · obtain ⟨front, more, rfl, whole, moreGiven⟩ := flatten_eq_cons restGiven later
    obtain ⟨rfl, last⟩ := List.append_eq_nil_iff.mp whole
    rw [flatten_eq_none moreGiven last]
    exact .inr rfl
  · rw [flatten_eq_none restGiven later]
    exact .inl rfl

/-- A segment with a size is a SOF0. -/
theorem Segment.size_eq {segment : Segment} {size : UInt16 × UInt16}
    (taken : segment.size? = some size) :
    ∃ components given, segment = .sof0 size.1 size.2 components given := by
  cases segment with
  | sof0 height width components given =>
    obtain rfl := Option.some.inj taken
    exact ⟨components, given, rfl⟩
  | dqt _ _ => exact absurd taken (Option.some_ne_none size).symm
  | other _ _ _ => exact absurd taken (Option.some_ne_none size).symm

/-- A segment with tables is a DQT. -/
theorem Segment.tables_eq {segment : Segment} {tables : List QTable}
    (taken : segment.tables? = some tables) : ∃ given, segment = .dqt tables given := by
  cases segment with
  | dqt others given =>
    obtain rfl := Option.some.inj taken
    exact ⟨given, rfl⟩
  | sof0 _ _ _ _ => exact absurd taken (Option.some_ne_none tables).symm
  | other _ _ _ => exact absurd taken (Option.some_ne_none tables).symm

/-- A header has one SOF0 segment. -/
theorem Header.exists_sof0 (header : Header build.headerSize) :
    ∃ i, (∃ components given,
        (i, Segment.sof0 header.size.1 header.size.2 components given) ∈ header.places) ∧
      ∀ j height width components given,
        (j, Segment.sof0 height width components given) ∈ header.places → j = i := by
  have values := header.marked_map Segment.size?
  rw [header.sizes] at values
  obtain ⟨⟨i, size⟩, only, same⟩ := List.map_eq_singleton_iff.mp values
  have listed : (i, size) ∈ header.marked Segment.size? := by
    rw [only]
    exact List.mem_singleton_self _
  obtain ⟨segment, there, taken⟩ := Header.mem_marked.mp listed
  obtain ⟨components, given, rfl⟩ := Segment.size_eq taken
  have sizeEq : size = header.size := same
  rw [sizeEq] at there
  refine ⟨i, ⟨components, given, there⟩, fun j height width others given' other => ?_⟩
  have listed : (j, (height, width)) ∈ header.marked Segment.size? :=
    Header.mem_marked.mpr ⟨_, other, rfl⟩
  rw [only] at listed
  exact congrArg Prod.fst (List.mem_singleton.mp listed)

/-- A header has a DQT segment. -/
theorem Header.exists_dqt (header : Header build.headerSize) :
    ∃ i tables given, (i, Segment.dqt tables given) ∈ header.places := by
  have values := header.marked_map Segment.tables?
  have flat := header.tables
  rw [← values] at flat
  cases marks : header.marked Segment.tables? with
  | nil =>
    rw [marks] at flat
    exact absurd flat.symm (List.cons_ne_nil _ _)
  | cons mark rest =>
    have listed : (mark.1, mark.2) ∈ header.marked Segment.tables? := by
      rw [marks]
      exact List.mem_cons_self
    obtain ⟨segment, there, taken⟩ := Header.mem_marked.mp listed
    obtain ⟨given, rfl⟩ := Segment.tables_eq taken
    exact ⟨mark.1, mark.2, given, there⟩

/-- The DQT segments of a header are one with both tables or two with one each. -/
theorem Header.dqt_cases (header : Header build.headerSize) :
    (header.OneDqt ∧ ∀ i tables given, (i, Segment.dqt tables given) ∈ header.places →
      tables = [header.first, header.second]) ∨
    (¬ header.OneDqt ∧ ∀ i tables given, (i, Segment.dqt tables given) ∈ header.places →
      tables = [header.first] ∨ tables = [header.second]) := by
  have given : ∀ tables ∈ header.segments.filterMap Segment.tables?, tables ≠ [] := by
    intro tables there
    obtain ⟨segment, _, taken⟩ := List.mem_filterMap.mp there
    obtain ⟨given, rfl⟩ := Segment.tables_eq taken
    exact given
  have listed : ∀ i tables given, (i, Segment.dqt tables given) ∈ header.places →
      tables ∈ header.segments.filterMap Segment.tables? := by
    intro i tables given there
    rw [← header.marked_map]
    exact List.mem_map.mpr ⟨(i, tables), Header.mem_marked.mpr ⟨_, there, rfl⟩, rfl⟩
  rcases flatten_eq_pair given header.tables with one | two
  · refine .inl ⟨one, fun i tables given there => ?_⟩
    have member := listed i tables given there
    rw [one] at member
    exact List.mem_singleton.mp member
  · have notOne : ¬ header.OneDqt := by
      intro same
      rw [Header.OneDqt, two] at same
      exact absurd (congrArg List.length same) (Nat.succ_ne_self 1)
    refine .inr ⟨notOne, fun i tables given there => ?_⟩
    have member := listed i tables given there
    rw [two] at member
    rcases List.mem_cons.mp member with same | same
    · exact .inl same
    · exact .inr (List.mem_singleton.mp same)

end BoaIpcam.JpegSource
