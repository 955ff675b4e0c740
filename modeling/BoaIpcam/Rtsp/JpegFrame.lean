import BoaIpcam.Rtsp.JpegPath
import Mathlib.Data.List.Basic

/-!
# Well-formed headers

The header of a JPEG frame consists of marker segments that follow each other: two quantization
tables of 8-bit values, in one DQT segment or in two, one SOF0 segment with the size of the picture,
other segments, and a SOS segment at the end. Each segment tells its own length.
-/
namespace BoaIpcam.JpegSource

/-! ## Segments -/

/-- A quantization table of 8-bit values with its number. -/
structure QTable where
  /-- The number. -/
  id : UInt8
  /-- The values. -/
  values : List UInt8
  /-- There are four numbers. -/
  idValid : id ≤ 3
  /-- There are 64 values. -/
  valuesLength : values.length = 64

/-- A table in its segment. -/
def QTable.bytes (table : QTable) : List UInt8 := table.id :: table.values

/-- A marker that leads a segment of another kind than DQT, SOF0 and SOS. -/
def OtherMarker (marker : UInt8) : Prop :=
  0xc0 < marker ∧ marker < 0xff ∧ (marker < 0xd0 ∨ 0xdb < marker)

instance (marker : UInt8) : Decidable (OtherMarker marker) :=
  inferInstanceAs (Decidable (_ ∧ _))

/-- The segments of a header in front of the SOS. -/
inductive Segment where
  | dqt (tables : List QTable) (given : tables ≠ [])
  | sof0 (height width : UInt16) (components : List (UInt8 × UInt8 × UInt8)) (given : components ≠ [])
  | other (marker : UInt8) (body : List UInt8) (valid : OtherMarker marker)

/-- The two bytes of a number, the high one first. -/
def bytes16 (value : Nat) : List UInt8 := [UInt8.ofNat (value / 256), UInt8.ofNat value]

/-- A marker and the length and the bytes of its segment. -/
def markerBytes (marker : UInt8) (body : List UInt8) : List UInt8 :=
  0xff :: marker :: bytes16 (body.length + 2) ++ body

/-- The marker of a segment. -/
def Segment.marker : Segment → UInt8
  | .dqt _ _ => 0xdb
  | .sof0 _ _ _ _ => 0xc0
  | .other marker _ _ => marker

/-- What follows the length of a segment. -/
def Segment.body : Segment → List UInt8
  | .dqt tables _ => tables.flatMap QTable.bytes
  | .sof0 height width components _ =>
    8 :: (bytes16 height.toNat ++ bytes16 width.toNat ++ [UInt8.ofNat components.length]) ++
      components.flatMap fun (id, sampling, table) => [id, sampling, table]
  | .other _ body _ => body

/-- The bytes of a segment. -/
def Segment.bytes (segment : Segment) : List UInt8 := markerBytes segment.marker segment.body

/-- The tables of a segment. -/
def Segment.tables? : Segment → Option (List QTable)
  | .dqt tables _ => some tables
  | _ => none

/-- The height and the width in a segment. -/
def Segment.size? : Segment → Option (UInt16 × UInt16)
  | .sof0 height width _ _ => some (height, width)
  | _ => none

/-- The bytes of some segments. -/
def segmentBytes (segments : List Segment) : List UInt8 := segments.flatMap Segment.bytes

/-- Where each of some segments begins. -/
def placed : Nat → List Segment → List (Nat × Segment)
  | _, [] => []
  | offset, segment :: rest => (offset, segment) :: placed (offset + segment.bytes.length) rest

/-! ## Headers -/

/-- A header of some size. -/
structure Header (headerSize : Nat) where
  /-- The segments in front of the scan. -/
  segments : List Segment
  /-- The header of the scan. -/
  scanHeader : List UInt8
  /-- The first table. -/
  first : QTable
  /-- The second one. -/
  second : QTable
  /-- The height and the width. -/
  size : UInt16 × UInt16
  /-- The segments have these two tables. -/
  tables : (segments.filterMap Segment.tables?).flatten = [first, second]
  /-- They have this size. -/
  sizes : segments.filterMap Segment.size? = [size]
  /-- The header of the scan has its fields. -/
  scanHeaderLong : 6 ≤ scanHeader.length
  /-- The header has its size. -/
  whole : ([0xff, 0xd8] ++ (segmentBytes segments ++ markerBytes 0xda scanHeader)).length = headerSize

namespace Header

variable {headerSize : Nat}

/-- The bytes of a header. -/
def bytes (header : Header headerSize) : List UInt8 :=
  [0xff, 0xd8] ++ (segmentBytes header.segments ++ markerBytes 0xda header.scanHeader)

/-- The 128 bytes of its tables. -/
def tableBytes (header : Header headerSize) : List UInt8 :=
  header.first.values ++ header.second.values

/-- Where its segments begin. -/
def places (header : Header headerSize) : List (Nat × Segment) := placed 2 header.segments

/-- Both tables are in one segment. -/
def OneDqt (header : Header headerSize) : Prop :=
  header.segments.filterMap Segment.tables? = [[header.first, header.second]]

/-- The bytes that mark a DQT or a SOF0 stand at the head of such a segment only. -/
def Plain (header : Header headerSize) : Prop :=
  ∀ i, header.bytes.getD i 0 = 0xff →
    header.bytes.getD (i + 1) 0 = 0xdb ∨ header.bytes.getD (i + 1) 0 = 0xc0 →
    ∃ segment, (i, segment) ∈ header.places ∧ segment.marker = header.bytes.getD (i + 1) 0

end Header

/-- The buffer holds a frame of some size with a header and a payload. -/
def HoldsFrame {headerSize : Nat} (fBuffer : Nat → UInt8) (frameSize : Nat)
    (header : Header headerSize) (payload : List UInt8) : Prop :=
  bytesAt fBuffer 0 frameSize = header.bytes ++ payload

/-! ## Bytes in the buffer -/

/-- The buffer holds some bytes at an offset. -/
def Holds (fBuffer : Nat → UInt8) (offset : Nat) (bytes : List UInt8) : Prop :=
  bytesAt fBuffer offset bytes.length = bytes

variable {fBuffer : Nat → UInt8} {offset : Nat}

/-- Bytes at an offset in two parts. -/
theorem bytesAt_add (fBuffer : Nat → UInt8) (offset first second : Nat) :
    bytesAt fBuffer offset (first + second) =
      bytesAt fBuffer offset first ++ bytesAt fBuffer (offset + first) second := by
  rw [bytesAt, List.range_add, List.map_append, List.map_map, bytesAt, bytesAt]
  congr 1
  apply List.map_congr_left
  intro index _
  exact congrArg fBuffer (Nat.add_assoc offset first index).symm

/-- What is held in two parts is held in each. -/
theorem holds_append {first second : List UInt8} :
    Holds fBuffer offset (first ++ second) ↔
      Holds fBuffer offset first ∧ Holds fBuffer (offset + first.length) second := by
  rw [Holds, List.length_append, bytesAt_add]
  constructor
  · intro whole
    exact List.append_inj whole (bytesAt_length _ _ _)
  · intro ⟨left, right⟩
    rw [left, right]

/-- The first byte that is held, and the others. -/
theorem holds_cons {byte : UInt8} {rest : List UInt8} :
    Holds fBuffer offset (byte :: rest) ↔ fBuffer offset = byte ∧ Holds fBuffer (offset + 1) rest := by
  have split : byte :: rest = [byte] ++ rest := rfl
  rw [split, holds_append]
  apply and_congr
  · show [fBuffer (offset + 0)] = [byte] ↔ _
    simp
  · exact Iff.rfl

/-- A frame holds its header. -/
theorem HoldsFrame.holds {headerSize frameSize : Nat} {header : Header headerSize}
    {payload : List UInt8} (frame : HoldsFrame fBuffer frameSize header payload) :
    Holds fBuffer 0 header.bytes := by
  have length := congrArg List.length frame
  rw [bytesAt_length] at length
  rw [HoldsFrame, length] at frame
  exact (holds_append.mp frame).1

/-- The first byte of a number of 16 bits times 256 and the second make the number. -/
theorem word_of_holds {value : Nat} (short : value < 65536)
    (held : Holds fBuffer offset (bytes16 value)) : word fBuffer offset = value := by
  obtain ⟨high, rest⟩ := holds_cons.mp held
  obtain ⟨low, _⟩ := holds_cons.mp rest
  have highValue : (UInt8.ofNat (value / 256)).toNat = value / 256 % 256 := UInt8.toNat_ofNat'
  have lowValue : (UInt8.ofNat value).toNat = value % 256 := UInt8.toNat_ofNat'
  rw [word_eq, high, low, highValue, lowValue]
  omega

/-- The head of a segment tells its marker and its length. -/
theorem holds_marker {marker : UInt8} {body : List UInt8} (short : body.length + 2 < 65536)
    (held : Holds fBuffer offset (markerBytes marker body)) :
    fBuffer offset = 0xff ∧ fBuffer (offset + 1) = marker ∧
      segmentLength fBuffer offset = body.length + 2 ∧ Holds fBuffer (offset + 4) body := by
  obtain ⟨mark, rest⟩ := holds_cons.mp held
  obtain ⟨kind, rest⟩ := holds_cons.mp rest
  obtain ⟨length, rest⟩ := holds_append.mp rest
  exact ⟨mark, kind, word_of_holds short length, rest⟩

/-- A segment has its marker, its length and its body. -/
theorem Segment.bytes_length (segment : Segment) :
    segment.bytes.length = segment.body.length + 4 := by
  simp [Segment.bytes, markerBytes, bytes16]

/-! ## Places -/

/-- The segments that are placed are those that were given. -/
theorem placed_map (offset : Nat) (segments : List Segment) :
    (placed offset segments).map Prod.snd = segments := by
  induction segments generalizing offset with
  | nil => rfl
  | cons segment rest ih => rw [placed, List.map_cons, ih]

/-- A segment is placed inside the bytes of all. -/
theorem placed_inside {segments : List Segment} {i : Nat} {segment : Segment}
    (there : (i, segment) ∈ placed offset segments) :
    offset ≤ i ∧ i + segment.bytes.length ≤ offset + (segmentBytes segments).length := by
  induction segments generalizing offset with
  | nil => exact absurd there List.not_mem_nil
  | cons first rest ih =>
    have length : (segmentBytes (first :: rest)).length =
        first.bytes.length + (segmentBytes rest).length := by
      rw [segmentBytes, List.flatMap_cons, List.length_append, segmentBytes]
    rcases List.mem_cons.mp there with same | later
    · obtain ⟨rfl, rfl⟩ := Prod.mk.inj same
      omega
    · have inside := ih later
      omega

/-- A segment is held where it is placed. -/
theorem placed_holds {segments : List Segment} {i : Nat} {segment : Segment}
    (held : Holds fBuffer offset (segmentBytes segments))
    (there : (i, segment) ∈ placed offset segments) : Holds fBuffer i segment.bytes := by
  induction segments generalizing offset with
  | nil => exact absurd there List.not_mem_nil
  | cons first rest ih =>
    rw [segmentBytes, List.flatMap_cons] at held
    obtain ⟨front, back⟩ := holds_append.mp held
    rcases List.mem_cons.mp there with same | later
    · obtain ⟨rfl, rfl⟩ := Prod.mk.inj same
      exact front
    · exact ih back later

/-- No segment is placed inside another one. -/
theorem placed_apart {segments : List Segment} {i j : Nat} {first second : Segment}
    (one : (i, first) ∈ placed offset segments) (two : (j, second) ∈ placed offset segments)
    (notBefore : i ≤ j) (inside : j < i + first.bytes.length) : j = i ∧ second = first := by
  induction segments generalizing offset with
  | nil => exact absurd one List.not_mem_nil
  | cons head rest ih =>
    have some := head.bytes_length
    rcases List.mem_cons.mp one with sameOne | laterOne
    · obtain ⟨rfl, rfl⟩ := Prod.mk.inj sameOne
      rcases List.mem_cons.mp two with sameTwo | laterTwo
      · exact Prod.mk.inj sameTwo
      · have behind := (placed_inside laterTwo).1
        omega
    · rcases List.mem_cons.mp two with sameTwo | laterTwo
      · obtain ⟨rfl, rfl⟩ := Prod.mk.inj sameTwo
        have behind := (placed_inside laterOne).1
        omega
      · exact ih laterOne laterTwo

namespace Header

variable {headerSize : Nat} {header : Header headerSize} {i : Nat} {segment : Segment}

/-- The segments end in front of the SOS, which has ten bytes at least. -/
theorem places_inside (there : (i, segment) ∈ header.places) :
    2 ≤ i ∧ i + segment.body.length + 14 ≤ headerSize := by
  have inside := placed_inside there
  have size := header.whole
  have long := header.scanHeaderLong
  have length := segment.bytes_length
  simp only [List.length_append, markerBytes, bytes16, List.length_cons, List.length_nil] at size
  omega

/-- A header is held with its segments. -/
theorem places_holds (held : Holds fBuffer 0 header.bytes) (there : (i, segment) ∈ header.places) :
    Holds fBuffer i segment.bytes := by
  obtain ⟨_, rest⟩ := holds_append.mp held
  obtain ⟨segments, _⟩ := holds_append.mp rest
  exact placed_holds segments there

end Header

end BoaIpcam.JpegSource
