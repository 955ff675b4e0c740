import BoaIpcam.Stream.CheckSum

/-!
# The JPEG header of a frame

`add_jpeg_header` of `get.c` fills in a record that stays between two frames, writes its checksum
into it and appends it to the response. It hands `check_sum` the size of the record, a number of
bytes, where a number of words is expected. So the sum goes over the record, with the checksum of
the frame before still in it, and over as many bytes behind it.
-/
namespace BoaIpcam.Jpeg

open OnesComplement

/-! ## The record -/

/-- `struct JPEG_HEADER`, less the 24 reserved bytes at its end, which stay zero. -/
structure JpegHeader where
  /-- The start of the picture. -/
  jpegSoi : UInt8 × UInt8
  /-- The head of the segment. -/
  jpegApp0 : UInt8 × UInt8
  /-- Its length. -/
  length : UInt16
  /-- The checksum. -/
  csum : UInt16
  /-- The size of the frame. -/
  size : UInt32
  /-- The year. -/
  year : UInt16
  /-- The day. -/
  day : UInt8
  /-- The month. -/
  month : UInt8
  /-- The minute. -/
  minute : UInt8
  /-- The hour. -/
  hour : UInt8
  /-- The hundredths of the second. -/
  minisecond : UInt8
  /-- The second. -/
  second : UInt8
  /-- The serial of the frame. -/
  serial : UInt32
  /-- `ID`. -/
  iD : UInt32
  /-- `device_code`. -/
  deviceCode : UInt16
  /-- `quality`. -/
  quality : UInt8
  /-- `rate`. -/
  rate : UInt8
  /-- `resolution`. -/
  resolution : UInt8
  /-- `scale_factor`. -/
  scaleFactor : UInt8
  /-- `flags`. -/
  flags : UInt8
  /-- `alarm`. -/
  alarm : UInt8
  /-- The width of the frame. -/
  width : UInt16
  /-- Its height. -/
  height : UInt16
deriving DecidableEq, Repr

/-- `jpeg_header` as it is initialised. The build gives `MACHINE_CODE`. -/
def jpegHeader (machineCode : UInt16) : JpegHeader where
  jpegSoi := (0xff, 0xd8)
  jpegApp0 := (0xff, 0xe0)
  length := 0x3e00
  csum := 0
  size := 0
  year := 2004
  day := 1
  month := 2
  minute := 30
  hour := 12
  minisecond := 0
  second := 59
  serial := 1
  iD := 0
  deviceCode := machineCode
  quality := 0
  rate := 16
  resolution := 0
  scaleFactor := 0
  flags := 4
  alarm := 0
  width := 352
  height := 224

/-- The bytes of a `__u16`, the low one first. -/
def bytes16 (value : UInt16) : List UInt8 := [value.toUInt8, (value >>> 8).toUInt8]

/-- The bytes of a `__u32`, the low ones first. -/
def bytes32 (value : UInt32) : List UInt8 := bytes16 value.toUInt16 ++ bytes16 (value >>> 16).toUInt16

/-- The bytes of the record behind the checksum. -/
def JpegHeader.restBytes (header : JpegHeader) : List UInt8 :=
  bytes32 header.size ++ bytes16 header.year ++
    [header.day, header.month, header.minute, header.hour, header.minisecond, header.second] ++
    bytes32 header.serial ++ bytes32 header.iD ++ bytes16 header.deviceCode ++
    [header.quality, header.rate, header.resolution, header.scaleFactor, header.flags,
      header.alarm] ++
    bytes16 header.width ++ bytes16 header.height ++ List.replicate 24 0

/-- The bytes of the record. -/
def JpegHeader.bytes (header : JpegHeader) : List UInt8 :=
  [header.jpegSoi.1, header.jpegSoi.2, header.jpegApp0.1, header.jpegApp0.2] ++
    (bytes16 header.length ++ (bytes16 header.csum ++ header.restBytes))

/-- `sizeof(struct JPEG_HEADER)`. -/
def jpegHeaderSize : Nat := 64

/-- The record has that size. -/
theorem JpegHeader.bytes_length (header : JpegHeader) : header.bytes.length = jpegHeaderSize := by
  simp [JpegHeader.bytes, JpegHeader.restBytes, bytes16, bytes32, jpegHeaderSize]

/-- The word that two bytes are read as. -/
def wordOf (low high : UInt8) : UInt16 := low.toUInt16 + 256 * high.toUInt16

/-- The words that some bytes are read as. -/
def wordsOf : List UInt8 → List UInt16
  | low :: high :: rest => wordOf low high :: wordsOf rest
  | _ => []

/-- The words of the record. -/
def JpegHeader.words (header : JpegHeader) : List UInt16 := wordsOf header.bytes

/-! ## The function -/

/-- What a call reads: the time, the frame of the request and the words behind the record. -/
structure Call where
  /-- The years since 1900. -/
  tmYear : Int
  /-- The day of the month. -/
  tmMday : Int
  /-- The month, from zero. -/
  tmMonth : Int
  /-- The minute. -/
  tmMin : Int
  /-- The hour. -/
  tmHour : Int
  /-- The second. -/
  tmSec : Int
  /-- The size of the frame. -/
  filesize : Int
  /-- Its width. -/
  width : Int
  /-- Its height. -/
  height : Int
  /-- Its serial. -/
  serialLock : Int
  /-- The words behind the record. -/
  behind : Nat → UInt16

/-- The assignments of `add_jpeg_header` in front of the checksum. -/
def JpegHeader.fill (header : JpegHeader) (call : Call) : JpegHeader :=
  { header with
    year := .ofInt call.tmYear
    day := .ofInt call.tmMday
    month := .ofInt call.tmMonth
    minute := .ofInt call.tmMin
    hour := .ofInt call.tmHour
    second := .ofInt call.tmSec
    size := .ofInt call.filesize
    width := .ofInt call.width
    height := .ofInt call.height
    serial := .ofInt call.serialLock }

/-- So many words from the front of the record on. -/
def wordsFrom (header : JpegHeader) (behind : Nat → UInt16) (count : Nat) : List UInt16 :=
  (header.words ++ (List.range count).map behind).take count

/-- `add_jpeg_header`: the record that is appended, which stays for the next call. -/
def addJpegHeader (before : JpegHeader) (call : Call) : JpegHeader :=
  { before.fill call with
    csum := checkSum (wordsFrom (before.fill call) call.behind jpegHeaderSize) }

/-- The records that some calls append, one after the other. -/
def addJpegHeaders : JpegHeader → List Call → List JpegHeader
  | _, [] => []
  | before, call :: later =>
    addJpegHeader before call :: addJpegHeaders (addJpegHeader before call) later

/-! ## What is asked -/

/-- The record with no checksum yet. -/
def JpegHeader.blank (header : JpegHeader) : JpegHeader := { header with csum := 0 }

/-- The record verifies, and its checksum is made from its own words. -/
structure JpegHeader.Checked (header : JpegHeader) : Prop where
  /-- The sum of the words is all ones. -/
  verifies : OnesComplement.sum 65536 (wordValues header.words) = 0xffff
  /-- The checksum is that of the record without it. -/
  own : header.csum = checkSum header.blank.words

/-- The sum of the words of a record without its checksum. -/
def JpegHeader.fieldSum (header : JpegHeader) : Nat := (wordValues header.blank.words).sum

/-- The sum of the words behind the record that are taken for words of it. -/
def Call.behindSum (call : Call) : Nat := (wordValues ((List.range 32).map call.behind)).sum

/-- What is behind the record makes up for the checksum that is still in it: at each call, the words
behind it are congruent to the sum of the record before. -/
def Balanced (machineCode : UInt16) : Nat → List Call → Prop
  | _, [] => True
  | owed, call :: later =>
    call.behindSum ≡ owed [MOD 65535] ∧
      Balanced machineCode ((jpegHeader machineCode).fill call).fieldSum later

/-! ## The words of the record -/

/-- A word is read back from its bytes. -/
theorem wordOf_bytes16 (value : UInt16) : wordOf value.toUInt8 (value >>> 8).toUInt8 = value := by
  have below := value.toNat_lt
  have high : (value >>> 8).toNat = value.toNat / 256 := by
    rw [UInt16.toNat_shiftRight]
    exact Nat.shiftRight_eq_div_pow value.toNat 8
  apply UInt16.toNat_inj.mp
  rw [wordOf, UInt16.toNat_add, UInt16.toNat_mul, UInt8.toNat_toUInt16, UInt8.toNat_toUInt16,
    UInt16.toNat_toUInt8, UInt16.toNat_toUInt8, high]
  change (value.toNat % 256 + 256 * (value.toNat / 256 % 256) % 65536) % 65536 = value.toNat
  omega

/-- The first word of some bytes that begin with a word. -/
theorem wordsOf_bytes16 (value : UInt16) (rest : List UInt8) :
    wordsOf (bytes16 value ++ rest) = value :: wordsOf rest := by
  change wordOf value.toUInt8 (value >>> 8).toUInt8 :: wordsOf rest = _
  rw [wordOf_bytes16]

/-- There are half as many words as bytes. -/
theorem wordsOf_length (bytes : List UInt8) : (wordsOf bytes).length = bytes.length / 2 := by
  fun_induction wordsOf bytes with
  | case1 low high rest ih =>
    simp only [List.length_cons, ih]
    omega
  | case2 bytes short =>
    match bytes, short with
    | [], _ => exact (Nat.zero_div 2).symm
    | [only], _ => exact (Nat.div_eq_of_lt Nat.one_lt_two).symm
    | low :: high :: rest, short => exact absurd rfl (short low high rest)

/-- The words of a record: its marks, its length, its checksum and the rest. -/
theorem JpegHeader.words_eq (header : JpegHeader) :
    header.words = wordOf header.jpegSoi.1 header.jpegSoi.2 ::
      wordOf header.jpegApp0.1 header.jpegApp0.2 :: header.length :: header.csum ::
        wordsOf header.restBytes := by
  change wordOf _ _ :: wordOf _ _ ::
    wordsOf (bytes16 header.length ++ (bytes16 header.csum ++ header.restBytes)) = _
  rw [wordsOf_bytes16, wordsOf_bytes16]

/-- The sum of the words of a record is that of its fields and its checksum. -/
theorem JpegHeader.words_sum (header : JpegHeader) :
    (wordValues header.words).sum = header.fieldSum + header.csum.toNat := by
  have zero : (0 : UInt16).toNat = 0 := rfl
  rw [JpegHeader.fieldSum, header.words_eq, header.blank.words_eq]
  simp only [JpegHeader.blank, wordValues, List.map_cons, List.sum_cons, zero]
  change _ = _ + (_ + (_ + (0 + (List.map UInt16.toNat (wordsOf header.restBytes)).sum))) + _
  omega

/-- The first word alone makes the sum of the fields positive. -/
theorem fieldSum_pos (machineCode : UInt16) (call : Call) :
    0 < ((jpegHeader machineCode).fill call).fieldSum := by
  have first : 0 < (wordOf 0xff 0xd8).toNat := by decide
  rw [JpegHeader.fieldSum, JpegHeader.words_eq, wordValues, List.map_cons, List.sum_cons]
  exact Nat.lt_of_lt_of_le first (Nat.le_add_right _ _)

/-- The sum that the checksum is made from: the record, the checksum before, and what is behind. -/
theorem wordsFrom_sum (header : JpegHeader) (call : Call) :
    (wordValues (wordsFrom header call.behind jpegHeaderSize)).sum =
      header.fieldSum + header.csum.toNat + call.behindSum := by
  have words : wordsFrom header call.behind jpegHeaderSize =
      header.words ++ (List.range 32).map call.behind := by
    have count : header.words.length = 32 := by
      rw [JpegHeader.words, wordsOf_length, header.bytes_length, jpegHeaderSize]
    rw [wordsFrom, List.take_append, count, ← List.map_take, List.take_range,
      List.take_of_length_le (by rw [count]; decide)]
    exact congrArg (fun count => header.words ++ (List.range count).map call.behind) (by decide)
  rw [words, wordValues, List.map_append, List.sum_append]
  change (wordValues header.words).sum + call.behindSum = _
  rw [header.words_sum]

/-! ## One call -/

/-- The record that is appended is checked exactly when the checksum before and the words behind add
up to a multiple of 65535. -/
theorem addJpegHeader_checked_iff (before : JpegHeader) (call : Call)
    (positive : 0 < (before.fill call).fieldSum) :
    (addJpegHeader before call).Checked ↔
      before.csum.toNat + call.behindSum ≡ 0 [MOD 65535] := by
  have total := wordsFrom_sum (before.fill call) call
  have kept : (before.fill call).csum = before.csum := rfl
  rw [kept] at total
  generalize words : wordsFrom (before.fill call) call.behind jpegHeaderSize = data at total
  have below := sum_lt (by decide) (wordValues_lt data)
  have same : Same 65536 (sum 65536 (wordValues data)) (wordValues data).sum :=
    sum_same (by decide) _
  have csum : (addJpegHeader before call).csum.toNat = 65535 - sum 65536 (wordValues data) := by
    rw [← checkSum_toNat, ← words]
    rfl
  have fields : (addJpegHeader before call).fieldSum = (before.fill call).fieldSum := rfl
  have shown := (addJpegHeader before call).words_sum
  rw [fields, csum] at shown
  have verified : sum 65536 (wordValues (addJpegHeader before call).words) = 0xffff ↔
      (before.fill call).fieldSum + (65535 - sum 65536 (wordValues data)) ≡ 0 [MOD 65535] ∧
        (before.fill call).fieldSum + (65535 - sum 65536 (wordValues data)) ≠ 0 := by
    rw [← shown]
    exact sum_full_iff (by decide) (wordValues_lt _)
  have modEq := same.modEq
  have zero := same.zero
  rw [total] at modEq zero
  generalize sum 65536 (wordValues data) = value at *
  unfold Nat.ModEq at *
  constructor
  · intro checked
    have full := verified.mp checked.verifies
    omega
  · intro balanced
    refine ⟨verified.mpr (by omega), UInt16.toNat_inj.mp ?_⟩
    have ownBelow := sum_lt (by decide) (wordValues_lt (before.fill call).blank.words)
    have ownSame : Same 65536 (sum 65536 (wordValues (before.fill call).blank.words))
        (before.fill call).fieldSum := sum_same (by decide) _
    have ownModEq := ownSame.modEq
    have ownZero := ownSame.zero
    have blank : (addJpegHeader before call).blank = (before.fill call).blank := rfl
    rw [csum, blank, checkSum_toNat]
    generalize sum 65536 (wordValues (before.fill call).blank.words) = own at *
    unfold Nat.ModEq at *
    omega

/-- A record that is checked has the checksum that its fields ask for. -/
theorem JpegHeader.Checked.csum_modEq {header : JpegHeader} (checked : header.Checked) :
    header.fieldSum + header.csum.toNat ≡ 0 [MOD 65535] := by
  rw [← header.words_sum]
  exact ((sum_full_iff (by decide) (wordValues_lt _)).mp checked.verifies).1

/-! ## All calls -/

/-- The fields that no call sets are those of the start. -/
def JpegHeader.Started (machineCode : UInt16) (header : JpegHeader) : Prop :=
  ∀ call, (header.fill call).blank = (jpegHeader machineCode).fill call

/-- The fields of a record in a run are given by its call. -/
theorem JpegHeader.Started.fieldSum {machineCode : UInt16} {header : JpegHeader}
    (started : header.Started machineCode) (call : Call) :
    (header.fill call).fieldSum = ((jpegHeader machineCode).fill call).fieldSum := by
  have blank : (header.fill call).blank.fieldSum = (header.fill call).fieldSum := rfl
  rw [← blank, started call]

/-- Behind a record that owes a sum to its checksum, all later records are checked exactly when the
words behind make up for it each time. -/
theorem addJpegHeaders_checked_iff (machineCode : UInt16) (calls : List Call) {before : JpegHeader}
    {owed : Nat} (started : before.Started machineCode)
    (left : owed + before.csum.toNat ≡ 0 [MOD 65535]) :
    (∀ header ∈ addJpegHeaders before calls, header.Checked) ↔
      Balanced machineCode owed calls := by
  induction calls generalizing before owed with
  | nil => exact iff_of_true (List.forall_mem_nil _) trivial
  | cons call later ih =>
    have fields : (before.fill call).fieldSum = ((jpegHeader machineCode).fill call).fieldSum :=
      started.fieldSum call
    have positive : 0 < (before.fill call).fieldSum := by
      rw [fields]
      exact fieldSum_pos machineCode call
    have step : (addJpegHeader before call).Checked ↔ call.behindSum ≡ owed [MOD 65535] := by
      rw [addJpegHeader_checked_iff before call positive]
      unfold Nat.ModEq at left ⊢
      omega
    rw [addJpegHeaders, List.forall_mem_cons, step, Balanced]
    apply and_congr_right
    intro balanced
    have next : (addJpegHeader before call).Started machineCode := fun call => started call
    have owes := (step.mpr balanced).csum_modEq
    have kept : (addJpegHeader before call).fieldSum = (before.fill call).fieldSum := rfl
    rw [kept, fields] at owes
    exact ih next owes

/-- In every run all records that are appended are checked exactly when the words behind the record
add up, but for multiples of 65535, to nothing at the first call and to the fields of the record
before at every later call. -/
theorem jpeg_headers_checked_iff (machineCode : UInt16) (calls : List Call) :
    (∀ header ∈ addJpegHeaders (jpegHeader machineCode) calls, header.Checked) ↔
      Balanced machineCode 0 calls :=
  addJpegHeaders_checked_iff machineCode calls (fun _ => rfl) (Nat.ModEq.refl 0)

/-- A frame of 16 by 16 at a time, with zeros behind the record. -/
def plainCall : Call where
  tmYear := 2010
  tmMday := 1
  tmMonth := 1
  tmMin := 0
  tmHour := 0
  tmSec := 0
  filesize := 700
  width := 16
  height := 16
  serialLock := 1
  behind := fun _ => 0

/-- The same call twice does not append two records that verify. -/
theorem jpeg_header_twice :
    ¬ ∀ header ∈ addJpegHeaders (jpegHeader 0x2210) [plainCall, plainCall], header.Checked := by
  rw [addJpegHeaders_checked_iff 0x2210 [plainCall, plainCall] (fun _ => rfl) (Nat.ModEq.refl 0)]
  rintro ⟨_, second, _⟩
  have nothing : plainCall.behindSum = 0 := by decide
  have fields : ((jpegHeader 0x2210).fill plainCall).fieldSum % 65535 ≠ 0 := by decide
  rw [nothing] at second
  exact fields second.symm

end BoaIpcam.Jpeg
