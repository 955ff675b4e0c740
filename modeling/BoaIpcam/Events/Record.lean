import BoaIpcam.Events.Command

/-!
# Event records

`set_event_record` and `del_event_record`. The source of a record is a profile, but it is compared
with the number of servers.
-/
namespace BoaIpcam.Events

open FlatTables

/-- The parameters of `set_event_record`, `ER_*`. -/
inductive RecordParameter where
  | enable | priority | source | name | scDay | scMode | scRange | dest | maxSize | fileSize
  | filePrefix
deriving DecidableEq, Repr

/-- The constants of the commands for records. -/
structure RecordValues where
  /-- `E2G_RECORD_PARA_NUM`. -/
  paraNum : Nat
  /-- Where each parameter stands. -/
  position : RecordParameter → Nat
  /-- The name stands before the schedule. -/
  ordered : position .name < position .scDay
  /-- `ERECORD_TYPE_NORMAL`. -/
  typeNormal : UInt16
  /-- `MIN_E2G_REWRITE`. -/
  minRewrite : Nat
  /-- `MAX_E2G_REWRITE`. -/
  maxRewrite : Nat
  /-- `MIN_E2G_REC_FILESIZE`. -/
  minRecFilesize : Nat
  /-- `MAX_E2G_REC_FILESIZE`. -/
  maxRecFilesize : Nat

/-- The structure `EVENT_2G_RECORD`, as far as parameters set it. -/
structure Record where
  /-- The number of the slot. -/
  id : Nat
  /-- Whether the record is used. -/
  enable : Nat
  /-- Its name. -/
  name : List UInt8
  /-- Its priority. -/
  priority : Nat
  /-- The profile. -/
  source : Nat
  /-- The days of the week. -/
  day : Nat
  /-- Whether it keeps to the schedule. -/
  mode : Nat
  /-- `none` when `sscanf` does not find six numbers. -/
  times : Option Times
  /-- The server. -/
  destServer : Nat
  /-- What is left free. -/
  rewriteLimit : Nat
  /-- The greatest size of a file. -/
  fileMaxSize : Nat
  /-- The name of the files. -/
  filename : List UInt8

section Handlers

variable (build : Build) (values : RecordValues)

/-- `atoi` of a parameter in a variable with a number of bits. -/
def recordNumber (ptr : List (List UInt8)) (bits : Nat) (parameter : RecordParameter) : Nat :=
  narrow bits (atoi (behind ptr (values.position parameter)))

/-- The prefix of the files, the rest of the text. -/
def recordPrefix (ptr : List (List UInt8)) : List UInt8 :=
  behind ptr (values.position .filePrefix)

/-- The parameters of a record. -/
def readRecord (text : List UInt8) (ptr : List (List UInt8)) : Record where
  id := slotOf text
  enable := recordNumber values ptr 8 .enable
  name := between ptr (build.nameSize - 1) (values.position .name) (values.position .scDay)
  priority := recordNumber values ptr 8 .priority
  source := recordNumber values ptr 8 .source
  day := narrow 16 (strtolHex (behind ptr (values.position .scDay)))
  mode := recordNumber values ptr 16 .scMode
  times := scanTimes (behind ptr (values.position .scRange))
  destServer := recordNumber values ptr 16 .dest
  rewriteLimit := strtoul (behind ptr (values.position .maxSize))
  fileMaxSize := strtoul (behind ptr (values.position .fileSize))
  filename := (recordPrefix values ptr).take build.fileNameLen

/-- The tests of `set_event_record`, in their order. -/
def recordTests (ptr : List (List UInt8)) (record : Record) : List Test :=
  [⟨build.layout.size .record ≤ record.id, .wrong⟩, ⟨1 < record.enable, .wrong⟩,
    ⟨record.name = [], .wrong⟩, ⟨build.special record.name, .wrong⟩,
    ⟨2 < record.priority, .wrong⟩, ⟨build.layout.size .server < record.source, .wrong⟩,
    ⟨0x7F < record.day, .wrong⟩, ⟨1 < record.mode, .wrong⟩, ⟨record.times = none, .wrong⟩,
    ⟨2 < record.destServer, .wrong⟩,
    ⟨record.rewriteLimit < values.minRewrite ∨ values.maxRewrite < record.rewriteLimit, .wrong⟩,
    ⟨record.fileMaxSize < values.minRecFilesize ∨ values.maxRecFilesize < record.fileMaxSize,
      .wrong⟩,
    ⟨build.special (recordPrefix values ptr), .wrong⟩]

/-- The entries of a record that are written. -/
def recordWrites (record : Record) : List (RecordField × Datum) :=
  let times := record.times.getD ⟨0, 0, 0, 0, 0, 0⟩
  [(.valid, .num 1), (.enable, .num record.enable), (.id, .num record.id),
    (.type, .num values.typeNormal.toNat), (.name, .text record.name),
    (.scheduleMode, .num record.mode), (.scheduleDay, .num record.day),
    (.startHour, .num times.startHour), (.startMin, .num times.startMin),
    (.startSec, .num times.startSec), (.endHour, .num times.endHour),
    (.endMin, .num times.endMin), (.endSec, .num times.endSec),
    (.priority, .num record.priority), (.source, .num record.source),
    (.destServer, .num record.destServer), (.rewriteLimit, .num record.rewriteLimit),
    (.fileMaxSize, .num record.fileMaxSize), (.filenameSuffix, .num 0),
    (.filename, .text record.filename)]

/-- `set_event_record`. -/
def setEventRecord (text : List UInt8) : Outcome :=
  command values.paraNum text
    (fun ptr => recordTests build values ptr (readRecord build values text ptr))
    fun ptr => ⟨build.layout.slotWrites .record (slotOf text)
      (recordWrites values (readRecord build values text ptr)), [.done]⟩

/-- The entries that `del_event_record` resets. -/
def recordResets : List RecordField :=
  [.valid, .enable, .id, .type, .name,
    .scheduleMode, .scheduleDay, .startHour, .startMin, .startSec, .endHour, .endMin, .endSec,
    .priority, .source, .destServer, .rewriteLimit, .fileMaxSize, .filenameSuffix, .filename]

/-- `del_event_record`. -/
def delEventRecord (text : List UInt8) : Outcome := deleteSlot build .record recordResets text

end Handlers

/-! ## The limits -/

section Limits

variable {build : Build} {values : RecordValues} {ptr : List (List UInt8)}

/-- What `set_event_record` tests of an entry. -/
def recordLimit (build : Build) (values : RecordValues) : RecordField → Datum → Prop
  | .valid, datum => datum.Is (· = 1)
  | .enable, datum => datum.Is fun enable => 0 ≤ enable ∧ enable ≤ 1
  | .id, datum => datum.Is fun id => 0 ≤ id ∧ id < build.layout.size .record
  | .name, datum => datum.IsText fun name => name ≠ [] ∧ build.special name = false
  | .scheduleMode, datum => datum.Is fun mode => 0 ≤ mode ∧ mode ≤ 1
  | .scheduleDay, datum => datum.Is fun day => 0 ≤ day ∧ day ≤ 0x7F
  | .priority, datum => datum.Is fun priority => 0 ≤ priority ∧ priority ≤ 2
  | .source, datum => datum.Is fun source => 0 ≤ source ∧ source ≤ build.layout.size .server
  | .destServer, datum => datum.Is fun server => 0 ≤ server ∧ server ≤ 2
  | .rewriteLimit, datum => datum.Is fun size =>
      values.minRewrite ≤ size ∧ size ≤ values.maxRewrite
  | .fileMaxSize, datum => datum.Is fun size =>
      values.minRecFilesize ≤ size ∧ size ≤ values.maxRecFilesize
  | .filename, datum => datum.IsText build.Filename
  | _, _ => True

/-- The tests of `set_event_record` answer with refusals. -/
theorem recordTests_refuse {record : Record} :
    ∀ test ∈ recordTests build values ptr record, test.answer.Refuses := by
  have wrong : Line.wrong.Refuses := .inl rfl
  simp [recordTests, wrong]

/-- What `set_event_record` writes keeps the limits. -/
theorem recordWrites_limit {text : List UInt8}
    (passed : ∀ test ∈ recordTests build values ptr (readRecord build values text ptr),
      test.fails = false) :
    ∀ write ∈ recordWrites values (readRecord build values text ptr),
      recordLimit build values write.1 write.2 := by
  have prefix_of : (readRecord build values text ptr).filename =
      (recordPrefix values ptr).take build.fileNameLen := rfl
  generalize readRecord build values text ptr = record at passed prefix_of ⊢
  simp only [recordTests, List.forall_mem_cons, decide_eq_false_iff_not, Nat.not_le,
    Nat.not_lt, not_or] at passed
  obtain ⟨id, enable, name, plain, priority, source, day, mode, -, dest, rewrite_limit, file_size,
    filename, -⟩ := passed
  have file : build.Filename record.filename := by
    rw [prefix_of]
    exact build.filename_take filename
  have bounds : (record.enable : Int) ≤ 1 ∧ (record.priority : Int) ≤ 2 ∧ (record.day : Int) ≤ 127 ∧
      (record.mode : Int) ≤ 1 ∧ (record.destServer : Int) ≤ 2 := by omega
  simp [recordWrites, recordLimit, Datum.Is, Datum.IsText, id, name, plain, file, bounds, source,
    rewrite_limit, file_size]

/-- `set_event_record` is all or nothing exactly when a text that passes the tests starts with the
number of a slot. -/
theorem setEventRecord_allOrNothing (text : List UInt8) :
    AllOrNothing build .record (recordLimit build values) text
        (setEventRecord build values text) ↔
      ∀ ptr, Passes values.paraNum text
          (fun ptr => recordTests build values ptr (readRecord build values text ptr)) ptr →
        SlotFits text := by
  unfold setEventRecord
  rw [allOrNothing_command (fun _ => recordTests_refuse) (fun _ => by simp [recordWrites])]
  constructor
  · intro all ptr passes
    exact (all ptr passes).1
  · intro fits ptr passes
    exact ⟨fits ptr passes, rfl, recordWrites_limit passes.passed⟩

end Limits

end BoaIpcam.Events
