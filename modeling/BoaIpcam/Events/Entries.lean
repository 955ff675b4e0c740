import BoaIpcam.Lib.FlatTables
import BoaIpcam.Numeral

/-!
# The entries of the event tables

`appro_api.c` keeps event servers, media, events and records in the flat array `ipcam` of the
configuration. Each table has slots of the same entries. The commands take one text whose
parameters are separated by colons; the number in front of the first colon is the slot. Constants,
sizes and defaults come from headers outside the source and are fields of `Build`.
-/
namespace BoaIpcam.Events

open FlatTables

/-! ## Entries -/

/-- What an entry holds: the integer in its union, or a text. -/
inductive Datum where
  | num (value : Int)
  | text (value : List UInt8)
deriving DecidableEq, Repr

/-- The entry holds an integer with a property. -/
def Datum.Is (holds : Int → Prop) : Datum → Prop
  | .num value => holds value
  | .text _ => False

/-- The entry holds a text with a property. -/
def Datum.IsText (holds : List UInt8 → Prop) : Datum → Prop
  | .num _ => False
  | .text value => holds value

/-- The four tables. -/
inductive Table where
  | server | media | event | record
deriving DecidableEq, Repr

/-- The entries `E2G_SERVER0_*`. -/
inductive ServerField where
  | valid | enable | id | type | name
  | ftpPassiveMode | ftpUploadRate | ftpPort | ftpFqdn | ftpUsername | ftpPassword | ftpPath
  | smtpAttachNum | smtpEncryption | smtpPort | smtpFqdn | smtpUsername | smtpPassword
  | smtpFromMail | smtpToMail
  | sambaAuthority | sambaWins | sambaFqdn | sambaUsername | sambaPassword | sambaPath
  | sambaWorkgroup
  | sdPath
deriving DecidableEq, Repr

/-- The entries `E2G_MEDIA0_*`. -/
inductive MediaField where
  | valid | enable | id | type | name
  | picSource | picPreEvent | picPostEvent | picFilenameSuffix | picFilename
  | videoSource | videoMaxsize | videoPreEvent | videoDuration | videoFilenameSuffix
  | videoFilename
  | logFilename
deriving DecidableEq, Repr

/-- The entries `E2G_EVENT0_*`. -/
inductive EventField where
  | valid | enable | id | type | name
  | scheduleMode | scheduleDay | startHour | startMin | startSec | endHour | endMin | endSec
  | priority | delay | triggerType | motionWindow | gioinTrig | gioinType | periodicTime
  | gioutTrig | gioutType | gioutDuration | actionServer | actionMedia
  | actionPtzEn | actionPtzMode | actionPtzMArg
deriving DecidableEq, Repr

/-- The entries `E2G_RECORD0_*`. -/
inductive RecordField where
  | valid | enable | id | type | name
  | scheduleMode | scheduleDay | startHour | startMin | startSec | endHour | endMin | endSec
  | priority | source | destServer | rewriteLimit | fileMaxSize | filenameSuffix | filename
deriving DecidableEq, Repr

/-- The entries of a slot of a table. -/
abbrev Table.Field : Table → Type
  | .server => ServerField
  | .media => MediaField
  | .event => EventField
  | .record => RecordField

/-- The entry that says that a slot is in use. -/
def Table.valid : (t : Table) → t.Field
  | .server => ServerField.valid
  | .media => MediaField.valid
  | .event => EventField.valid
  | .record => RecordField.valid

/-- The entries of a slot that hold a text. -/
def Table.texts : (t : Table) → List t.Field
  | .server => [ServerField.name, .ftpFqdn, .ftpUsername, .ftpPassword, .ftpPath, .smtpFqdn,
      .smtpUsername, .smtpPassword, .smtpFromMail, .smtpToMail, .sambaFqdn, .sambaUsername,
      .sambaPassword, .sambaPath, .sambaWorkgroup, .sdPath]
  | .media => [MediaField.name, .picFilename, .videoFilename, .logFilename]
  | .event => [EventField.name]
  | .record => [RecordField.name, .filename]

/-- The fields of a table are compared. -/
instance (t : Table) : DecidableEq t.Field :=
  match t with
  | .server => inferInstanceAs (DecidableEq ServerField)
  | .media => inferInstanceAs (DecidableEq MediaField)
  | .event => inferInstanceAs (DecidableEq EventField)
  | .record => inferInstanceAs (DecidableEq RecordField)

/-! ## The build -/

/-- What the commands take from the headers. The size of a table is its `MAX_NUM`, the stride its
`STRUCT_SIZE`. A slot is not in use by default. -/
structure Build where
  /-- Where the entries of the tables are. -/
  layout : Layout Table Table.Field
  /-- `CONFIG_MAX_PROFILE_NUM`. -/
  maxProfileNum : Nat
  /-- `CONFIG_MAX_WEB_PROFILE_NUM`. -/
  maxWebProfileNum : Nat
  /-- The two numbers of profiles are different entries. -/
  profiles_ne : maxProfileNum ≠ maxWebProfileNum
  /-- They lie outside the tables. -/
  profiles_outside : ∀ t slot f, slot < layout.size t →
    layout.address t slot f ≠ maxProfileNum ∧ layout.address t slot f ≠ maxWebProfileNum
  /-- `def_value` of the entries. -/
  defaultOf : Nat → Datum
  /-- No slot is valid by default. -/
  default_valid : ∀ t slot, slot < layout.size t →
    defaultOf (layout.address t slot t.valid) = .num 0
  /-- The text of an entry after `info_write` of the address of its default with the size 0; what
  this function makes of them is not part of the sources. -/
  resetText : Nat → List UInt8
  /-- The integer in the union of an entry that holds a text. -/
  textWord : List UInt8 → Int
  /-- `check_specical_symbols(text, FILENAME_SYMBOL) < 0`. -/
  special : List UInt8 → Bool
  /-- The size of the array for a name. -/
  nameSize : Nat
  /-- `E2G_FILE_NAME_LEN`. -/
  fileNameLen : Nat
  /-- `SUPPORT_PROFILE_NUMBER`. -/
  supportProfileNumber : Bool
  /-- `SUPPORT_VISCA`. -/
  supportVisca : Bool
  /-- An event has one server at most. -/
  eventActionChoice : Bool

/-- What the commands use of `sys_info`. -/
structure SysInfo where
  /-- The entries. -/
  ipcam : Nat → Datum
  /-- `vsptz.cruiseline`. -/
  cruiseline : Int

section Entries

variable (build : Build)

/-- The integer in the union of an entry, `config.value`. -/
def Build.word (datum : Datum) : Int :=
  match datum with
  | .num value => value
  | .text value => build.textWord value

/-- `config.u8`. -/
def Build.u8 (datum : Datum) : Nat := narrow 8 (build.word datum)

/-- `config.u16`. -/
def Build.u16 (datum : Datum) : Nat := narrow 16 (build.word datum)

/-- `config.u32`. -/
def Build.u32 (datum : Datum) : Nat := narrow 32 (build.word datum)

/-- An entry of a slot. -/
def Build.entry (info : SysInfo) (t : Table) (slot : Nat) (field : t.Field) : Datum :=
  info.ipcam (build.layout.address t slot field)

end Entries

/-! ## Answers -/

/-- A line of the answer: `OPTION_OK` or `OPTION_NG`, and what stands behind the name of the
command. -/
inductive Line where
  | ok (tail : List UInt8)
  | ng (tail : List UInt8)
deriving DecidableEq, Repr

/-- The answer of a command that was carried out. -/
def Line.done : Line := .ok (ascii "=1")

/-- The answer to a parameter that is refused. -/
def Line.wrong : Line := .ok (ascii "=3")

/-- The answer to a wrong number of parameters. -/
def Line.count : Line := .ng (ascii "=2")

/-- The answers that refuse. -/
def Line.Refuses (line : Line) : Prop :=
  line = .wrong ∨ line = .count ∨ line = .ng (ascii "=3") ∨ line = .ng []

/-- What a command does: the calls of `info_write` and the lines of the answer. -/
structure Outcome where
  /-- The entries that are written, with their values. -/
  writes : List (Nat × Datum)
  /-- The lines of the answer. -/
  lines : List Line

/-- `sys_info` after a command. -/
def Outcome.after (outcome : Outcome) (info : SysInfo) : SysInfo :=
  { info with ipcam := store info.ipcam outcome.writes }

/-- A command that only answers. -/
def Outcome.answer (line : Line) : Outcome := ⟨[], [line]⟩

/-- A command that only answers changes nothing. -/
@[simp] theorem Outcome.after_answer (line : Line) (info : SysInfo) :
    (Outcome.answer line).after info = info := rfl

/-! ## Parameters -/

/-- The texts behind the colons. -/
def behindColons : List UInt8 → List (List UInt8)
  | [] => []
  | c :: rest => if c = 58 then rest :: behindColons rest else behindColons rest

/-- The loop of the commands over the colons of the text. It finds one more than the parameters at
most and fails unless it finds as many. -/
def parameters (paraNum : Nat) (text : List UInt8) : Option (List (List UInt8)) :=
  let ptr := (behindColons text).take (paraNum + 1)
  if ptr.length = paraNum then some ptr else none

/-- The parameters that are found, none when there is a wrong number of them. -/
def parametersOf (paraNum : Nat) (text : List UInt8) : List (List UInt8) :=
  (parameters paraNum text).getD []

/-- `ptr[k] + 1`: the text behind a colon, with all that follows. -/
def behind (ptr : List (List UInt8)) (k : Nat) : List UInt8 := ptr.getD k []

/-- `strncpy` of the text between two colons into an array that takes so many characters. -/
def between (ptr : List (List UInt8)) (most k l : Nat) : List UInt8 :=
  (behind ptr k).take (min most ((behind ptr k).length - ((behind ptr l).length + 1)))

/-- The start and the end of a schedule. -/
structure Times where
  /-- The hour of the start. -/
  startHour : Int
  /-- Its minute. -/
  startMin : Int
  /-- Its second. -/
  startSec : Int
  /-- The hour of the end. -/
  endHour : Int
  /-- Its minute. -/
  endMin : Int
  /-- Its second. -/
  endSec : Int
deriving DecidableEq, Repr

/-- `sscanf` with six times `%2d`, none when it does not find six numbers. -/
def scanTimes (text : List UInt8) : Option Times := do
  let (startHour, rest) ← scanInt2 text
  let (startMin, rest) ← scanInt2 rest
  let (startSec, rest) ← scanInt2 rest
  let (endHour, rest) ← scanInt2 rest
  let (endMin, rest) ← scanInt2 rest
  let (endSec, _) ← scanInt2 rest
  some ⟨startHour, startMin, startSec, endHour, endMin, endSec⟩

-- A sign is one of the two characters of a number, and no number is out of range.
example : scanTimes (ascii "0990001-10059") = some ⟨9, 90, 0, 1, -1, 0⟩ := by decide

/-- The number of the slot, which the commands keep in a variable of 8 bits. -/
def slotOf (text : List UInt8) : Nat := narrow 8 (atoi text)

/-- The number at the start of the text has 8 bits. -/
def SlotFits (text : List UInt8) : Prop := 0 ≤ leadingInt text ∧ leadingInt text < 256

/-- The slot is the number at the start of the text exactly when that has 8 bits. -/
theorem slotOf_eq_iff {text : List UInt8} : (slotOf text : Int) = leadingInt text ↔ SlotFits text := by
  have small := narrow_lt 8 (atoi text)
  constructor
  · intro same
    unfold slotOf at same
    unfold SlotFits
    omega
  · intro fits
    obtain ⟨least, most⟩ := fits
    have unclamped : atoi text = leadingInt text := by
      rw [atoi_eq]
      apply clampInt_of_isInt
      unfold IsInt
      omega
    rw [slotOf, unclamped]
    exact narrow_of_fits least (by omega)

end BoaIpcam.Events
