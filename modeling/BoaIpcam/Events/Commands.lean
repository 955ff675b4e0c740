import BoaIpcam.Events.EventType
import BoaIpcam.Events.Media
import BoaIpcam.Events.Record
import BoaIpcam.Events.Server

/-!
# Setting and deleting slots

What the commands of the four tables have in common: a command that sets a slot does all of it or
nothing, and the command that deletes the slot undoes it. Both hold with exceptions, which the
theorems name.
-/
namespace BoaIpcam.Events

open FlatTables

/-- The constants of all commands. A server that is not in use is neither the SAMBA share nor the
SD card. -/
structure Firmware where
  /-- What all commands take from the headers. -/
  build : Build
  /-- The constants for servers. -/
  server : ServerValues
  /-- The constants for media. -/
  media : MediaValues
  /-- The constants for event types. -/
  event : EventValues
  /-- The constants for records. -/
  record : RecordValues
  /-- The default type is neither SAMBA nor SD. -/
  default_type : ∀ slot, slot < build.layout.size .server →
    build.u16 (build.defaultOf (build.layout.address .server slot ServerField.type)) ≠
        server.typeSamba.toNat ∧
      build.u16 (build.defaultOf (build.layout.address .server slot ServerField.type)) ≠
        server.typeSd.toNat

section Commands

variable (fw : Firmware)

/-- The command that sets a slot of a table. -/
def Firmware.set (info : SysInfo) (t : Table) (text : List UInt8) : Outcome :=
  match t with
  | .server => setEventServer fw.build fw.server info text
  | .media => setEventMedia fw.build fw.media info text
  | .event => setEventType fw.build fw.event info text
  | .record => setEventRecord fw.build fw.record text

/-- The command that deletes a slot of a table. -/
def Firmware.del (info : SysInfo) (t : Table) (text : List UInt8) : Outcome :=
  match t with
  | .server => delEventServer fw.build info text
  | .media => delEventMedia fw.build text
  | .event => delEventType fw.build text
  | .record => delEventRecord fw.build text

/-! ## All or nothing -/

/-- What the command that sets a slot tests of an entry. -/
def Firmware.limit (info : SysInfo) (t : Table) (text : List UInt8) : t.Field → Datum → Prop :=
  match t with
  | .server => serverLimit fw.build fw.server
  | .media => mediaLimit fw.build fw.media
      (readMediaSettings fw.build fw.media (parametersOf fw.media.paraNum text))
  | .event => eventLimit fw.build fw.event info
      (readEventType fw.build fw.event text (parametersOf fw.event.paraNum text))
  | .record => recordLimit fw.build fw.record

/-- The condition on a text that passes the tests: it starts with the number of a slot; the source
of a video is inside the limit, which is tested on the source of the picture; the argument for the
camera is one of the mode. -/
def Firmware.SetMeets (info : SysInfo) (t : Table) (text : List UInt8) : Prop :=
  match t with
  | .server => ∀ ptr, Passes fw.server.paraNum text (fun ptr =>
      serverTests fw.build fw.server info (readServer fw.build fw.server text ptr)) ptr →
    SlotFits text
  | .media => ∀ ptr, Passes fw.media.paraNum text (fun ptr =>
      mediaTests fw.build fw.media info ptr (readMedia fw.build fw.media text ptr)) ptr →
    SlotFits text ∧ VideoSourceFits fw.media (readMediaSettings fw.build fw.media ptr)
  | .event => ∀ ptr, Passes fw.event.paraNum text (fun ptr =>
      eventTests fw.build fw.event info (readEventType fw.build fw.event text ptr)) ptr →
    SlotFits text ∧ PtzFits fw.build fw.event info (readEventType fw.build fw.event text ptr)
  | .record => ∀ ptr, Passes fw.record.paraNum text (fun ptr =>
      recordTests fw.build fw.record ptr (readRecord fw.build fw.record text ptr)) ptr →
    SlotFits text

/-- At most one slot is the SAMBA share and at most one the SD card. -/
def Firmware.OneShare (info : SysInfo) : Prop :=
  AtMostOne fw.build info fw.server.typeSamba ∧ AtMostOne fw.build info fw.server.typeSd

/-- A command for servers. -/
inductive ServerCommand where
  | set (text : List UInt8)
  | del (text : List UInt8)

/-- `sys_info` after a command for servers. -/
def Firmware.serverStep (info : SysInfo) : ServerCommand → SysInfo
  | .set text => (fw.set info .server text).after info
  | .del text => (fw.del info .server text).after info

/-- Without servers there is no share and no card. -/
theorem Firmware.oneShare_default (cruiseline : Int) :
    fw.OneShare ⟨fw.build.defaultOf, cruiseline⟩ := by
  constructor
  · intro i j inside _ has _
    exact absurd has (fw.default_type i inside).1
  · intro i j inside _ has _
    exact absurd has (fw.default_type i inside).2

/-- A command for servers keeps one share and one card. -/
theorem Firmware.oneShare_step {info : SysInfo} (single : fw.OneShare info)
    (command : ServerCommand) : fw.OneShare (fw.serverStep info command) := by
  cases command with
  | set text =>
    constructor
    · exact setEventServer_atMostOne single.1 fun _ => share_guarded (.inl rfl)
    · exact setEventServer_atMostOne single.2 fun _ => share_guarded (.inr rfl)
  | del text =>
    constructor
    · exact delEventServer_atMostOne single.1 fun slot inside => (fw.default_type slot inside).1
    · exact delEventServer_atMostOne single.2 fun slot inside => (fw.default_type slot inside).2

/-- Commands for servers keep one share and one card. -/
theorem Firmware.oneShare_run {info : SysInfo} (single : fw.OneShare info)
    (commands : List ServerCommand) : fw.OneShare (commands.foldl fw.serverStep info) := by
  induction commands generalizing info with
  | nil => exact single
  | cons command commands ih => exact ih (fw.oneShare_step single command)

end Commands

/-! ## A small firmware -/

/-- The place of an entry in its slot, in the order of the entries. -/
def smallOffset : (t : Table) → t.Field → Nat
  | .server, field => ServerField.ctorIdx field
  | .media, field => MediaField.ctorIdx field
  | .event, field => EventField.ctorIdx field
  | .record, field => RecordField.ctorIdx field

/-- The number of entries of a slot. -/
def smallStride : Table → Nat
  | .server => 28
  | .media => 17
  | .event => 28
  | .record => 20

/-- The first entry of a table. -/
def smallBase : Table → Nat
  | .server => 0
  | .media => 56
  | .event => 90
  | .record => 146

/-- The entries fit their slot. -/
theorem smallOffset_lt (t : Table) (field : t.Field) : smallOffset t field < smallStride t := by
  cases t <;> cases field <;> decide

/-- No two entries have one place. -/
theorem smallOffset_inj (t : Table) (left right : t.Field)
    (same : smallOffset t left = smallOffset t right) : left = right := by
  cases t with
  | server =>
    rw [← ServerField.ofNat_ctorIdx left, ← ServerField.ofNat_ctorIdx right]
    exact congrArg ServerField.ofNat same
  | media =>
    rw [← MediaField.ofNat_ctorIdx left, ← MediaField.ofNat_ctorIdx right]
    exact congrArg MediaField.ofNat same
  | event =>
    rw [← EventField.ofNat_ctorIdx left, ← EventField.ofNat_ctorIdx right]
    exact congrArg EventField.ofNat same
  | record =>
    rw [← RecordField.ofNat_ctorIdx left, ← RecordField.ofNat_ctorIdx right]
    exact congrArg RecordField.ofNat same

/-- The tables with two slots each follow one another. -/
theorem small_apart (t u : Table) (other : t ≠ u) :
    smallBase t + 2 * smallStride t ≤ smallBase u ∨
      smallBase u + 2 * smallStride u ≤ smallBase t := by
  cases t <;> cases u <;> first | exact absurd rfl other | decide

/-- Four tables with two slots. -/
def smallLayout : Layout Table Table.Field where
  base := smallBase
  stride := smallStride
  size := fun _ => 2
  offset := smallOffset
  offset_lt := smallOffset_lt
  offset_inj := smallOffset_inj
  apart := small_apart

/-- The number of profiles lies behind the tables. -/
theorem small_outside (t : Table) (slot : Nat) (field : t.Field)
    (inside : slot < smallLayout.size t) :
    smallLayout.address t slot field ≠ 200 ∧ smallLayout.address t slot field ≠ 201 := by
  have most := @Layout.address_lt Table Table.Field smallLayout t slot field inside
  have bound : smallBase t + 2 * smallStride t ≤ 186 := by cases t <;> decide
  have limit : smallLayout.address t slot field < 186 := Nat.lt_of_lt_of_le most bound
  omega

/-- The entries of the tables that hold a text. -/
def smallTexts : List Nat :=
  [Table.server, .media, .event, .record].flatMap fun t =>
    t.texts.flatMap fun field => [smallLayout.address t 0 field, smallLayout.address t 1 field]

/-- The defaults are zero and the empty text. -/
def smallDefault (address : Nat) : Datum := if address ∈ smallTexts then .text [] else .num 0

/-- No slot is in use. -/
theorem smallDefault_valid (t : Table) (slot : Nat) (inside : slot < smallLayout.size t) :
    smallDefault (smallLayout.address t slot t.valid) = .num 0 := by
  have two : slot = 0 ∨ slot = 1 := by
    have small : slot < 2 := inside
    omega
  rcases two with rfl | rfl <;> cases t <;> decide

/-- The constants that the commands share. -/
def smallEventBuild : Build where
  layout := smallLayout
  maxProfileNum := 200
  maxWebProfileNum := 201
  profiles_ne := by decide
  profiles_outside := small_outside
  defaultOf := smallDefault
  default_valid := smallDefault_valid
  resetText := fun _ => []
  textWord := fun _ => 0
  special := fun text => text.contains 47
  nameSize := 16
  fileNameLen := 16
  supportProfileNumber := true
  supportVisca := true
  eventActionChoice := false

/-- The order of the parameters of a server. -/
def smallServer : ServerValues where
  paraNum := 13
  position := ServerParameter.ctorIdx
  ordered := by decide
  typeSmtp := 1
  typeFtp := 2
  typeSamba := 3
  typeSd := 4
  types_ne := by decide
  arraySize := fun _ => 16
  smtpOverrun := fun _ => []

/-- The constants of media. The members of the structure do not share memory. -/
def smallMedia : MediaValues where
  paraNum := 8
  position := MediaParameter.ctorIdx
  ordered := by decide
  typePic := 1
  typeVideo := 2
  typeLog := 3
  types_ne := by decide
  maxSource := 3
  maxPicPre := 5
  maxPicPost := 5
  maxSuffix := 1
  maxVidPre := 5
  maxVidDur := 60
  maxVidFilesize := 1024
  enable := 0
  pic := ⟨0, 0, 0, 0, []⟩
  video := ⟨0, 0, 0, 0, 0, []⟩
  logFilename := []
  picOf := fun _ => ⟨0, 0, 0, 0, []⟩
  videoOf := fun _ => ⟨0, 0, 0, 0, 0, []⟩
  logOfPic := fun _ => []
  logOfVideo := fun _ => []

/-- The constants of event types. -/
def smallEvent : EventValues where
  paraNum := 17
  position := EventParameter.ctorIdx
  ordered := by decide
  typeNormal := 1
  maxDelay := 60
  trigByMaxnum := 5
  minPeriodic := 0
  maxPeriodic := 60
  minGioout := 0
  maxGioout := 60
  maxPtzMArg := 255
  presetMd := 0
  sequenceMd := 1
  autopanMd := 2
  cruiseMd := 3
  modes_ne := by decide
  times := ⟨0, 0, 0, 0, 0, 0⟩
  motionWindow := 0
  gioinTrig := 0
  gioinType := 0
  gioutType := 0

/-- The constants of records. -/
def smallRecord : RecordValues where
  paraNum := 11
  position := RecordParameter.ctorIdx
  ordered := by decide
  typeNormal := 1
  minRewrite := 0
  maxRewrite := 1024
  minRecFilesize := 0
  maxRecFilesize := 1024

/-- No default is the type of the share or of the card. -/
theorem small_default_type (slot : Nat)
    (inside : slot < smallEventBuild.layout.size .server) :
    smallEventBuild.u16 (smallEventBuild.defaultOf
        (smallEventBuild.layout.address .server slot ServerField.type)) ≠
          smallServer.typeSamba.toNat ∧
      smallEventBuild.u16 (smallEventBuild.defaultOf
        (smallEventBuild.layout.address .server slot ServerField.type)) ≠
          smallServer.typeSd.toNat := by
  have zero : smallEventBuild.u16 (smallEventBuild.defaultOf
      (smallEventBuild.layout.address .server slot ServerField.type)) = 0 := by
    have two : slot = 0 ∨ slot = 1 := by
      have small : slot < 2 := inside
      omega
    rcases two with rfl | rfl <;> decide
  rw [zero]
  decide

/-- A firmware whose tables have two slots. -/
def smallFirmware : Firmware where
  build := smallEventBuild
  server := smallServer
  media := smallMedia
  event := smallEvent
  record := smallRecord
  default_type := small_default_type

/-- The configuration of a firmware that was not used yet. -/
def smallInfo : SysInfo := ⟨smallDefault, 0⟩

/-! ## The theorem -/

/-- A command that sets a slot is all or nothing exactly when a text that passes its tests meets
the condition. In every run of the commands for servers at most one slot is the share and at most
one the card. -/
theorem event_sets_all_or_nothing (fw : Firmware) :
    (∀ info t text, AllOrNothing fw.build t (fw.limit info t text) text (fw.set info t text) ↔
      fw.SetMeets info t text) ∧
    (∀ info (commands : List ServerCommand), fw.OneShare info →
      fw.OneShare (commands.foldl fw.serverStep info)) ∧
    ∀ cruiseline, fw.OneShare ⟨fw.build.defaultOf, cruiseline⟩ := by
  refine ⟨fun info t text => ?_, fun info commands single => fw.oneShare_run single commands,
    fw.oneShare_default⟩
  cases t with
  | server => exact setEventServer_allOrNothing text
  | media => exact setEventMedia_allOrNothing text
  | event => exact setEventType_allOrNothing text
  | record => exact setEventRecord_allOrNothing text

/-- The first slot is made the SD card, deleted and made the SAMBA share. -/
theorem event_sets_all_or_nothing_small :
    AllOrNothing smallFirmware.build .server (smallFirmware.limit smallInfo .server
        (ascii "0:4:n:::::::::::")) (ascii "0:4:n:::::::::::")
      (smallFirmware.set smallInfo .server (ascii "0:4:n:::::::::::")) ∧
    smallFirmware.OneShare ([ServerCommand.set (ascii "0:4:n:::::::::::"), .del (ascii "0"),
      .set (ascii "0:3:n:u:p:h::::::w::")].foldl smallFirmware.serverStep smallInfo) :=
  ⟨((event_sets_all_or_nothing smallFirmware).1 smallInfo .server _).mpr
      fun _ _ => ⟨by decide, by decide⟩,
    (event_sets_all_or_nothing smallFirmware).2.1 _ _
      ((event_sets_all_or_nothing smallFirmware).2.2 0)⟩

/-- The number 256 of a slot that does not exist writes the first slot. -/
theorem slot_256_written :
    ¬AllOrNothing smallFirmware.build .server (smallFirmware.limit smallInfo .server
        (ascii "256:4:n:::::::::::")) (ascii "256:4:n:::::::::::")
      (smallFirmware.set smallInfo .server (ascii "256:4:n:::::::::::")) := by
  intro all
  have fits := setEventServer_allOrNothing (ascii "256:4:n:::::::::::") |>.mp all
  have passes : Passes 13 (ascii "256:4:n:::::::::::") (fun ptr =>
      serverTests smallEventBuild smallServer smallInfo
        (readServer smallEventBuild smallServer (ascii "256:4:n:::::::::::") ptr))
      (parametersOf 13 (ascii "256:4:n:::::::::::")) := ⟨by decide, by decide⟩
  exact absurd (fits _ passes).2 (by decide)

/-! ## Deleting undoes setting -/

/-- After a slot was set and deleted its entries have their defaults, all other entries are as
before, and the command that deletes has one line of answer. -/
def Firmware.Undone (fw : Firmware) (info : SysInfo) (t : Table) (slot : Nat)
    (text delText : List UInt8) : Prop :=
  let deleted := fw.del ((fw.set info t text).after info) t delText
  let last := deleted.after ((fw.set info t text).after info)
  (∀ field, fw.build.entry last t slot field =
      fw.build.defaultOf (fw.build.layout.address t slot field)) ∧
    (∀ address, (∀ field, fw.build.layout.address t slot field ≠ address) →
      last.ipcam address = info.ipcam address) ∧
    ∃ line, deleted.lines = [line]

section Undone

variable {fw : Firmware} {info : SysInfo} {t : Table} {slot : Nat} {text delText : List UInt8}

/-- A command that succeeds passes its tests. -/
theorem passes_of_done {paraNum : Nat} {tests : List (List UInt8) → List Test}
    {carryOut : List (List UInt8) → Outcome}
    (refuses : ∀ ptr, ∀ test ∈ tests ptr, test.answer.Refuses)
    (done : Line.done ∈ (command paraNum text tests carryOut).lines) :
    ∃ ptr, Passes paraNum text tests ptr := by
  rcases command_cases paraNum text tests carryOut with passes | ⟨-, line, only, origin⟩
  · exact passes
  · have refused : line.Refuses := by
      rcases origin with count | ⟨ptr, test, member, same⟩
      · exact .inr (.inl count)
      · rw [← same]
        exact refuses ptr test member
    rw [only] at done
    exact absurd (List.mem_singleton.mp done).symm refused.ne_done

/-- The slot of a text that asks for it. -/
theorem narrow_slot (same : slotOf text = slot) (asked : atoi delText = slot) :
    narrow 32 (atoi delText) = slot := by
  have small := narrow_lt 8 (atoi text)
  have below : slot < 2 ^ 8 := by
    rw [← same]
    exact small
  have exact_value := @narrow_of_fits 32 (slot : Int) (Int.natCast_nonneg _) (by omega)
  rw [asked]
  exact_mod_cast exact_value

/-- The text entries of a slot hold their defaults after a reset. -/
def Build.RestoresTexts (build : Build) (t : Table) (slot : Nat) : Prop :=
  ∀ field ∈ t.texts, .text (build.resetText (build.layout.address t slot field)) =
    build.defaultOf (build.layout.address t slot field)

/-- A reset leaves every entry at its default exactly when it does so for the text entries. -/
theorem Build.resetOf_eq_default_iff (build : Build) (t : Table) (slot : Nat) :
    (∀ field, build.resetOf t slot field = build.defaultOf (build.layout.address t slot field)) ↔
      build.RestoresTexts t slot := by
  constructor
  · intro all field text
    rw [← all field, resetOf, if_pos text]
  · intro restores field
    by_cases text : field ∈ t.texts
    · rw [resetOf, if_pos text]
      exact restores field text
    · exact resetOf_number text

/-- Writing some entries of a slot and resetting all of them leaves the slot at its defaults when
the text entries are, and everything else as it was. -/
theorem undone_of_resets {build : Build} {writes : List (t.Field × Datum)}
    {fields : List t.Field} {lines resetLines : List Line} (all : ∀ field, field ∈ fields) :
    let middle := Outcome.after ⟨build.layout.slotWrites t slot writes, lines⟩ info
    let last := Outcome.after ⟨build.resets t slot fields, resetLines⟩ middle
    ((∀ field, build.entry last t slot field =
        build.defaultOf (build.layout.address t slot field)) ↔ build.RestoresTexts t slot) ∧
      ∀ address, (∀ field, build.layout.address t slot field ≠ address) →
        last.ipcam address = info.ipcam address := by
  intro middle last
  constructor
  · rw [← build.resetOf_eq_default_iff]
    exact forall_congr' fun field => by rw [entry_reset (all field)]
  · intro address outside
    have reset : last.ipcam address = middle.ipcam address := ipcam_outside outside
    rw [reset]
    exact ipcam_outside outside

/-- A slot that a command sets and another deletes. -/
theorem deleteSlot_undone_iff {build : Build} {paraNum : Nat} {tests : List (List UInt8) → List Test}
    {writesOf : List (List UInt8) → List (t.Field × Datum)}
    {linesOf : List (List UInt8) → List Line} {fields : List t.Field}
    (refuses : ∀ ptr, ∀ test ∈ tests ptr, test.answer.Refuses)
    (all : ∀ field, field ∈ fields) (inside : slot < build.layout.size t)
    (same : slotOf text = slot) (asked : atoi delText = slot)
    (done : Line.done ∈ (command paraNum text tests fun ptr =>
      ⟨build.layout.slotWrites t (slotOf text) (writesOf ptr), linesOf ptr⟩).lines) :
    let middle := (command paraNum text tests fun ptr =>
      (⟨build.layout.slotWrites t (slotOf text) (writesOf ptr), linesOf ptr⟩ : Outcome)).after info
    let deleted := deleteSlot build t fields delText
    ((∀ field, build.entry (deleted.after middle) t slot field =
        build.defaultOf (build.layout.address t slot field)) ∧
      (∀ address, (∀ field, build.layout.address t slot field ≠ address) →
        (deleted.after middle).ipcam address = info.ipcam address) ∧
      ∃ line, deleted.lines = [line]) ↔ build.RestoresTexts t slot := by
  have passes := passes_of_done refuses done
  obtain ⟨ptr, passes⟩ := passes
  have deletes : deleteSlot build t fields delText = ⟨build.resets t slot fields, [.ok []]⟩ := by
    rw [deleteSlot, narrow_slot same asked]
    exact if_neg (by omega)
  have undone := @undone_of_resets info t slot build (writesOf ptr) fields (linesOf ptr) [.ok []] all
  intro middle deleted
  have first : middle = Outcome.after ⟨build.layout.slotWrites t slot (writesOf ptr),
      linesOf ptr⟩ info := by
    show (command paraNum text tests _).after info = _
    rw [passes.command_eq, same]
  rw [first, show deleted = ⟨build.resets t slot fields, [.ok []]⟩ from deletes]
  exact ⟨fun all => undone.1.mp all.1, fun restores => ⟨undone.1.mpr restores, undone.2, .ok [], rfl⟩⟩

/-- `del_event_server` does not undo `set_event_server`. -/
theorem server_not_undone (inside : slot < fw.build.layout.size .server)
    (done : Line.done ∈ (fw.set info .server text).lines)
    (same : slotOf text = slot) (asked : atoi delText = slot) :
    ¬fw.Undone info .server slot text delText := by
  intro undone
  obtain ⟨defaults, -, line, single⟩ := undone
  obtain ⟨ptr, passes⟩ := passes_of_done (fun _ => serverTests_refuse) done
  simp only [Firmware.del, delEventServer, narrow_slot same asked] at defaults single
  rw [if_neg (Nat.not_le.mpr inside)] at defaults single
  by_cases unknown : 4 < fw.build.u8 (fw.build.entry
      ((fw.set info .server text).after info) .server slot ServerField.id)
  · -- The slot is not deleted, so it is still in use.
    rw [if_pos unknown, Outcome.after_answer] at defaults
    have valid := defaults ServerField.valid
    have used : fw.build.entry ((fw.set info .server text).after info) .server slot
        ServerField.valid = .num 1 := by
      rw [Firmware.set, setEventServer, passes.command_eq, same]
      exact entry_written_once (serverWrites_once _ _) (by simp [serverWrites])
    rw [used] at valid
    have unused := fw.build.default_valid .server slot inside
    rw [show fw.build.defaultOf (fw.build.layout.address .server slot ServerField.valid) = .num 0
      from unused] at valid
    cases valid
  · rw [if_neg unknown] at single
    cases single

/-- Deleting undoes setting exactly for the tables other than that of the servers, when the text
entries of the slot hold their defaults after a reset. -/
theorem deleted_after_set_iff (fw : Firmware) (info : SysInfo) (t : Table) (slot : Nat)
    (text delText : List UInt8) (inside : slot < fw.build.layout.size t)
    (done : Line.done ∈ (fw.set info t text).lines)
    (same : slotOf text = slot) (asked : atoi delText = slot) :
    fw.Undone info t slot text delText ↔ t ≠ .server ∧ fw.build.RestoresTexts t slot := by
  cases t with
  | server =>
    exact iff_of_false (server_not_undone inside done same asked) fun both => both.1 rfl
  | media =>
    rw [and_iff_right (show Table.media ≠ .server by decide)]
    exact deleteSlot_undone_iff (fun _ => mediaTests_refuse)
      (by intro field; cases field <;> decide) inside same asked done
  | event =>
    rw [and_iff_right (show Table.event ≠ .server by decide)]
    exact deleteSlot_undone_iff (fun _ => eventTests_refuse)
      (by intro field; cases field <;> decide) inside same asked done
  | record =>
    rw [and_iff_right (show Table.record ≠ .server by decide)]
    exact deleteSlot_undone_iff (fun _ => recordTests_refuse)
      (by intro field; cases field <;> decide) inside same asked done

/-- A picture is set in the second slot and deleted. -/
theorem deleted_after_set_iff_small :
    smallFirmware.Undone smallInfo .media 1 (ascii "1:0:n:0:1:1:0::f") (ascii "1") :=
  (deleted_after_set_iff smallFirmware smallInfo .media 1 _ _ (by decide) (by decide) (by decide)
    (by decide)).mpr ⟨by decide, by unfold Build.RestoresTexts; decide⟩

/-- A server that is reached by SMTP with encryption is set and deleted. There are two lines of
answer and the encryption stays. -/
theorem encryption_left :
    Line.done ∈ (smallFirmware.set smallInfo .server (ascii "0:0:n:u:p:h:25:a:b:::::1")).lines ∧
      ¬smallFirmware.Undone smallInfo .server 0 (ascii "0:0:n:u:p:h:25:a:b:::::1") (ascii "0") ∧
      smallFirmware.build.entry
        ([ServerCommand.set (ascii "0:0:n:u:p:h:25:a:b:::::1"), .del (ascii "0")].foldl
          smallFirmware.serverStep smallInfo)
        .server 0 ServerField.smtpEncryption = .num 1 :=
  ⟨by decide, server_not_undone (by decide) (by decide) (by decide) (by decide), by decide⟩

end Undone

end BoaIpcam.Events
