import BoaIpcam.Events.Command

/-!
# Event types

`set_event_type` and `del_event_type`. With `SUPPORT_VISCA` an event can move the camera; when the
argument for this is not valid the command answers `=3` and goes on.
-/
namespace BoaIpcam.Events

open FlatTables

/-- The parameters of `set_event_type`, `ET_*`. -/
inductive EventParameter where
  | enable | priority | delay | trigger | reserve | name | scDay | scMode | scRange | doEn | doTime
  | acServer | acMedia | acDiTrig | acPtzEn | acPtzMode | acPtzMArg
deriving DecidableEq, Repr

/-- The constants of the commands for event types. -/
structure EventValues where
  /-- `E2G_EVENT_PARA_NUM`. -/
  paraNum : Nat
  /-- Where each parameter stands. -/
  position : EventParameter → Nat
  /-- The name stands before the schedule. -/
  ordered : position .name < position .scDay
  /-- `EVENT_TYPE_NORMAL`. -/
  typeNormal : UInt16
  /-- `MAX_E2G_DELAY`. -/
  maxDelay : Nat
  /-- `TRIG_BY_MAXNUM`. -/
  trigByMaxnum : Nat
  /-- `MIN_E2G_PERIODIC`. -/
  minPeriodic : Nat
  /-- `MAX_E2G_PERIODIC`. -/
  maxPeriodic : Nat
  /-- `MIN_E2G_GIOOUT`. -/
  minGioout : Nat
  /-- `MAX_E2G_GIOOUT`. -/
  maxGioout : Nat
  /-- `MAX_PTZ_M_ARG`. -/
  maxPtzMArg : Nat
  /-- `VISCA_PRESET_MD`, `VISCA_SEQUENCE_MD`, `VISCA_AUTOPAN_MD` and `VISCA_CRUISE_MD`. -/
  presetMd : Nat
  /-- The mode for sequences. -/
  sequenceMd : Nat
  /-- The mode for auto pans. -/
  autopanMd : Nat
  /-- The mode for cruises. -/
  cruiseMd : Nat
  /-- The modes are different. -/
  modes_ne : [presetMd, sequenceMd, autopanMd, cruiseMd].Nodup
  /-- What the structure holds before the parameters are read, from `E2G_SCHEDULE_DEFAULT` and
  `E2G_TYPE_DEFAULT`. -/
  times : Times
  /-- The entry of the motion window. -/
  motionWindow : Nat
  /-- The entry of the input's trigger. -/
  gioinTrig : Nat
  /-- The entry of the input's type. -/
  gioinType : Nat
  /-- The entry of the output's type. -/
  gioutType : Nat

/-- The structure `EVENT_2G_TYPE`, as far as parameters set it. -/
structure EventType where
  /-- The number of the slot. -/
  id : Nat
  /-- Whether the event is used. -/
  enable : Nat
  /-- Its name. -/
  name : List UInt8
  /-- Its priority. -/
  priority : Nat
  /-- The delay. -/
  delay : Nat
  /-- What triggers it. -/
  triggerType : Nat
  /-- The period. -/
  periodicTime : Nat
  /-- The days of the week. -/
  day : Nat
  /-- Whether it keeps to the schedule. -/
  mode : Nat
  /-- `none` when `sscanf` does not find six numbers. -/
  times : Option Times
  /-- Whether the output is set. -/
  gioutTrig : Nat
  /-- For how long. -/
  gioutDuration : Nat
  /-- The servers, one bit each. -/
  actionServer : Nat
  /-- The medium. -/
  actionMedia : Nat
  /-- The level of the input. -/
  gioinTrig : Nat
  /-- Whether the camera is moved. -/
  actionPtzEn : Nat
  /-- How it is moved. -/
  actionPtzMode : Nat
  /-- The number that is read for `action_ptz_m_arg`, from which 1 is taken. -/
  arg : Int

/-- `action_ptz_m_arg`. -/
def EventType.actionPtzMArg (event : EventType) : Nat := narrow 8 (event.arg - 1)

section Handlers

variable (build : Build) (values : EventValues)

/-- `atoi` of a parameter in a variable with a number of bits. -/
def eventNumber (ptr : List (List UInt8)) (bits : Nat) (parameter : EventParameter) : Nat :=
  narrow bits (atoi (behind ptr (values.position parameter)))

/-- `strtol` with the base 16 of a parameter in a variable with a number of bits. -/
def eventMask (ptr : List (List UInt8)) (bits : Nat) (parameter : EventParameter) : Nat :=
  narrow bits (strtolHex (behind ptr (values.position parameter)))

/-- The parameters of an event. The last four are read with `SUPPORT_VISCA` only. -/
def readEventType (text : List UInt8) (ptr : List (List UInt8)) : EventType where
  id := slotOf text
  enable := eventNumber values ptr 8 .enable
  name := between ptr (build.nameSize - 1) (values.position .name) (values.position .scDay)
  priority := eventNumber values ptr 8 .priority
  delay := eventNumber values ptr 16 .delay
  triggerType := eventNumber values ptr 16 .trigger
  periodicTime := eventNumber values ptr 32 .reserve
  day := eventMask values ptr 16 .scDay
  mode := eventNumber values ptr 16 .scMode
  times := scanTimes (behind ptr (values.position .scRange))
  gioutTrig := eventNumber values ptr 16 .doEn
  gioutDuration := eventNumber values ptr 32 .doTime
  actionServer := eventMask values ptr 16 .acServer
  actionMedia := eventMask values ptr 32 .acMedia
  gioinTrig :=
    if build.supportVisca then eventMask values ptr 16 .acDiTrig else values.gioinTrig
  actionPtzEn := eventNumber values ptr 8 .acPtzEn
  actionPtzMode := eventNumber values ptr 8 .acPtzMode
  arg := atoi (behind ptr (values.position .acPtzMArg))

/-- The start of a schedule is before its end, in hours and minutes. -/
def Times.Ordered (times : Times) : Prop :=
  times.startHour * 60 * 60 + times.startMin * 60 < times.endHour * 60 * 60 + times.endMin * 60

instance (times : Times) : Decidable times.Ordered := inferInstanceAs (Decidable (_ < _))

/-- The servers of an action, of those there are. -/
def actionServers (actionServer : Nat) : List Nat :=
  (List.range (build.layout.size .server)).filter fun j => actionServer &&& (1 <<< j) ≠ 0

/-- `media_flag`: the medium that an action sends to a server, 15 for none. -/
def mediaFlag (actionServer actionMedia j : Nat) : Nat :=
  if actionServer &&& (1 <<< j) ≠ 0 then (actionMedia &&& (15 <<< (4 * j))) >>> (4 * j) else 15

/-- The actions that `check_act_media_status` looks at: that of the new event, and those of the
others that are valid. -/
def checkedActions (info : SysInfo) (event : EventType) : List (Nat × Nat) :=
  ((List.range (build.layout.size .event)).filter fun i : Nat =>
      i = event.id ∨ build.u8 (build.entry info .event i EventField.valid) = 1).map fun i : Nat =>
    if i = event.id then (event.actionServer, event.actionMedia)
    else (build.u16 (build.entry info .event i EventField.actionServer),
      build.u32 (build.entry info .event i EventField.actionMedia))

/-- `check_act_media_status(..) < 0`: a medium is sent twice. -/
def mediaUsedTwice (info : SysInfo) (event : EventType) : Bool :=
  (List.range (build.layout.size .media)).any fun same : Nat =>
    1 < (((checkedActions build info event).flatMap fun action =>
      (List.range (build.layout.size .server)).map fun j : Nat =>
        mediaFlag action.1 action.2 j).count same)

/-- The switch over the mode of the camera, `ret != 0`. A preset that is in range falls through to
the test for a sequence. -/
def ptzError (info : SysInfo) (event : EventType) : Bool :=
  if event.actionPtzMode = values.presetMd then
    if 255 < event.actionPtzMArg then false else 7 < event.actionPtzMArg
  else if event.actionPtzMode = values.sequenceMd then 7 < event.actionPtzMArg
  else if event.actionPtzMode = values.autopanMd then 3 < event.actionPtzMArg
  else if event.actionPtzMode = values.cruiseMd then
    info.cruiseline - 1 < (event.actionPtzMArg : Int)
  else true

/-- The tests that are made with `SUPPORT_VISCA`. -/
def viscaTests (info : SysInfo) (event : EventType) : List Test :=
  [⟨mediaUsedTwice build info event, .ng (ascii "=3")⟩,
    ⟨event.actionPtzEn = 1 ∧ (event.arg < 1 ∨ values.maxPtzMArg + 1 < event.arg), .wrong⟩]

/-- The tests of `set_event_type`, in their order. -/
def eventTests (info : SysInfo) (event : EventType) : List Test :=
  [⟨build.layout.size .event ≤ event.id, .wrong⟩, ⟨1 < event.enable, .wrong⟩,
    ⟨event.name = [], .wrong⟩, ⟨build.special event.name, .wrong⟩, ⟨2 < event.priority, .wrong⟩,
    ⟨values.maxDelay < event.delay, .wrong⟩, ⟨values.trigByMaxnum ≤ event.triggerType, .wrong⟩,
    ⟨values.maxPeriodic < event.periodicTime ∨ event.periodicTime < values.minPeriodic, .wrong⟩,
    ⟨0x7F < event.day, .wrong⟩, ⟨1 < event.mode, .wrong⟩, ⟨event.times = none, .wrong⟩,
    ⟨¬(event.times.getD values.times).Ordered, .wrong⟩, ⟨1 < event.gioutTrig, .wrong⟩,
    ⟨values.maxGioout < event.gioutDuration ∨ event.gioutDuration < values.minGioout, .wrong⟩,
    ⟨build.eventActionChoice ∧ 1 < (actionServers build event.actionServer).length, .wrong⟩,
    ⟨0x1F < event.actionServer, .wrong⟩] ++
    if build.supportVisca then viscaTests build values info event else []

/-- The entries of an event that are written. What is meant for `GIOIN_TYPE` goes to `GIOOUT_TYPE`
and is overwritten there. -/
def eventWrites (event : EventType) : List (EventField × Datum) :=
  let times := event.times.getD values.times
  [(.valid, .num 1), (.enable, .num event.enable), (.id, .num event.id),
    (.type, .num values.typeNormal.toNat), (.name, .text event.name),
    (.scheduleMode, .num event.mode), (.scheduleDay, .num event.day),
    (.startHour, .num times.startHour), (.startMin, .num times.startMin),
    (.startSec, .num times.startSec), (.endHour, .num times.endHour),
    (.endMin, .num times.endMin), (.endSec, .num times.endSec),
    (.priority, .num event.priority), (.delay, .num event.delay),
    (.triggerType, .num event.triggerType), (.motionWindow, .num values.motionWindow),
    (.gioinTrig, .num event.gioinTrig), (.gioutType, .num values.gioinType),
    (.periodicTime, .num event.periodicTime), (.gioutTrig, .num event.gioutTrig),
    (.gioutType, .num values.gioutType), (.gioutDuration, .num event.gioutDuration),
    (.actionServer, .num event.actionServer), (.actionMedia, .num event.actionMedia)] ++
  if build.supportVisca then
    (.actionPtzEn, .num event.actionPtzEn) ::
      if event.actionPtzEn = 1 then
        [(.actionPtzMode, .num event.actionPtzMode), (.actionPtzMArg, .num event.actionPtzMArg)]
      else []
  else []

/-- The answers of an event that is written. An argument for the camera that is not valid is
answered, but the command goes on. -/
def eventLines (info : SysInfo) (event : EventType) : List Line :=
  if build.supportVisca ∧ event.actionPtzEn = 1 ∧ ptzError values info event then [.wrong, .done]
  else [.done]

/-- `set_event_type`. -/
def setEventType (info : SysInfo) (text : List UInt8) : Outcome :=
  command values.paraNum text
    (fun ptr => eventTests build values info (readEventType build values text ptr))
    fun ptr =>
      let event := readEventType build values text ptr
      ⟨build.layout.slotWrites .event (slotOf text) (eventWrites build values event),
        eventLines build values info event⟩

/-- The entries that `del_event_type` resets. -/
def eventResets : List EventField :=
  [.valid, .enable, .id, .type, .name,
    .scheduleMode, .scheduleDay, .startHour, .startMin, .startSec, .endHour, .endMin, .endSec,
    .priority, .delay, .triggerType, .motionWindow, .gioinTrig, .gioinType, .periodicTime,
    .gioutTrig, .gioutType, .gioutDuration, .actionServer, .actionMedia, .actionPtzEn,
    .actionPtzMode, .actionPtzMArg]

/-- `del_event_type`. -/
def delEventType (text : List UInt8) : Outcome := deleteSlot build .event eventResets text

end Handlers

/-! ## The limits -/

section Limits

variable {build : Build} {values : EventValues} {info : SysInfo} {event : EventType}

/-- The argument for the camera is one of the mode. -/
def PtzLimit (values : EventValues) (info : SysInfo) (mode : Nat) (arg : Int) : Prop :=
  (mode = values.presetMd ∨ mode = values.sequenceMd) ∧ arg ≤ 7 ∨
    mode = values.autopanMd ∧ arg ≤ 3 ∨
    mode = values.cruiseMd ∧ arg ≤ info.cruiseline - 1

/-- An entry holds a time of a schedule that starts before it ends. -/
def TimeLimit (times : Option Times) (time : Times → Int) (datum : Datum) : Prop :=
  ∃ read : Times, times = some read ∧ read.Ordered ∧ datum = .num (time read)

/-- What `set_event_type` tests of an entry. -/
def eventLimit (build : Build) (values : EventValues) (info : SysInfo) (event : EventType) :
    EventField → Datum → Prop
  | .valid, datum => datum.Is (· = 1)
  | .enable, datum => datum.Is fun enable => 0 ≤ enable ∧ enable ≤ 1
  | .id, datum => datum.Is fun id => 0 ≤ id ∧ id < build.layout.size .event
  | .name, datum => datum.IsText fun name => name ≠ [] ∧ build.special name = false
  | .scheduleMode, datum => datum.Is fun mode => 0 ≤ mode ∧ mode ≤ 1
  | .scheduleDay, datum => datum.Is fun day => 0 ≤ day ∧ day ≤ 0x7F
  | .startHour, datum => TimeLimit event.times Times.startHour datum
  | .startMin, datum => TimeLimit event.times Times.startMin datum
  | .startSec, datum => TimeLimit event.times Times.startSec datum
  | .endHour, datum => TimeLimit event.times Times.endHour datum
  | .endMin, datum => TimeLimit event.times Times.endMin datum
  | .endSec, datum => TimeLimit event.times Times.endSec datum
  | .priority, datum => datum.Is fun priority => 0 ≤ priority ∧ priority ≤ 2
  | .delay, datum => datum.Is fun delay => 0 ≤ delay ∧ delay ≤ values.maxDelay
  | .triggerType, datum => datum.Is fun type => 0 ≤ type ∧ type < values.trigByMaxnum
  | .periodicTime, datum => datum.Is fun time =>
      values.minPeriodic ≤ time ∧ time ≤ values.maxPeriodic
  | .gioutTrig, datum => datum.Is fun trig => 0 ≤ trig ∧ trig ≤ 1
  | .gioutDuration, datum => datum.Is fun time => values.minGioout ≤ time ∧ time ≤ values.maxGioout
  | .actionServer, datum => datum.Is fun servers => 0 ≤ servers ∧ servers ≤ 0x1F ∧
      (build.eventActionChoice → (actionServers build servers.toNat).length ≤ 1)
  | .actionPtzMArg, datum => datum.Is fun arg =>
      0 ≤ arg ∧ arg ≤ values.maxPtzMArg ∧ PtzLimit values info event.actionPtzMode arg
  | _, _ => True

/-- The argument for the camera of an event that has one is one of its mode. -/
def PtzFits (build : Build) (values : EventValues) (info : SysInfo) (event : EventType) : Prop :=
  build.supportVisca → event.actionPtzEn = 1 →
    PtzLimit values info event.actionPtzMode event.actionPtzMArg

/-- The tests of `set_event_type` answer with refusals. -/
theorem eventTests_refuse : ∀ test ∈ eventTests build values info event, test.answer.Refuses := by
  have wrong : Line.wrong.Refuses := .inl rfl
  have used : (Line.ng (ascii "=3")).Refuses := .inr (.inr (.inl rfl))
  cases visca : build.supportVisca <;> simp [eventTests, viscaTests, visca, wrong, used]

/-- The switch over the mode finds no error exactly when the argument is one of the mode. -/
theorem ptzError_eq_false :
    ptzError values info event = false ↔
      PtzLimit values info event.actionPtzMode event.actionPtzMArg := by
  have small : event.actionPtzMArg < 2 ^ 8 := narrow_lt 8 _
  have apart := values.modes_ne
  simp only [List.nodup_cons, List.mem_cons, List.not_mem_nil, or_false, not_or] at apart
  unfold ptzError PtzLimit
  by_cases preset : event.actionPtzMode = values.presetMd
  · have in_range : ¬255 < event.actionPtzMArg := by omega
    rw [if_pos preset, if_neg in_range, decide_eq_false_iff_not]
    omega
  · by_cases sequence : event.actionPtzMode = values.sequenceMd
    · rw [if_neg preset, if_pos sequence, decide_eq_false_iff_not]
      omega
    · by_cases autopan : event.actionPtzMode = values.autopanMd
      · rw [if_neg preset, if_neg sequence, if_pos autopan, decide_eq_false_iff_not]
        omega
      · by_cases cruise : event.actionPtzMode = values.cruiseMd
        · rw [if_neg preset, if_neg sequence, if_neg autopan, if_pos cruise,
            decide_eq_false_iff_not]
          omega
        · rw [if_neg preset, if_neg sequence, if_neg autopan, if_neg cruise]
          simp [preset, sequence, autopan, cruise]

/-- There is one answer exactly when the argument for the camera is one of its mode. -/
theorem eventLines_eq_done :
    eventLines build values info event = [.done] ↔ PtzFits build values info event := by
  unfold eventLines PtzFits
  rw [← ptzError_eq_false]
  by_cases visca : build.supportVisca = true
  · by_cases en : event.actionPtzEn = 1
    · cases ptzError values info event <;> simp [visca, en]
    · simp [en]
  · simp [visca]

/-- What the tests of `set_event_type` say besides those on the number of the slot. -/
structure EventTested (build : Build) (values : EventValues) (event : EventType) : Prop where
  /-- There is such a slot. -/
  id : event.id < build.layout.size .event
  /-- The flag is 0 or 1. -/
  enable : event.enable ≤ 1
  /-- There is a name. -/
  name : event.name ≠ []
  /-- The name has no special character. -/
  plain : build.special event.name = false
  /-- The priority is at most 2. -/
  priority : event.priority ≤ 2
  /-- The delay is in its range. -/
  delay : event.delay ≤ values.maxDelay
  /-- The trigger is one that there is. -/
  trigger : event.triggerType < values.trigByMaxnum
  /-- The period is in its range. -/
  periodic : event.periodicTime ≤ values.maxPeriodic ∧ values.minPeriodic ≤ event.periodicTime
  /-- There are seven days. -/
  day : event.day ≤ 0x7F
  /-- The mode is 0 or 1. -/
  mode : event.mode ≤ 1
  /-- The schedule has its numbers, and the end is not before the start. -/
  times : ∃ read : Times, event.times = some read ∧ read.Ordered
  /-- The flag of the output is 0 or 1. -/
  gioutTrig : event.gioutTrig ≤ 1
  /-- Its duration is in its range. -/
  gioutDuration : event.gioutDuration ≤ values.maxGioout ∧ values.minGioout ≤ event.gioutDuration
  /-- One server at most is chosen, where that is asked for. -/
  choice : build.eventActionChoice → (actionServers build event.actionServer).length ≤ 1
  /-- There are five servers. -/
  servers : event.actionServer ≤ 0x1F
  /-- The argument of the camera is in the range of all modes. -/
  arg : build.supportVisca → event.actionPtzEn = 1 →
    1 ≤ event.arg ∧ event.arg ≤ values.maxPtzMArg + 1

/-- An event that passes the tests is tested. -/
theorem eventTested_of_passed
    (passed : ∀ test ∈ eventTests build values info event, test.fails = false) :
    EventTested build values event := by
  have both := List.forall_mem_append.mp passed
  have plain := both.1
  simp only [List.forall_mem_cons, decide_eq_false_iff_not, Nat.not_le, Nat.not_lt, not_or,
    not_and, not_not] at plain
  obtain ⟨id, enable, name, special, priority, delay, trigger, periodic, day, mode, times, ordered,
    giout, duration, choice, servers, -⟩ := plain
  obtain ⟨read, found⟩ := Option.ne_none_iff_exists'.mp times
  rw [found] at ordered
  refine ⟨id, enable, name, special, priority, delay, trigger, periodic, day, mode,
    ⟨read, found, ordered⟩, giout, duration, choice, servers, fun visca en => ?_⟩
  have tests := both.2
  simp only [visca, if_true, viscaTests, List.forall_mem_cons, decide_eq_false_iff_not, en,
    true_and, not_or] at tests
  omega

/-- What `set_event_type` writes keeps the limits if the argument for the camera does. -/
theorem eventWrites_limit (tested : EventTested build values event)
    (fits : PtzFits build values info event) :
    ∀ write ∈ eventWrites build values event,
      eventLimit build values info event write.1 write.2 := by
  obtain ⟨read, found, ordered⟩ := tested.times
  have bounds : (event.enable : Int) ≤ 1 ∧ (event.priority : Int) ≤ 2 ∧ (event.day : Int) ≤ 127 ∧
      (event.mode : Int) ≤ 1 ∧ (event.gioutTrig : Int) ≤ 1 ∧ (event.actionServer : Int) ≤ 31 := by
    have enable := tested.enable
    have priority := tested.priority
    have day := tested.day
    have mode := tested.mode
    have trig := tested.gioutTrig
    have servers := tested.servers
    omega
  intro write member
  rcases List.mem_append.mp member with common | visca
  · clear member
    revert write
    simpa [eventLimit, Datum.Is, Datum.IsText, TimeLimit, found, ordered, bounds, tested.id,
      tested.name, tested.plain, tested.delay, tested.trigger, tested.periodic,
      tested.gioutDuration] using tested.choice
  · by_cases support : build.supportVisca = true
    · rw [if_pos support] at visca
      by_cases en : event.actionPtzEn = 1
      · have arg := tested.arg support en
        have read_arg : (event.actionPtzMArg : Int) ≤ values.maxPtzMArg := by
          have remainder : event.actionPtzMArg = ((event.arg - 1) % 2 ^ 8).toNat := rfl
          omega
        have limit := fits support en
        rw [if_pos en] at visca
        clear member
        revert write
        simp [eventLimit, Datum.Is, read_arg, limit]
      · rw [if_neg en] at visca
        clear member
        revert write
        simp [eventLimit]
    · rw [if_neg support] at visca
      cases visca

/-- `set_event_type` is all or nothing exactly when a text that passes the tests starts with the
number of a slot and the argument for the camera is one of its mode. -/
theorem setEventType_allOrNothing (text : List UInt8) :
    AllOrNothing build .event
        (eventLimit build values info
          (readEventType build values text (parametersOf values.paraNum text)))
        text (setEventType build values info text) ↔
      ∀ ptr, Passes values.paraNum text
          (fun ptr => eventTests build values info (readEventType build values text ptr)) ptr →
        SlotFits text ∧ PtzFits build values info (readEventType build values text ptr) := by
  unfold setEventType
  rw [allOrNothing_command (fun _ => eventTests_refuse) (fun _ => by simp [eventWrites])]
  constructor
  · intro all ptr passes
    obtain ⟨fits, answer, -⟩ := all ptr passes
    exact ⟨fits, eventLines_eq_done.mp answer⟩
  · intro facts ptr passes
    obtain ⟨fits, ptz⟩ := facts ptr passes
    rw [← passes.ptr_eq]
    exact ⟨fits, eventLines_eq_done.mpr ptz,
      eventWrites_limit (eventTested_of_passed passes.passed) ptz⟩

end Limits

end BoaIpcam.Events
