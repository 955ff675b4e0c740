import BoaIpcam.Lib.EarlyExit
import BoaIpcam.Numeral

/-!
# The pages of the day and night mode and of the infrared light

`uri_icr` (of the builds with `SUPPORT_DNCONTROL`) and `uri_irled` of `request.c` go over the
arguments of a request and store a mode and the two times of a schedule. The mode is carried from
one argument to the next in a variable that nothing sets before the first one, and a bad value ends
the loop. The pages differ in where the mode is stored and in the test of the end time. What is
printed is left out.
-/
namespace BoaIpcam.SchedulePages

open EarlyExit

/-- The times of a schedule. -/
inductive Slot where
  | start | finish
deriving DecidableEq, Repr

/-- The argument of a time. -/
def Slot.name : Slot → List UInt8
  | .start => ascii "starttime"
  | .finish => ascii "endtime"

/-- The entries of a page: `DNC_MODE`, `DNC_SCHEDULE_START` and `DNC_SCHEDULE_END`, or `POWEROUT`,
`POWERSCHEDULE_START` and `POWERSCHEDULE_END`. -/
structure Schedule where
  /-- The mode. -/
  mode : BitVec 8
  /-- The start and the end. -/
  time : Slot → BitVec 32

/-- The modes. -/
structure Modes where
  /-- Always on. -/
  on : Int
  /-- Always off. -/
  off : Int
  /-- By the light. -/
  auto : Int
  /-- By the clock. -/
  schedule : Int

/-- The mode that a text names. -/
def Modes.named (modes : Modes) (text : List UInt8) : Option Int :=
  if text = ascii "on" then some modes.on
  else if text = ascii "off" then some modes.off
  else if text = ascii "auto" then some modes.auto
  else if text = ascii "schedule" then some modes.schedule
  else none

/-- What the pages differ in. -/
structure Page where
  /-- The numbers of the modes. -/
  modes : Modes
  /-- The test of an hour and a minute that ends the loop. -/
  late : Slot → Int × Int → Bool
  /-- The mode is stored behind every argument, not with the argument that names it. -/
  always : Bool
  /-- What the text of a mode sets of `dn_control`. -/
  command : List UInt8 → Nat

/-- The variables of the loop: the entries, `value`, the hours and minutes read so far and
`dn_control`. -/
structure Serving where
  /-- The entries. -/
  cfg : Schedule
  /-- The mode that was read last, or what the stack holds. -/
  value : Int
  /-- The hours and minutes that were read. -/
  tmp : Slot → Int × Int
  /-- `dn_control`, the last command for the day and night mode. -/
  control : Nat

/-- An argument: its name and its value. -/
abbrev Argument := List UInt8 × List UInt8

/-- `sscanf` with `%02d:%02d` into an hour and a minute. -/
def scanTime (text : List UInt8) (tmp : Int × Int) : Int × Int :=
  match scanInt2 text with
  | none => tmp
  | some (hour, rest) =>
    match (scanChar 58 rest).bind scanInt2 with
    | none => (hour, tmp.2)
    | some (min, _) => (hour, min)

/-- The number that a time is stored as. -/
def clock (time : Int × Int) : BitVec 32 := BitVec.ofInt 32 (time.1 * 10000 + time.2 * 100)

/-- A mode that differs is stored. -/
def writeMode (s : Serving) : Serving :=
  if (s.cfg.mode.toNat : Int) ≠ s.value then
    { s with cfg := { s.cfg with mode := BitVec.ofInt 8 s.value } }
  else s

section Steps

variable (page : Page)

/-- The part of the step for the mode. -/
def modeArgument (s : Serving) (arg : Argument) : Serving × Bool :=
  if arg.1 = ascii "mode" then
    match page.modes.named arg.2 with
    | none => (s, false)
    | some value =>
      let s := { s with value := value, control := s.control ||| page.command arg.2 }
      (if page.always then s else writeMode s, true)
  else (s, true)

/-- The part of the step for a time. -/
def timeArgument (slot : Slot) (s : Serving) (arg : Argument) : Serving × Bool :=
  if arg.1 = slot.name ∧ s.value = page.modes.schedule then
    let tmp := scanTime arg.2 (s.tmp slot)
    let s := { s with tmp := Function.update s.tmp slot tmp }
    if page.late slot tmp then (s, false)
    else ({ s with cfg := { s.cfg with time := Function.update s.cfg.time slot (clock tmp) } }, true)
  else (s, true)

/-- A part of the step that is left out once the loop has ended. -/
def andThen (part : Serving × Bool) (next : Serving → Serving × Bool) : Serving × Bool :=
  if part.2 then next part.1 else part

/-- The step for an argument. -/
def step (_ : Nat) (s : Serving) (arg : Argument) : Serving × Bool :=
  andThen (modeArgument page s arg) fun s =>
  andThen (timeArgument page .start s arg) fun s =>
  andThen (timeArgument page .finish s arg) fun s =>
  (if page.always then writeMode s else s, true)

/-- The loop over the arguments, with what `value` holds at first. -/
def serve (held : Int) (control : Nat) (args : List Argument) (cfg : Schedule) : Serving :=
  loop (step page) 0 ⟨cfg, held, fun _ => (0, 0), control⟩ args

end Steps

/-! ## The pages -/

/-- The constants of the day and night mode. -/
structure DayNight where
  /-- The numbers of the modes. -/
  modes : Modes
  /-- The command for the mode. -/
  cmdMode : Nat
  /-- The command for the schedule. -/
  cmdSchedule : Nat

/-- `uri_icr`. -/
def uriIcr (b : DayNight) : Page where
  modes := b.modes
  late _ time := 23 < time.1 ∨ 59 < time.2
  always := false
  command text := if text = ascii "schedule" then b.cmdSchedule else b.cmdMode

/-- `uri_irled`, whose test of the end time looks at the hour twice. -/
def uriIrled (modes : Modes) : Page where
  modes := modes
  late
    | .start, time => 23 < time.1 ∨ 59 < time.2
    | .finish, time => 23 < time.1 ∨ 59 < time.1
  always := true
  command _ := 0

end BoaIpcam.SchedulePages
