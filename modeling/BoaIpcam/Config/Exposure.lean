import BoaIpcam.Lib.CyclicSpans
import BoaIpcam.Numeral
import Mathlib.Logic.Function.Basic

/-!
# The exposure schedules

`uri_expoure` of `request.c` reads schedules of the form `id:enable:value:HHMM:HHMM` from its
arguments to an array on its stack, which it does not initialise, compares the slots that are
marked valid with the others and saves them. The comparison leaves out the last slot.
-/
namespace BoaIpcam.Exposure

open CyclicSpans

/-! ## The data -/

/-- The hour and the minute of a time. -/
structure ScheduleTime where
  /-- The hour. -/
  nHour : Int
  /-- The minute. -/
  nMin : Int
deriving DecidableEq, Repr

/-- `EXPOSURE_TIME_EX`. -/
structure ExposureTimeEx where
  /-- The mark that the slot is to be saved. -/
  valid : Int
  /-- Whether the schedule is used. -/
  enable : Int
  /-- The name of the exposure time. -/
  value : List UInt8
  /-- The first minute. -/
  start : ScheduleTime
  /-- The last minute. -/
  stop : ScheduleTime
deriving DecidableEq, Repr

/-- The minute of the day. -/
def ScheduleTime.minute (time : ScheduleTime) : Int := time.nHour * 60 + time.nMin

/-- A time between 00:00 and 23:59. -/
def ScheduleTime.OfDay (time : ScheduleTime) : Prop :=
  0 ≤ time.nHour ∧ time.nHour < 24 ∧ 0 ≤ time.nMin ∧ time.nMin < 60

instance (time : ScheduleTime) : Decidable time.OfDay :=
  inferInstanceAs (Decidable (_ ∧ _ ∧ _ ∧ _))

namespace ExposureTimeEx

/-- The minutes from the start to the end. -/
def span (schedule : ExposureTimeEx) : Span := ⟨schedule.start.minute, schedule.stop.minute⟩

/-- An enabled schedule with times of the day. -/
def Enabled (schedule : ExposureTimeEx) : Prop :=
  schedule.enable ≠ 0 ∧ schedule.start.OfDay ∧ schedule.stop.OfDay

instance (schedule : ExposureTimeEx) : Decidable schedule.Enabled :=
  inferInstanceAs (Decidable (_ ∧ _ ∧ _))

/-- No minute of the day belongs to both schedules. -/
def Disjoint (set base : ExposureTimeEx) : Prop := ¬Span.Overlap 1440 set.span base.span

end ExposureTimeEx

/-! ## The texts -/

/-- `%s` of `sscanf` with the text behind it. -/
def scanString (text : List UInt8) : Option (List UInt8 × List UInt8) :=
  (scanWord text).map fun word => (word, (text.dropWhile isSpace).drop word.length)

/-- `%02d%02d`: the numbers that are read, and the text behind both. -/
def scanClock (text : List UInt8) : List Int × Option (List UInt8) :=
  match scanInt2 text with
  | none => ([], none)
  | some (hour, rest) =>
    match scanInt2 rest with
    | none => ([hour], none)
    | some (min, rest) => ([hour, min], some rest)

/-- `%02d%02d:%02d%02d`: the numbers that are read. -/
def scanTimes (text : List UInt8) : List Int :=
  let (start, rest) := scanClock text
  match rest.bind (scanChar 58) with
  | none => start
  | some rest => start ++ (scanClock rest).1

/-- What `sscanf` has read when it stops. -/
structure Scanned where
  /-- The number of the slot. -/
  id : Option Int
  /-- The number of `enable`. -/
  enable : Option Int
  /-- The word of `value`. -/
  value : Option (List UInt8)
  /-- The hours and minutes, as far as they are read. -/
  times : List Int
deriving DecidableEq, Repr

/-- `sscanf` with the format `%d:%d:%s %02d%02d:%02d%02d`. -/
def scanSchedule (text : List UInt8) : Scanned :=
  match scanInt text with
  | none => ⟨none, none, none, []⟩
  | some (id, rest) =>
    match (scanChar 58 rest).bind scanInt with
    | none => ⟨some id, none, none, []⟩
    | some (enable, rest) =>
      match (scanChar 58 rest).bind scanString with
      | none => ⟨some id, some enable, none, []⟩
      | some (value, rest) => ⟨some id, some enable, some value, scanTimes rest⟩

/-- `strchr(ptr+1, ':')`. -/
def colonBehind (text : List UInt8) (ptr : Nat) : Option Nat :=
  ((text.drop (ptr + 1)).idxOf? 58).map (· + (ptr + 1))

/-- The text after the third colon behind its first byte is made a blank, and what is read of it.
In an empty text the search goes on behind the end, but nothing is read of the text then. -/
def scanned (schedule : List UInt8) : Option Scanned := do
  let ptr ← colonBehind schedule 0
  let ptr ← colonBehind schedule ptr
  let ptr ← colonBehind schedule ptr
  some (scanSchedule (schedule.set ptr 32))

/-- The fields that `sscanf` has read are written to a slot. -/
def ExposureTimeEx.store (setting : ExposureTimeEx) (fields : Scanned) : ExposureTimeEx where
  valid := setting.valid
  enable := fields.enable.getD setting.enable
  value := fields.value.getD setting.value
  start := ⟨fields.times[0]?.getD setting.start.nHour, fields.times[1]?.getD setting.start.nMin⟩
  stop := ⟨fields.times[2]?.getD setting.stop.nHour, fields.times[3]?.getD setting.stop.nMin⟩

/-- `load_exposure_schedule` returns zero: all seven numbers are read and the first one is not
over the range, which has one value more than there are slots. -/
def accepted (maxNum : Nat) (schedule : List UInt8) : Bool :=
  match scanned schedule with
  | none => false
  | some fields => fields.times.length = 4 ∧ ∀ id ∈ fields.id, 0 ≤ id ∧ id ≤ maxNum

/-! ## The comparison -/

/-- The body of the loop of `check_exposure_schedule_time` returns. -/
def refuses (set base : Span) : Bool :=
  if base.first < base.last then
    set.first ≥ base.first ∧ set.first ≤ base.last ∨ set.last ≥ base.first ∧ set.first ≤ base.last
  else if base.first > base.last ∧ set.first < set.last then
    (set.first ≥ base.first ∨ set.first ≤ base.last) ∨
      (set.last ≥ base.first ∨ set.last ≤ base.last)
  else true

/-- The loop of `check_exposure_schedule_time`: its body does not depend on the round. -/
def checkLoop (set base : Span) : Nat → Int
  | 0 => 0
  | rounds + 1 => if refuses set base then -1 else checkLoop set base rounds

/-- `check_exposure_schedule_time`. -/
def checkExposureScheduleTime (maxNum : Nat) (set base : ExposureTimeEx) : Int :=
  if set.enable = 0 ∨ base.enable = 0 then 0
  else if set.span.first = set.span.last then -1
  else checkLoop set.span base.span (maxNum - 1)

/-- The schedules that the wrong end point lets pass: the one that is set wraps, and it starts
behind the other and comes back to it, or starts before it. -/
def Slips (set base : Span) : Prop :=
  base.first < base.last ∧ set.Wraps ∧
    (base.last < set.first ∧ base.first ≤ set.last ∨ set.first < base.first)

instance (set base : Span) : Decidable (Slips set base) :=
  inferInstanceAs (Decidable (_ ∧ _ ∧ (_ ∧ _ ∨ _)))

section Comparison

variable {maxNum : Nat} {set base : ExposureTimeEx}

/-- The times of an enabled schedule are minutes of the day. -/
theorem ExposureTimeEx.Enabled.within (enabled : set.Enabled) : set.span.Within 1440 := by
  obtain ⟨-, start, stop⟩ := enabled
  unfold ScheduleTime.OfDay at start stop
  unfold Span.Within ExposureTimeEx.span ScheduleTime.minute
  dsimp only
  omega

/-- Every round does the same. -/
theorem checkLoop_eq (set base : Span) (rounds : Nat) :
    checkLoop set base rounds = 0 ↔ rounds = 0 ∨ refuses set base = false := by
  induction rounds with
  | zero => simp [checkLoop]
  | succ rounds ih =>
    unfold checkLoop
    cases refused : refuses set base with
    | true => simp
    | false => simp [ih, refused]

/-- Enabled schedules pass when the one that is set has two different ends and the body of the
loop does not return. -/
theorem checkExposureScheduleTime_eq (slots : 2 ≤ maxNum) (setOn : set.enable ≠ 0)
    (baseOn : base.enable ≠ 0) :
    checkExposureScheduleTime maxNum set base = 0 ↔
      set.span.first ≠ set.span.last ∧ refuses set.span base.span = false := by
  have rounds : maxNum - 1 ≠ 0 := by omega
  unfold checkExposureScheduleTime
  rw [if_neg (by tauto)]
  by_cases empty : set.span.first = set.span.last
  · simp [empty]
  · simp [empty, checkLoop_eq, rounds]

/-- The body of the loop refuses the schedules that overlap, but for a base of one minute, which
it always refuses, and for the wrong end point. -/
theorem refuses_iff {set base : Span} (inSet : set.Within 1440) (inBase : base.Within 1440)
    (ends : set.first ≠ set.last) :
    (refuses set base = false ↔ ¬Span.Overlap 1440 set base) ↔
      (base.first = base.last → set.Covers base.first) ∧ ¬Slips set base := by
  unfold refuses Slips
  by_cases setWraps : set.Wraps <;> by_cases baseWraps : base.Wraps
  · have overlap := Span.overlap_wrapping inSet inBase setWraps baseWraps
    unfold Span.Wraps at setWraps baseWraps ⊢
    rw [if_neg (by omega), if_neg (by omega)]
    simp only [overlap, Bool.true_eq_false, not_true_eq_false, true_iff]
    omega
  · rw [Span.overlap_wrapping_plain inBase setWraps baseWraps]
    unfold Span.Wraps Span.Covers at *
    rw [if_neg (show ¬set.first ≤ set.last by omega)]
    by_cases single : base.first = base.last
    · rw [if_neg (by omega), if_neg (by omega)]
      simp only [Bool.true_eq_false, false_iff, not_not]
      omega
    · rw [if_pos (by omega)]
      simp only [decide_eq_false_iff_not]
      omega
  · rw [Span.overlap_comm, Span.overlap_wrapping_plain inSet baseWraps setWraps]
    unfold Span.Wraps at *
    rw [if_neg (by omega), if_pos (by omega)]
    simp only [decide_eq_false_iff_not]
    omega
  · rw [Span.overlap_plain inSet inBase setWraps baseWraps]
    unfold Span.Wraps Span.Covers at *
    rw [if_pos (show set.first ≤ set.last by omega)]
    by_cases single : base.first = base.last
    · rw [if_neg (by omega), if_neg (by omega)]
      simp only [Bool.true_eq_false, false_iff, not_not]
      omega
    · rw [if_pos (by omega)]
      simp only [decide_eq_false_iff_not]
      omega

end Comparison

/-! ## The handler -/

/-- The slots of the array, with the memory around them. -/
abbrev Settings := Int → ExposureTimeEx

section Handler

-- `EXPOSURE_EX_MAX_NUM` and the size of the field `value`.
variable (maxNum valueLen : Nat)

/-- What `sscanf` has read is stored in the array and in the field `value`. -/
def Fits (schedule : List UInt8) : Prop :=
  ∀ fields, scanned schedule = some fields →
    (fields.enable.isSome = true → 0 ≤ atoi schedule ∧ atoi schedule < maxNum) ∧
    ∀ word ∈ fields.value, word.length < valueLen

instance (schedule : List UInt8) : Decidable (Fits maxNum valueLen schedule) :=
  match read : scanned schedule with
  | none => isTrue (by simp [Fits, read])
  | some fields =>
    decidable_of_iff
      ((fields.enable.isSome = true → 0 ≤ atoi schedule ∧ atoi schedule < maxNum) ∧
        ∀ word ∈ fields.value, word.length < valueLen)
      (by simp [Fits, read])

/-- An argument `schedule`: the slot of its number gets what is read, and the mark when all of it
is. None when a store leaves the array or the field. -/
def scheduleArgument (settings : Settings) (schedule : List UInt8) : Option Settings :=
  if Fits maxNum valueLen schedule then
    match scanned schedule with
    | none => some settings
    | some fields =>
      let loaded := (settings (atoi schedule)).store fields
      some (Function.update settings (atoi schedule)
        (if accepted maxNum schedule then { loaded with valid := 1 } else loaded))
  else none

/-- The values of the arguments `schedule`; the argument `mode` is not used. -/
def schedules (args : List (List UInt8 × List UInt8)) : List (List UInt8) :=
  (args.filter fun arg => arg.1 = ascii "schedule").map Prod.snd

/-- The loop over the arguments. -/
def loadSchedules (settings : Settings) (texts : List (List UInt8)) : Option Settings :=
  texts.foldlM (scheduleArgument maxNum valueLen) settings

/-- The pair of slots is compared: neither of them is the last one. -/
def compared (i j : Nat) : Bool := ¬(i = maxNum - 1 ∨ j = maxNum - 1 ∨ i = j)

/-- The comparison refuses the request. -/
def refused (settings : Settings) : Bool :=
  (List.range maxNum).any fun i => (List.range maxNum).any fun j =>
    compared maxNum i j ∧ (settings i).valid = 1 ∧
      checkExposureScheduleTime maxNum (settings i) (settings j) < 0

/-- The slots that are saved. -/
def saved (settings : Settings) : List Nat :=
  (List.range maxNum).filter fun i => (settings i).valid = 1

/-- What the handler does: whether it answers and saves, and the schedules it saves. -/
structure Outcome where
  /-- The request is not refused. -/
  stored : Bool
  /-- The saved slots with their schedules. -/
  schedules : List (Nat × ExposureTimeEx)

/-- `uri_expoure` where the exposure type and the exposure mode are those of the schedules, from
what is on the stack. -/
def uriExpoure (stack : Settings) (args : List (List UInt8 × List UInt8)) : Option Outcome := do
  let settings ← loadSchedules maxNum valueLen stack (schedules args)
  some (if refused maxNum settings then ⟨false, []⟩
    else ⟨true, (saved maxNum settings).map fun i => (i, settings i)⟩)

end Handler

/-! ## Which schedules pass and are saved -/

/-- The comparison passes exactly the schedules with two different ends and no common minute. -/
def ChecksRight (maxNum : Nat) (set base : ExposureTimeEx) : Prop :=
  checkExposureScheduleTime maxNum set base = 0 ↔
    set.span.first ≠ set.span.last ∧ set.Disjoint base

/-- The enabled schedules that are saved in different slots are disjoint. -/
def PairwiseDisjoint (schedules : List (Nat × ExposureTimeEx)) : Prop :=
  ∀ left ∈ schedules, ∀ right ∈ schedules, left.1 ≠ right.1 →
    left.2.enable ≠ 0 → right.2.enable ≠ 0 → left.2.Disjoint right.2

/-- A slot is marked, and its schedule is enabled. -/
def ExposureTimeEx.Marked (setting : ExposureTimeEx) : Prop :=
  setting.valid = 1 ∧ setting.enable ≠ 0

/-- The last slot of the array is not marked and enabled, or its schedule is disjoint from those of
the other slots that are. -/
def LastApart (maxNum : Nat) (settings : Settings) : Prop :=
  (settings (maxNum - 1 : Nat)).Marked → ∀ i < maxNum - 1, (settings i).Marked →
    (settings (maxNum - 1 : Nat)).Disjoint (settings i)

section Passing

variable {maxNum valueLen : Nat} {set base : ExposureTimeEx} {settings : Settings}

/-- Disjointness does not depend on the order. -/
theorem ExposureTimeEx.Disjoint.symm (apart : set.Disjoint base) : base.Disjoint set :=
  fun overlap => apart overlap.symm

/-- When the comparison is right. -/
theorem checksRight_iff (slots : 2 ≤ maxNum) (setOn : set.Enabled) (baseOn : base.Enabled) :
    ChecksRight maxNum set base ↔
      (base.span.first = base.span.last →
        set.span.first = set.span.last ∨ set.span.Covers base.span.first) ∧
      ¬Slips set.span base.span := by
  unfold ChecksRight ExposureTimeEx.Disjoint
  rw [checkExposureScheduleTime_eq slots setOn.1 baseOn.1]
  by_cases empty : set.span.first = set.span.last
  · have plain : ¬Slips set.span base.span := by
      rintro ⟨-, wraps, -⟩
      unfold Span.Wraps at wraps
      omega
    simp [empty, plain]
  · have body := refuses_iff setOn.within baseOn.within empty
    simpa [empty] using body

/-- A span that slips is taken for disjoint in one order only. -/
theorem refuses_slipped {set base : Span} (slips : Slips set base) :
    refuses set base = false ∧ refuses base set = true := by
  unfold Slips Span.Wraps at slips
  unfold refuses
  constructor
  · rw [if_pos (by omega), decide_eq_false_iff_not]
    omega
  · rw [if_neg (by omega), if_pos (by omega), decide_eq_true_eq]
    omega

/-- The order of two spans with two ends matters only when one of them slips. -/
theorem refuses_comm {set base : Span} (setEnds : set.first ≠ set.last)
    (baseEnds : base.first ≠ base.last) (forth : ¬Slips set base) (back : ¬Slips base set) :
    refuses set base = refuses base set := by
  unfold Slips Span.Wraps at forth back
  unfold refuses
  by_cases setPlain : set.first < set.last <;> by_cases basePlain : base.first < base.last
  · rw [if_pos basePlain, if_pos setPlain, decide_eq_decide]
    omega
  · rw [if_neg basePlain, if_pos (by omega), if_pos setPlain, decide_eq_decide]
    omega
  · rw [if_pos basePlain, if_neg setPlain, if_pos (by omega), decide_eq_decide]
    omega
  · rw [if_neg basePlain, if_neg (by omega), if_neg setPlain, if_neg (by omega)]

/-- When the comparison is symmetric. -/
theorem checkExposureScheduleTime_comm (slots : 2 ≤ maxNum) (setOn : set.Enabled)
    (baseOn : base.Enabled) :
    (checkExposureScheduleTime maxNum set base = 0 ↔
      checkExposureScheduleTime maxNum base set = 0) ↔
      ¬Slips set.span base.span ∧ ¬Slips base.span set.span := by
  rw [checkExposureScheduleTime_eq slots setOn.1 baseOn.1,
    checkExposureScheduleTime_eq slots baseOn.1 setOn.1]
  constructor
  · intro symmetric
    constructor
    · intro slips
      have ends : set.span.first ≠ set.span.last := Int.ne_of_gt slips.2.1
      obtain ⟨passes, refused⟩ := refuses_slipped slips
      have both := (symmetric.mp ⟨ends, passes⟩).2
      exact absurd (both.symm.trans refused) (by decide)
    · intro slips
      have ends : base.span.first ≠ base.span.last := Int.ne_of_gt slips.2.1
      obtain ⟨passes, refused⟩ := refuses_slipped slips
      have both := (symmetric.mpr ⟨ends, passes⟩).2
      exact absurd (both.symm.trans refused) (by decide)
  · rintro ⟨forth, back⟩
    have single {left right : Span} (same : right.first = right.last) :
        refuses left right = true := by
      unfold refuses
      rw [if_neg (by omega), if_neg (by omega)]
    by_cases setEnds : set.span.first = set.span.last
    · simp [setEnds, single setEnds]
    by_cases baseEnds : base.span.first = base.span.last
    · simp [baseEnds, single baseEnds]
    rw [refuses_comm setEnds baseEnds forth back]
    simp [setEnds, baseEnds]

/-- Spans that pass in both orders have no common place. -/
theorem apart_of_passed {left right : Span} (ends : right.first ≠ right.last)
    (forth : refuses left right = false) (back : refuses right left = false) :
    ¬Span.Overlap 1440 left right := by
  rintro ⟨place, -, -, inLeft, inRight⟩
  unfold refuses at forth back
  by_cases leftWraps : left.Wraps <;> by_cases rightWraps : right.Wraps
  · unfold Span.Wraps at leftWraps rightWraps
    rw [if_neg (by omega), if_neg (by omega)] at forth
    exact absurd forth (by decide)
  · rw [Span.covers_wrapping leftWraps] at inLeft
    rw [Span.covers_plain rightWraps] at inRight
    unfold Span.Wraps at leftWraps rightWraps
    rw [if_neg (by omega), if_pos (by omega), decide_eq_false_iff_not] at back
    omega
  · rw [Span.covers_plain leftWraps] at inLeft
    rw [Span.covers_wrapping rightWraps] at inRight
    unfold Span.Wraps at leftWraps rightWraps
    by_cases leftEnds : left.first = left.last
    · rw [if_neg (by omega), if_neg (by omega)] at back
      exact absurd back (by decide)
    rw [if_neg (by omega), if_pos (by omega), decide_eq_false_iff_not] at forth
    omega
  · rw [Span.covers_plain leftWraps] at inLeft
    rw [Span.covers_plain rightWraps] at inRight
    unfold Span.Wraps at leftWraps rightWraps
    rw [if_pos (by omega), decide_eq_false_iff_not] at forth
    omega

/-- The comparison gives zero or minus one. -/
theorem checkExposureScheduleTime_neg (maxNum : Nat) (set base : ExposureTimeEx) :
    ¬checkExposureScheduleTime maxNum set base < 0 ↔
      checkExposureScheduleTime maxNum set base = 0 := by
  have loop : ∀ rounds, ¬checkLoop set.span base.span rounds < 0 ↔
      checkLoop set.span base.span rounds = 0 := by
    intro rounds
    induction rounds with
    | zero => simp [checkLoop]
    | succ rounds ih =>
      unfold checkLoop
      split
      · decide
      · exact ih
  unfold checkExposureScheduleTime
  split
  · decide
  split
  · decide
  · exact loop _

/-- A pair that is compared passes when the request is not refused. -/
theorem passed_of_compared (passed : refused maxNum settings = false) {i j : Nat}
    (iBelow : i < maxNum) (jBelow : j < maxNum) (pair : compared maxNum i j = true)
    (valid : (settings i).valid = 1) :
    checkExposureScheduleTime maxNum (settings i) (settings j) = 0 := by
  have all := List.any_eq_false.mp passed i (List.mem_range.mpr iBelow)
  rw [Bool.not_eq_true] at all
  have one := List.any_eq_false.mp all j (List.mem_range.mpr jBelow)
  rw [← checkExposureScheduleTime_neg]
  intro refuse
  apply one
  simp [pair, valid, refuse]

/-- A schedule that is saved is that of a marked slot. -/
theorem mem_saved {i : Nat} : i ∈ saved maxNum settings ↔ i < maxNum ∧ (settings i).valid = 1 := by
  rw [saved, List.mem_filter, List.mem_range, decide_eq_true_eq]

/-- Enabled schedules that are saved in slots before the last one are disjoint. -/
theorem saved_disjoint (slots : 2 ≤ maxNum) (passed : refused maxNum settings = false) {i j : Nat}
    (iSaved : i ∈ saved maxNum settings) (jSaved : j ∈ saved maxNum settings)
    (pair : compared maxNum i j = true) (iOn : (settings i).enable ≠ 0)
    (jOn : (settings j).enable ≠ 0) : (settings i).Disjoint (settings j) := by
  obtain ⟨iBelow, iValid⟩ := mem_saved.mp iSaved
  obtain ⟨jBelow, jValid⟩ := mem_saved.mp jSaved
  have turned : compared maxNum j i = true := by
    unfold compared at pair ⊢
    rw [decide_eq_true_eq] at pair ⊢
    tauto
  have forth := passed_of_compared passed iBelow jBelow pair iValid
  have back := passed_of_compared passed jBelow iBelow turned jValid
  rw [checkExposureScheduleTime_eq slots iOn jOn] at forth
  rw [checkExposureScheduleTime_eq slots jOn iOn] at back
  exact apart_of_passed back.1 forth.2 back.2

/-- What is saved of an array that passes is disjoint when its last slot is apart. -/
theorem pairwiseDisjoint_iff (slots : 2 ≤ maxNum) (passed : refused maxNum settings = false) :
    PairwiseDisjoint ((saved maxNum settings).map fun i : Nat => (i, settings i)) ↔
      LastApart maxNum settings := by
  constructor
  · intro disjoint lastMarked i below marked
    have mem : ∀ i : Nat, i < maxNum → (settings i).valid = 1 →
        ((i, settings i) : Nat × ExposureTimeEx) ∈
          (saved maxNum settings).map fun i : Nat => (i, settings i) :=
      fun i below valid => List.mem_map.mpr ⟨i, mem_saved.mpr ⟨below, valid⟩, rfl⟩
    have last := mem (maxNum - 1) (by omega) lastMarked.1
    have other := mem i (by omega) marked.1
    exact disjoint _ last _ other (by show maxNum - 1 ≠ i; omega) lastMarked.2 marked.2
  intro apart left leftSaved right rightSaved different leftOn rightOn
  obtain ⟨i, iSaved, rfl⟩ := List.mem_map.mp leftSaved
  obtain ⟨j, jSaved, rfl⟩ := List.mem_map.mp rightSaved
  have different : i ≠ j := different
  have iMarked := mem_saved.mp iSaved
  have jMarked := mem_saved.mp jSaved
  by_cases leftLast : i = maxNum - 1
  · subst leftLast
    exact apart ⟨iMarked.2, leftOn⟩ j (by omega) ⟨jMarked.2, rightOn⟩
  by_cases rightLast : j = maxNum - 1
  · subst rightLast
    have turned := apart ⟨jMarked.2, rightOn⟩ i (by omega) ⟨iMarked.2, leftOn⟩
    exact turned.symm
  have pair : compared maxNum i j = true := by
    unfold compared
    rw [decide_eq_true_eq]
    rintro (last | last | same)
    · exact leftLast last
    · exact rightLast last
    · exact different same
  exact saved_disjoint slots passed iSaved jSaved pair leftOn rightOn

/-- What a request saves is disjoint when it is refused or the last slot of what it has loaded is
apart. -/
theorem uriExpoure_disjoint_iff (slots : 2 ≤ maxNum) {stack : Settings}
    {args : List (List UInt8 × List UInt8)}
    (loaded : loadSchedules maxNum valueLen stack (schedules args) = some settings) :
    ∃ outcome, uriExpoure maxNum valueLen stack args = some outcome ∧
      (PairwiseDisjoint outcome.schedules ↔
        refused maxNum settings = true ∨ LastApart maxNum settings) := by
  unfold uriExpoure
  rw [loaded]
  refine ⟨_, rfl, ?_⟩
  cases refuse : refused maxNum settings with
  | true =>
    have nothing : PairwiseDisjoint [] := fun left absent => absurd absent List.not_mem_nil
    exact iff_of_true nothing (.inl rfl)
  | false =>
    have exact_iff := pairwiseDisjoint_iff slots refuse
    exact exact_iff.trans (by simp)

/-- The comparison is right for enabled schedules exactly when the one it is compared with has
two ends, or its minute belongs to the other, and the end points are not confused; it is symmetric
exactly when they are not confused in either order. The enabled schedules that a request saves, from
the array that its arguments have loaded, are pairwise disjoint exactly when it is refused or the
one of the last slot is disjoint from the others. -/
theorem exposure_schedules_checked (slots : 2 ≤ maxNum) :
    (∀ set base : ExposureTimeEx, set.Enabled → base.Enabled →
      (ChecksRight maxNum set base ↔
        (base.span.first = base.span.last →
          set.span.first = set.span.last ∨ set.span.Covers base.span.first) ∧
        ¬Slips set.span base.span) ∧
      ((checkExposureScheduleTime maxNum set base = 0 ↔
        checkExposureScheduleTime maxNum base set = 0) ↔
        ¬Slips set.span base.span ∧ ¬Slips base.span set.span)) ∧
    ∀ valueLen stack args settings,
      loadSchedules maxNum valueLen stack (schedules args) = some settings →
        ∃ outcome, uriExpoure maxNum valueLen stack args = some outcome ∧
          (PairwiseDisjoint outcome.schedules ↔
            refused maxNum settings = true ∨ LastApart maxNum settings) :=
  ⟨fun _ _ setOn baseOn => ⟨checksRight_iff slots setOn baseOn,
    checkExposureScheduleTime_comm slots setOn baseOn⟩,
   fun _ _ _ _ loaded => uriExpoure_disjoint_iff slots loaded⟩

/-- Nothing is marked on the stack. -/
def clearStack : Settings := fun _ => ⟨0, 0, [], ⟨0, 0⟩, ⟨0, 0⟩⟩

/-- A morning for the first slot, and an afternoon for the last one. -/
def dayArguments : List (List UInt8 × List UInt8) :=
  [(ascii "schedule", ascii "0:1:Auto:0800:1159"), (ascii "schedule", ascii "3:1:Auto:1200:1830")]

/-- What they load. -/
def daySettings : Settings :=
  Function.update (Function.update clearStack 0 ⟨1, 1, ascii "Auto", ⟨8, 0⟩, ⟨11, 59⟩⟩) 3
    ⟨1, 1, ascii "Auto", ⟨12, 0⟩, ⟨18, 30⟩⟩

/-- Two schedules of the day, one after the other, pass, and are saved by the request that has
them. -/
theorem exposure_schedules_checked_day :
    ChecksRight 4 ⟨1, 1, [], ⟨8, 0⟩, ⟨11, 59⟩⟩ ⟨1, 1, [], ⟨12, 0⟩, ⟨18, 30⟩⟩ ∧
    ∃ outcome, uriExpoure 4 32 clearStack dayArguments = some outcome ∧
      PairwiseDisjoint outcome.schedules := by
  have checked := exposure_schedules_checked (show 2 ≤ 4 by decide)
  have loaded : loadSchedules 4 32 clearStack (schedules dayArguments) = some daySettings := rfl
  have apart : LastApart 4 daySettings := by
    rintro - i below marked ⟨place, -, -, inLast, inFirst⟩
    have slot : i = 0 ∨ i = 1 ∨ i = 2 := by omega
    rcases slot with rfl | rfl | rfl
    · have late : 720 ≤ place ∧ place ≤ 1110 := inLast
      have early : 480 ≤ place ∧ place ≤ 719 := inFirst
      omega
    · exact absurd marked.1 (by decide)
    · exact absurd marked.1 (by decide)
  obtain ⟨outcome, ran, disjoint⟩ := checked.2 32 clearStack dayArguments daySettings loaded
  exact ⟨(checked.1 _ _ (by decide) (by decide)).1.mpr (by decide), outcome, ran,
    disjoint.mpr (.inr apart)⟩

/-- The night from 22:00 to 06:00 passes beside the morning from 05:00 to 10:00. -/
theorem exposure_night_over_morning :
    (⟨1, 1, [], ⟨22, 0⟩, ⟨6, 0⟩⟩ : ExposureTimeEx).Enabled ∧
    (⟨1, 1, [], ⟨5, 0⟩, ⟨10, 0⟩⟩ : ExposureTimeEx).Enabled ∧
    ¬ChecksRight 4 ⟨1, 1, [], ⟨22, 0⟩, ⟨6, 0⟩⟩ ⟨1, 1, [], ⟨5, 0⟩, ⟨10, 0⟩⟩ := by
  refine ⟨by decide, by decide, fun right => ?_⟩
  have apart := (right.mp (by decide)).2
  exact apart ⟨330, by decide, by decide, by decide, by decide⟩

end Passing

end BoaIpcam.Exposure
