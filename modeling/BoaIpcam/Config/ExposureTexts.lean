import BoaIpcam.Config.Exposure

/-!
# What the texts of the exposure schedules do

The number of the slot is read by `atoi` before the text is looked at and by `sscanf` again, and
only the second one is compared with the range, when the fields are already stored. The word of
the mode and the four numbers of the times are stored as they are read, and the marks of the array
are those that are on the stack.
-/
namespace BoaIpcam.Exposure

variable {maxNum valueLen : Nat}

/-! ## What is asked of a request -/

/-- The numbers of the times are hours and minutes in turn. -/
def TimesFit (times : List Int) : Prop :=
  ∀ (k : Nat) (value : Int), times[k]? = some value →
    0 ≤ value ∧ value < if k % 2 = 0 then 24 else 60

/-- The times that are read of a text are hours and minutes. -/
def Timed (schedule : List UInt8) : Prop :=
  ∀ fields, scanned schedule = some fields → TimesFit fields.times

/-- A text that is accepted names the slot. -/
def Given (maxNum : Nat) (texts : List (List UInt8)) (slot : Int) : Prop :=
  ∃ text ∈ texts, accepted maxNum text = true ∧ atoi text = slot

/-- Every store is within the array and the field, the times that are stored and saved are hours
and minutes, and the slots that are saved are given. -/
structure KeepsBounds (maxNum valueLen : Nat) (stack : Settings)
    (args : List (List UInt8 × List UInt8)) : Prop where
  /-- There is a result, and what it saves is given in the request. -/
  inside : ∃ outcome, uriExpoure maxNum valueLen stack args = some outcome ∧
    ∀ schedule ∈ outcome.schedules, Given maxNum (schedules args) schedule.1 ∧
      schedule.2.start.OfDay ∧ schedule.2.stop.OfDay
  /-- The times of each text are hours and minutes. -/
  times : ∀ text ∈ schedules args, Timed text

/-! ## What an argument does -/

/-- Nothing is given without texts. -/
theorem not_given_nil (slot : Int) : ¬Given maxNum [] slot := by
  rintro ⟨text, member, -⟩
  cases member

/-- A slot is given by the first text or by the others. -/
theorem given_cons {text : List UInt8} {texts : List (List UInt8)} {slot : Int} :
    Given maxNum (text :: texts) slot ↔
      accepted maxNum text = true ∧ atoi text = slot ∨ Given maxNum texts slot := by
  unfold Given
  rw [List.exists_mem_cons_iff]

/-- Nothing is accepted of a text that is not read. -/
theorem accepted_of_none {text : List UInt8} (unread : scanned text = none) :
    accepted maxNum text = false := by
  rw [accepted, unread]

/-- All four times of an accepted text are read. -/
theorem times_of_accepted {text : List UInt8} {fields : Scanned}
    (read : scanned text = some fields) (yes : accepted maxNum text = true) :
    fields.times.length = 4 := by
  rw [accepted, read] at yes
  exact (decide_eq_true_eq.mp yes).1

/-- What a text that fits does to the settings: only the slot of its number changes, which is
marked if the text is accepted, and the times that are read are stored. -/
structure Loads (maxNum : Nat) (text : List UInt8) (settings next : Settings) : Prop where
  /-- Other slots stay. -/
  others : ∀ slot, atoi text ≠ slot → next slot = settings slot
  /-- The slot is marked when the text is accepted. -/
  valid : (next (atoi text)).valid = 1 ↔
    (settings (atoi text)).valid = 1 ∨ accepted maxNum text = true
  /-- The times stay, or are those of the text. -/
  times : (next (atoi text)).start = (settings (atoi text)).start ∧
      (next (atoi text)).stop = (settings (atoi text)).stop ∧ accepted maxNum text = false ∨
    ∃ fields, scanned text = some fields ∧
      (next (atoi text)).start = ((settings (atoi text)).store fields).start ∧
      (next (atoi text)).stop = ((settings (atoi text)).store fields).stop

/-- A text that fits is loaded. -/
theorem scheduleArgument_loads (settings : Settings) {text : List UInt8}
    (fits : Fits maxNum valueLen text) :
    ∃ next, scheduleArgument maxNum valueLen settings text = some next ∧
      Loads maxNum text settings next := by
  unfold scheduleArgument
  rw [if_pos fits]
  cases read : scanned text with
  | none =>
    have no : accepted maxNum text = false := accepted_of_none read
    exact ⟨settings, rfl, fun _ _ => rfl, by simp [no], .inl ⟨rfl, rfl, no⟩⟩
  | some fields =>
    refine ⟨_, rfl, fun slot other => Function.update_of_ne (Ne.symm other) _ _, ?_, ?_⟩
    · rw [Function.update_self]
      cases accepted maxNum text <;> simp [ExposureTimeEx.store]
    · rw [Function.update_self]
      refine .inr ⟨fields, read, ?_⟩
      cases accepted maxNum text <;> simp

/-- A text that does not fit ends the run. -/
theorem scheduleArgument_none {settings : Settings} {text : List UInt8}
    (long : ¬Fits maxNum valueLen text) : scheduleArgument maxNum valueLen settings text = none := by
  rw [scheduleArgument, if_neg long]

/-- Times that are hours and minutes stay so when others are stored, and four of them are
enough. -/
theorem ExposureTimeEx.store_ofDay {setting : ExposureTimeEx} {fields : Scanned}
    (fit : TimesFit fields.times)
    (before : fields.times.length = 4 ∨ setting.start.OfDay ∧ setting.stop.OfDay) :
    (setting.store fields).start.OfDay ∧ (setting.store fields).stop.OfDay := by
  have stored (k : Nat) (old : Int) (below : k < 4)
      (kept : fields.times.length = 4 ∨ 0 ≤ old ∧ old < if k % 2 = 0 then 24 else 60) :
      0 ≤ fields.times[k]?.getD old ∧
        fields.times[k]?.getD old < if k % 2 = 0 then 24 else 60 := by
    cases read : fields.times[k]? with
    | some value => exact fit k value read
    | none =>
      have short := List.getElem?_eq_none_iff.mp read
      exact kept.resolve_left (by omega)
  unfold ScheduleTime.OfDay at before ⊢
  have startHour := stored 0 setting.start.nHour (by decide) (by simp; tauto)
  have startMin := stored 1 setting.start.nMin (by decide) (by simp; tauto)
  have stopHour := stored 2 setting.stop.nHour (by decide) (by simp; tauto)
  have stopMin := stored 3 setting.stop.nMin (by decide) (by simp; tauto)
  exact ⟨⟨startHour.1, startHour.2, startMin.1, startMin.2⟩,
    ⟨stopHour.1, stopHour.2, stopMin.1, stopMin.2⟩⟩

/-! ## What the arguments do -/

/-- The arguments run to their end exactly when all of them fit. -/
theorem loadSchedules_isSome {stack : Settings} {texts : List (List UInt8)} :
    (loadSchedules maxNum valueLen stack texts).isSome = true ↔
      ∀ text ∈ texts, Fits maxNum valueLen text := by
  induction texts generalizing stack with
  | nil => simp [loadSchedules]
  | cons text texts ih =>
    rw [loadSchedules, List.foldlM_cons, List.forall_mem_cons]
    by_cases fits : Fits maxNum valueLen text
    · obtain ⟨next, ran, -⟩ := scheduleArgument_loads stack fits
      simp only [ran, fits, true_and]
      exact ih
    · simp [scheduleArgument_none fits, fits]

/-- The arguments that run to their end load the first text before the others. -/
theorem loadSchedules_cons {stack settings : Settings} {text : List UInt8}
    {texts : List (List UInt8)}
    (loaded : loadSchedules maxNum valueLen stack (text :: texts) = some settings) :
    ∃ next, Loads maxNum text stack next ∧
      loadSchedules maxNum valueLen next texts = some settings := by
  rw [loadSchedules, List.foldlM_cons] at loaded
  obtain ⟨next, ran, rest⟩ := Option.bind_eq_some_iff.mp loaded
  have fits : Fits maxNum valueLen text := by
    by_contra long
    rw [scheduleArgument_none long] at ran
    cases ran
  obtain ⟨same, equal, loads⟩ := scheduleArgument_loads stack fits
  cases ran.symm.trans equal
  exact ⟨next, loads, rest⟩

/-- A slot is marked valid when it was on the stack or is given. -/
theorem loadSchedules_valid {stack settings : Settings} {texts : List (List UInt8)}
    (loaded : loadSchedules maxNum valueLen stack texts = some settings) (slot : Int) :
    (settings slot).valid = 1 ↔ (stack slot).valid = 1 ∨ Given maxNum texts slot := by
  induction texts generalizing stack with
  | nil =>
    cases loaded
    simp [not_given_nil]
  | cons text texts ih =>
    obtain ⟨next, loads, rest⟩ := loadSchedules_cons loaded
    rw [ih rest, given_cons]
    by_cases here : atoi text = slot
    · rw [← here, loads.valid]
      tauto
    · rw [loads.others slot here]
      tauto

/-- The times of a slot that had times of the day, or is given, are times of the day. -/
theorem loadSchedules_ofDay {stack settings : Settings} {texts : List (List UInt8)}
    (loaded : loadSchedules maxNum valueLen stack texts = some settings)
    (timed : ∀ text ∈ texts, Timed text) {slot : Int}
    (before : (stack slot).start.OfDay ∧ (stack slot).stop.OfDay ∨ Given maxNum texts slot) :
    (settings slot).start.OfDay ∧ (settings slot).stop.OfDay := by
  induction texts generalizing stack with
  | nil =>
    cases loaded
    exact before.resolve_right (not_given_nil slot)
  | cons text texts ih =>
    obtain ⟨next, loads, rest⟩ := loadSchedules_cons loaded
    have times := loads.times
    obtain ⟨textTimed, restTimed⟩ := List.forall_mem_cons.mp timed
    apply ih rest restTimed
    by_cases later : Given maxNum texts slot
    · exact .inr later
    apply Or.inl
    rw [given_cons] at before
    by_cases here : atoi text = slot
    · rw [here] at times before
      rcases times with ⟨start, stop, no⟩ | ⟨fields, read, start, stop⟩
      · rw [start, stop]
        simpa [no, later] using before
      · rw [start, stop]
        apply ExposureTimeEx.store_ofDay (textTimed fields read)
        rcases before with old | ⟨yes, -⟩ | given
        · exact .inr old
        · exact .inl (times_of_accepted read yes)
        · exact absurd given later
    · rw [loads.others slot here]
      simpa [here, later] using before

/-! ## When a request keeps the bounds -/

/-- A request keeps the bounds exactly when every text fits the array and the field and has hours
and minutes for its times, and, unless the comparison refuses the request, every slot whose mark
on the stack is one is given. -/
theorem exposure_texts_bounded (maxNum valueLen : Nat) (stack : Settings)
    (args : List (List UInt8 × List UInt8)) :
    KeepsBounds maxNum valueLen stack args ↔
      (∀ text ∈ schedules args, Fits maxNum valueLen text ∧ Timed text) ∧
      ∀ settings, loadSchedules maxNum valueLen stack (schedules args) = some settings →
        refused maxNum settings = true ∨
        ∀ slot < maxNum, (stack slot).valid = 1 → Given maxNum (schedules args) slot := by
  constructor
  · rintro ⟨⟨outcome, ran, kept⟩, times⟩
    obtain ⟨settings, loaded, result⟩ := Option.bind_eq_some_iff.mp ran
    have fits := loadSchedules_isSome.mp (Option.isSome_of_eq_some loaded)
    refine ⟨fun text member => ⟨fits text member, times text member⟩, fun same again => ?_⟩
    cases loaded.symm.trans again
    cases refuse : refused maxNum settings with
    | true => exact .inl rfl
    | false =>
      rw [refuse] at result
      cases result
      refine .inr fun slot below valid => ?_
      have marked := (loadSchedules_valid loaded slot).mpr (.inl valid)
      have among : slot ∈ saved maxNum settings :=
        List.mem_filter.mpr ⟨List.mem_range.mpr below, decide_eq_true marked⟩
      exact (kept _ (List.mem_map_of_mem among)).1
  · rintro ⟨texts, marks⟩
    have fits : (loadSchedules maxNum valueLen stack (schedules args)).isSome = true :=
      loadSchedules_isSome.mpr fun text member => (texts text member).1
    obtain ⟨settings, loaded⟩ := Option.isSome_iff_exists.mp fits
    refine ⟨⟨_, by rw [uriExpoure, loaded]; rfl, ?_⟩, fun text member => (texts text member).2⟩
    intro schedule member
    cases refuse : refused maxNum settings with
    | true =>
      rw [refuse] at member
      exact absurd member List.not_mem_nil
    | false =>
      rw [refuse] at member
      obtain ⟨slot, among, rfl⟩ := List.mem_map.mp member
      obtain ⟨below, marked⟩ := List.mem_filter.mp among
      have stackGiven := (marks settings loaded).resolve_left (by rw [refuse]; decide)
      have given : Given maxNum (schedules args) slot := by
        rcases (loadSchedules_valid loaded slot).mp (decide_eq_true_eq.mp marked) with old | new
        · exact stackGiven slot (List.mem_range.mp below) old
        · exact new
      have ofDay := loadSchedules_ofDay loaded (fun text member => (texts text member).2)
        (.inr given)
      exact ⟨given, ofDay⟩

/-- The number of slots is taken for the number of a slot. -/
theorem exposure_text_behind_array :
    ¬KeepsBounds 4 32 (fun _ => ⟨0, 0, [], ⟨0, 0⟩, ⟨0, 0⟩⟩)
      [(ascii "schedule", ascii "4:1:auto:0000:0100")] := by
  rintro ⟨⟨outcome, ran, -⟩, -⟩
  have behind : ¬Fits 4 32 (ascii "4:1:auto:0000:0100") := by decide
  have named : schedules [(ascii "schedule", ascii "4:1:auto:0000:0100")] =
      [ascii "4:1:auto:0000:0100"] := by decide
  unfold uriExpoure at ran
  obtain ⟨settings, loaded, -⟩ := Option.bind_eq_some_iff.mp ran
  have fits := loadSchedules_isSome.mp (Option.isSome_of_eq_some loaded)
  rw [named] at fits
  exact behind (fits _ List.mem_cons_self)

end BoaIpcam.Exposure
