import BoaIpcam.Config.SensorPage

/-!
# The order of the arguments of the sensor

The arguments of the page should do the same in every order. Those with an entry of their own do. The
white balance and the gain do when their table says the same of every position, and the exposure, the
backlight compensation that depends on it and the gain that competes with it do when the exposures
that are asked for agree.
-/
namespace BoaIpcam.SensorPage

open EarlyExit

/-- The entry of the exposure. -/
def exposureEntry (b : Build) : TextEntry :=
  if b.exposureType = .exposuremodeSelect then .exposureMode else .aExposureTime

/-- What `ControlSystemData` stores. -/
def stored (b : Build) : Command → Sensor → Sensor
  | .brightness value, sensor => sensor.putNumber .nbrightness value
  | .contrast value, sensor => sensor.putNumber .ncontrast value
  | .saturation value, sensor => sensor.putNumber .nsaturation value
  | .sharpness value, sensor => sensor.putNumber .nsharpness value
  | .flickless value, sensor => sensor.putNumber .flickless value
  | .whiteBalance value, sensor => sensor.putText .nwhitebalance value
  | .exposureTime value, sensor =>
    sensor.putText (exposureEntry b) value
  | .blcmode value, sensor => sensor.putNumber .nbacklightcontrol value
  | .mirror value, sensor => sensor.putNumber .nmirror value
  | .flip value, sensor => sensor.putNumber .nflip value
  | .aegain value, sensor => sensor.putText .nmaxagcgain value

/-! ## What is asked -/

section Asked

variable (b : Build) (args : List Argument) (sensor : Sensor)

/-- An exposure time that `autoexposure` sets. -/
def Auto (time : List UInt8) : Prop :=
  b.exposureType = .exposuretimeSelect ∧
    ∃ text, (Setting.autoexposure.name, text) ∈ args ∧ autoTime text = some time

/-- An exposure time that `maxexposuretime` sets. -/
def Longest (time : List UInt8) : Prop :=
  b.exposureType ≠ .exposuremodeSelect ∧
    ∃ text, (Setting.maxexposuretime.name, text) ∈ args ∧ maxTime b text [] = some time

/-- A gain that is asked for. -/
def Gains (gain : List UInt8) : Prop :=
  b.exposureType = .exposuretimeSelect ∧ b.sensor = .imx035 ∧
    (Setting.autogainctrl.name, gain) ∈ args

/-- A white balance is stored already, or the table has it at every position or at none. -/
def WhiteAgrees : Prop :=
  ∀ value, (Setting.whitebalance.name, value) ∈ args → sensor.text .nwhitebalance = value ∨
    (∀ i < args.length, b.awb i ≠ value) ∨ ∀ i < args.length, b.awb i = value

/-- The exposure times that are set agree. -/
def ExposuresAgree : Prop :=
  b.sensor ≠ .other → ∀ time longest, Auto b args time → Longest b args longest → time = longest

/-- A backlight compensation that differs finds the exposure automatic in every order or in none. -/
def BacklightAgrees : Prop :=
  b.supportBlcmode = true → ∀ text, (Setting.backlightcomp.name, text) ∈ args →
    sensor.number .nbacklightcontrol = backlightValue text ∨
    ∀ time, Auto b args time ∨ Longest b args time →
      (time = b.exposuretimeAuto ↔ sensor.text .aExposureTime = b.exposuretimeAuto)

/-- A gain is stored already, or the table has it at no position, or it has it at every one and no
exposure is changed. -/
def GainAgrees : Prop :=
  ∀ value, Gains b args value → sensor.text .nmaxagcgain = value ∨
    (∀ i < args.length, b.agc i ≠ value) ∨
    (∀ i < args.length, b.agc i = value) ∧ (∀ time, ¬Auto b args time) ∧
      ∀ time, Longest b args time → time = sensor.text .aExposureTime

/-- When the arguments do the same in every order. -/
structure Meets : Prop where
  /-- The white balance. -/
  white : WhiteAgrees b args sensor
  /-- The two exposure times. -/
  exposures : ExposuresAgree b args
  /-- The backlight compensation. -/
  backlight : BacklightAgrees b args sensor
  /-- The gain. -/
  gain : GainAgrees b args sensor

end Asked

/-! ## What a step does -/

section Step

variable {b : Build} {i : Nat} {s : Serving} {arg : Argument} {text : List UInt8}

/-- A name that is known is that of its argument. -/
theorem name_of_settingOf {name : List UInt8} {setting : Setting}
    (known : settingOf name = some setting) : name = setting.name := by
  unfold settingOf at known
  have found := List.find?_some known
  exact (of_decide_eq_true found).symm

/-- The name of an argument is known. -/
theorem settingOf_name (setting : Setting) : settingOf setting.name = some setting := by
  cases setting <;> decide

/-- Different arguments have different names. -/
theorem name_injective {setting other : Setting} (same : setting.name = other.name) :
    setting = other := by
  have known := settingOf_name setting
  rw [same, settingOf_name] at known
  exact (Option.some.inj known).symm

/-- No step ends the loop. -/
theorem step_goes (control : Control) (b : Build) (i : Nat) (s : Serving) (arg : Argument) :
    (step control b i s arg).2 = true := by
  unfold step
  split <;> rfl

/-- The step for an argument that is known. -/
theorem step_known {setting : Setting} (control : Control) (here : arg.1 = setting.name) :
    (step control b i s arg).1 = set control b i arg.2 s setting := by
  rw [step, here, settingOf_name]

/-- The step for an argument that is not known. -/
theorem step_unknown (control : Control) (none : settingOf arg.1 = none) :
    (step control b i s arg).1 = s := by
  rw [step, none]

/-- The numbers that an argument may change. -/
def Setting.numbers : Setting → List NumberEntry
  | .brightness => [.nbrightness]
  | .contrast => [.ncontrast]
  | .saturation => [.nsaturation]
  | .sharpness => [.nsharpness, .aperture]
  | .flicker => [.flickless]
  | .autoexposure | .maxexposuretime | .autogainctrl => [.agcctrl]
  | .backlightcomp => [.nbacklightcontrol]
  | .mirror => [.nmirror]
  | .flip => [.nflip]
  | .whitebalance => []

/-- The texts that an argument may change. -/
def Setting.texts : Setting → List TextEntry
  | .whitebalance => [.nwhitebalance]
  | .autoexposure => [.aExposureTime]
  | .maxexposuretime => [.exposureMode, .aExposureTime]
  | .autogainctrl => [.nmaxagcgain]
  | _ => []

/-- Another number is left. -/
theorem putNumber_other (sensor : Sensor) {entry other : NumberEntry} (ne : other ≠ entry)
    (value : Nat) : (sensor.putNumber entry value).number other = sensor.number other :=
  Function.update_of_ne ne _ _

/-- The number that is stored. -/
theorem putNumber_self (sensor : Sensor) (entry : NumberEntry) (value : Nat) :
    (sensor.putNumber entry value).number entry = value := Function.update_self _ _ _

/-- The text that is stored. -/
theorem putText_self (sensor : Sensor) (entry : TextEntry) (value : List UInt8) :
    (sensor.putText entry value).text entry = value := Function.update_self _ _ _

/-- Another text is left. -/
theorem putText_other (sensor : Sensor) {entry other : TextEntry} (ne : other ≠ entry)
    (value : List UInt8) : (sensor.putText entry value).text other = sensor.text other :=
  Function.update_of_ne ne _ _

/-- The automatic exposure with what is stored. -/
theorem setAutoexposure_stored (s : Serving) : setAutoexposure (stored b) b text s =
    if b.exposureType = .exposuretimeSelect then
      (autoTime text).elim s fun time =>
        ⟨(s.sensor.putNumber .agcctrl 1).putText .aExposureTime time, time⟩
    else s := by
  unfold setAutoexposure
  split
  · rename_i here
    have entry : exposureEntry b = .aExposureTime := by
      rw [exposureEntry, here]
      rfl
    simp only [stored, entry]
    cases autoTime text <;> rfl
  · rfl

/-- The longest exposure with what is stored. -/
theorem setMaxexposuretime_stored (s : Serving) : setMaxexposuretime (stored b) b text s =
    if b.exposureType = .exposuremodeSelect then
      (maxMode b text).elim s fun mode => ⟨s.sensor.putText .exposureMode mode, mode⟩
    else
      (maxTime b text s.buf).elim s fun time =>
        if s.sensor.text .aExposureTime ≠ time then
          ⟨(s.sensor.putNumber .agcctrl 1).putText .aExposureTime time, time⟩
        else { s with buf := time } := by
  unfold setMaxexposuretime
  split
  · rename_i here
    have entry : exposureEntry b = .exposureMode := if_pos here
    simp only [stored, entry]
    cases maxMode b text <;> rfl
  · rename_i apart
    have entry : exposureEntry b = .aExposureTime := if_neg apart
    simp only [stored, entry]
    cases maxTime b text s.buf <;> rfl

/-- Another number than those of the argument is left. -/
theorem set_number_other {setting : Setting} {entry : NumberEntry} (apart : entry ∉ setting.numbers) :
    (set (stored b) b i text s setting).sensor.number entry = s.sensor.number entry := by
  cases setting with
  | autoexposure =>
    have ne : entry ≠ .agcctrl := fun same => apart (List.mem_singleton.mpr same)
    rw [set, setAutoexposure_stored]
    split
    · cases autoTime text with
      | none => rfl
      | some time => exact putNumber_other _ ne _
    · rfl
  | maxexposuretime =>
    have ne : entry ≠ .agcctrl := fun same => apart (List.mem_singleton.mpr same)
    rw [set, setMaxexposuretime_stored]
    split
    · cases maxMode b text <;> rfl
    · cases maxTime b text s.buf with
      | none => rfl
      | some time =>
        dsimp only [Option.elim_some]
        split
        · exact putNumber_other _ ne _
        · rfl
  | _ =>
    simp only [Setting.numbers, List.mem_cons, List.not_mem_nil, or_false, not_or] at apart
    simp only [set, setSharpness, setFlicker, setWhitebalance, setBacklightcomp, setTurned,
      setAutogainctrl, setNumber, stored]
    (repeat' split) <;> simp [Sensor.putNumber, Sensor.putText, Function.update_of_ne, apart]

/-- Another text than those of the argument is left. -/
theorem set_text_other {setting : Setting} {entry : TextEntry} (apart : entry ∉ setting.texts) :
    (set (stored b) b i text s setting).sensor.text entry = s.sensor.text entry := by
  cases setting with
  | autoexposure =>
    have ne : entry ≠ .aExposureTime := fun same => apart (List.mem_singleton.mpr same)
    rw [set, setAutoexposure_stored]
    split
    · cases autoTime text with
      | none => rfl
      | some time => exact putText_other _ ne _
    · rfl
  | maxexposuretime =>
    simp only [Setting.texts, List.mem_cons, List.not_mem_nil, or_false, not_or] at apart
    rw [set, setMaxexposuretime_stored]
    split
    · cases maxMode b text with
      | none => rfl
      | some mode => exact putText_other _ apart.1 _
    · cases maxTime b text s.buf with
      | none => rfl
      | some time =>
        dsimp only [Option.elim_some]
        split
        · exact putText_other _ apart.2 _
        · rfl
  | _ =>
    simp only [Setting.texts, List.mem_cons, List.not_mem_nil, or_false] at apart
    simp only [set, setSharpness, setFlicker, setWhitebalance, setBacklightcomp, setTurned,
      setAutogainctrl, setNumber, stored]
    (repeat' split) <;> simp [Sensor.putNumber, Sensor.putText, Function.update_of_ne, apart]

/-- An argument that is known or not does nothing, or what is done for one that is known. -/
theorem step_eq_or (control : Control) : (step control b i s arg).1 = s ∨
    ∃ setting, arg.1 = Setting.name setting ∧
      (step control b i s arg).1 = set control b i arg.2 s setting := by
  cases known : settingOf arg.1 with
  | none => exact .inl (step_unknown control known)
  | some setting =>
    have here := name_of_settingOf known
    exact .inr ⟨setting, here, step_known control here⟩

/-- A number is left by an argument that may not change it. -/
theorem step_number_other {entry : NumberEntry}
    (apart : ∀ setting, arg.1 = Setting.name setting → entry ∉ setting.numbers) :
    (step (stored b) b i s arg).1.sensor.number entry = s.sensor.number entry := by
  rcases step_eq_or (b := b) (i := i) (s := s) (stored b) with same | ⟨setting, here, done⟩
  · rw [same]
  · rw [done, set_number_other (apart setting here)]

/-- A text is left by an argument that may not change it. -/
theorem step_text_other {entry : TextEntry}
    (apart : ∀ setting, arg.1 = Setting.name setting → entry ∉ setting.texts) :
    (step (stored b) b i s arg).1.sensor.text entry = s.sensor.text entry := by
  rcases step_eq_or (b := b) (i := i) (s := s) (stored b) with same | ⟨setting, here, done⟩
  · rw [same]
  · rw [done, set_text_other (apart setting here)]

/-- The buffer is left by every argument but those of the exposure. -/
theorem step_buf_other (first : arg.1 ≠ Setting.autoexposure.name)
    (second : arg.1 ≠ Setting.maxexposuretime.name) :
    (step (stored b) b i s arg).1.buf = s.buf := by
  rcases step_eq_or (b := b) (i := i) (s := s) (stored b) with same | ⟨setting, here, done⟩
  · rw [same]
  · rw [done]
    cases setting with
    | autoexposure => exact absurd here first
    | maxexposuretime => exact absurd here second
    | brightness | contrast | saturation =>
      rw [set]
      split <;> rfl
    | _ => rfl

end Step

/-! ## Entries of one argument -/

section Own

variable {b : Build} {i : Nat} {s : Serving} {text : List UInt8} {args ordered : List Argument}
  {sensor : Sensor}

/-- The argument of a number; that of `agcctrl` is one of three. -/
def NumberEntry.setting : NumberEntry → Setting
  | .nbrightness => .brightness
  | .ncontrast => .contrast
  | .nsaturation => .saturation
  | .nsharpness | .aperture => .sharpness
  | .flickless => .flicker
  | .agcctrl => .autogainctrl
  | .nbacklightcontrol => .backlightcomp
  | .nmirror => .mirror
  | .nflip => .flip

/-- What an argument stores in a number, whatever else there is. -/
def written (b : Build) (text : List UInt8) : NumberEntry → Option Nat
  | .nbrightness => if b.supportBrightness then some (level b text) else none
  | .ncontrast => if b.supportContrast then some (level b text) else none
  | .nsaturation => if b.supportSaturation then some (byteValue text) else none
  | .nsharpness => if b.supportSharpness then some (level b text) else none
  | .aperture =>
    if b.supportSharpness then none
    else if b.supportVisca ∧ b.forks then some (byteValue text) else none
  | .flickless =>
    if b.supportFlickless ∧ flickerValue text ≠ 9 ∧ flickerValue text ≤ b.videoSystemVga then
      some (flickerValue text)
    else none
  | .agcctrl | .nbacklightcontrol => none
  | .nmirror | .nflip => turned b text

/-- A number that depends on nothing else. -/
def NumberEntry.Plain (entry : NumberEntry) : Prop := entry ≠ .agcctrl ∧ entry ≠ .nbacklightcontrol

/-- Only its own argument may change a number, but for `agcctrl`. -/
theorem setting_of_mem_numbers {entry : NumberEntry} {setting : Setting} (apart : entry ≠ .agcctrl)
    (member : entry ∈ setting.numbers) : setting = entry.setting := by
  cases setting <;>
    simp only [Setting.numbers, List.mem_cons, List.not_mem_nil, or_false] at member
  case sharpness => rcases member with same | same <;> rw [same] <;> rfl
  all_goals first | exact absurd member apart | (rw [member]; rfl)

/-- What its own argument does to a plain number. -/
theorem set_number_own {entry : NumberEntry} (plain : entry.Plain) :
    (set (stored b) b i text s entry.setting).sensor.number entry =
      (written b text entry).getD (s.sensor.number entry) := by
  cases entry with
  | agcctrl => exact absurd rfl plain.1
  | nbacklightcontrol => exact absurd rfl plain.2
  | nmirror | nflip =>
    simp only [set, NumberEntry.setting, written, setTurned]
    cases turned b text with
    | none => rfl
    | some value =>
      simp only [setNumber, stored, Option.getD_some]
      split
      · exact putNumber_self _ _ _
      · rename_i same
        exact not_not.mp same
  | _ =>
    simp only [set, NumberEntry.setting, written, setSharpness, setFlicker, setNumber, stored]
    (repeat' split) <;> simp_all [Sensor.putNumber]

/-- A plain number is the same in every order. -/
theorem number_perm {entry : NumberEntry} (plain : entry.Plain) (distinct : Distinct args)
    (same : args.Perm ordered) : (uriSensor (stored b) b ordered sensor).number entry =
      (uriSensor (stored b) b args sensor).number entry := by
  refine loop_single_perm entry.setting.name (fun s : Serving => s.sensor.number entry)
    (fun text old => (written b text entry).getD old) (fun _ => True) (step_goes _ _)
    (fun i s _ arg _ _ => ⟨trivial, fun here => ?_, fun apart => ?_⟩) distinct trivial same
  · rw [step_known _ here, set_number_own plain]
  · apply step_number_other
    intro setting here member
    exact apart (here.trans (congrArg _ (setting_of_mem_numbers plain.1 member)))

/-- The exposure mode of `maxexposuretime`. -/
theorem set_mode : (set (stored b) b i text s .maxexposuretime).sensor.text .exposureMode =
    if b.exposureType = .exposuremodeSelect then
      (maxMode b text).getD (s.sensor.text .exposureMode)
    else s.sensor.text .exposureMode := by
  rw [set, setMaxexposuretime_stored]
  split
  · cases maxMode b text with
    | none => rfl
    | some mode => exact putText_self _ _ _
  · cases maxTime b text s.buf with
    | none => rfl
    | some time =>
      dsimp only [Option.elim_some]
      split
      · exact putText_other _ TextEntry.noConfusion _
      · rfl

/-- The exposure mode is the same in every order. -/
theorem mode_perm (distinct : Distinct args) (same : args.Perm ordered) :
    (uriSensor (stored b) b ordered sensor).text .exposureMode =
      (uriSensor (stored b) b args sensor).text .exposureMode := by
  refine loop_single_perm Setting.maxexposuretime.name
    (fun s : Serving => s.sensor.text .exposureMode)
    (fun text old => if b.exposureType = .exposuremodeSelect then (maxMode b text).getD old else old)
    (fun _ => True) (step_goes _ _) (fun i s _ arg _ _ => ⟨trivial, fun here => ?_, fun apart => ?_⟩)
    distinct trivial same
  · rw [step_known _ here, set_mode]
  · apply step_text_other
    intro setting here member
    cases setting <;> simp [Setting.texts] at member
    exact apart here

/-- A text that is compared with a table at the position of its argument is the same in every order
when it is stored already or the table agrees. -/
theorem table_perm {entry : TextEntry} {setting : Setting} {table : Nat → List UInt8}
    {enabled : Prop} [Decidable enabled]
    (own : ∀ i s text, (set (stored b) b i text s setting).sensor.text entry =
      if enabled ∧ table i = text then text else s.sensor.text entry)
    (only : ∀ other : Setting, entry ∈ other.texts → other = setting)
    (agrees : ∀ value, enabled → (setting.name, value) ∈ args → sensor.text entry = value ∨
      (∀ i < args.length, table i ≠ value) ∨ ∀ i < args.length, table i = value)
    (distinct : Distinct args) (same : args.Perm ordered) :
    (uriSensor (stored b) b ordered sensor).text entry =
      (uriSensor (stored b) b args sensor).text entry := by
  have leaves (i : Nat) (s : Serving) (arg : Argument) (apart : arg.1 ≠ setting.name) :
      (step (stored b) b i s arg).1.sensor.text entry = s.sensor.text entry := by
    apply step_text_other
    intro other here member
    exact apart (here.trans (congrArg _ (only other member)))
  by_cases known : (setting.name, sensor.text entry) ∈ args
  · -- the text that is asked for is stored and stays
    have stays (items : List Argument) (same : args.Perm items) :
        (uriSensor (stored b) b items sensor).text entry = sensor.text entry := by
      apply loop_invariant (fun s : Serving => s.sensor.text entry = sensor.text entry)
      · intro i s _ arg member held
        by_cases here : arg.1 = setting.name
        · have there : (setting.name, arg.2) ∈ args :=
            same.mem_iff.mpr (by rw [← here]; exact member)
          rw [step_known _ here, own, ← distinct.unique known there, held, ite_self]
        · rw [leaves i s arg here, held]
      · rfl
    rw [stays ordered same, stays args (List.Perm.refl _)]
  · refine loop_single_perm setting.name (fun s : Serving => s.sensor.text entry)
      (fun text old => if enabled ∧ table 0 = text then text else old) (fun _ => True)
      (step_goes _ _) (fun i s inside arg member _ => ⟨trivial, fun here => ?_, leaves i s arg⟩)
      distinct trivial same
    have there : (setting.name, arg.2) ∈ args := by
      rw [← here]
      exact member
    rw [step_known _ here, own]
    by_cases on : enabled
    · have apart : sensor.text entry ≠ arg.2 := fun same => known (same ▸ there)
      rcases (agrees arg.2 on there).resolve_left apart with none | all
      · rw [if_neg fun both => none i inside both.2, if_neg fun both => none 0 (by omega) both.2]
      · rw [if_pos ⟨on, all i inside⟩, if_pos ⟨on, all 0 (by omega)⟩]
    · rw [if_neg fun both => on both.1, if_neg fun both => on both.1]

/-- What `whitebalance` does to the white balance. -/
theorem set_white : (set (stored b) b i text s .whitebalance).sensor.text .nwhitebalance =
    if True ∧ b.awb i = text then text else s.sensor.text .nwhitebalance := by
  simp only [set, setWhitebalance, stored, true_and]
  by_cases found : b.awb i = text
  · by_cases same : s.sensor.text .nwhitebalance = text
    · rw [if_neg fun both => both.2 same, if_pos found, same]
    · rw [if_pos ⟨found, same⟩, if_pos found]
      exact putText_self _ _ _
  · rw [if_neg fun both => found both.1, if_neg found]

/-- The white balance is the same in every order. -/
theorem white_perm (agrees : WhiteAgrees b args sensor) (distinct : Distinct args)
    (same : args.Perm ordered) : (uriSensor (stored b) b ordered sensor).text .nwhitebalance =
      (uriSensor (stored b) b args sensor).text .nwhitebalance := by
  refine table_perm (fun i s text => set_white) (fun other member => ?_)
    (fun value _ member => agrees value member) distinct same
  cases other <;> simp [Setting.texts] at member
  rfl

/-- What `autogainctrl` does to the gain. -/
theorem set_gain : (set (stored b) b i text s .autogainctrl).sensor.text .nmaxagcgain =
    if (b.exposureType = .exposuretimeSelect ∧ b.sensor = .imx035) ∧ b.agc i = text then text
    else s.sensor.text .nmaxagcgain := by
  simp only [set, setAutogainctrl, stored]
  by_cases found : (b.exposureType = .exposuretimeSelect ∧ b.sensor = .imx035) ∧ b.agc i = text
  · by_cases same : s.sensor.text .nmaxagcgain = text
    · rw [if_neg fun all => all.2.2.2 same, if_pos found, same]
    · rw [if_pos ⟨found.1.1, found.1.2, found.2, same⟩, if_pos found]
      exact putText_self _ _ _
  · rw [if_neg fun all => found ⟨⟨all.1, all.2.1⟩, all.2.2.1⟩, if_neg found]

/-- The gain is the same in every order. -/
theorem gain_perm (agrees : GainAgrees b args sensor) (distinct : Distinct args)
    (same : args.Perm ordered) : (uriSensor (stored b) b ordered sensor).text .nmaxagcgain =
      (uriSensor (stored b) b args sensor).text .nmaxagcgain := by
  refine table_perm (fun i s text => set_gain) (fun other member => ?_)
    (fun value on member => ?_) distinct same
  · cases other <;> simp [Setting.texts] at member
    rfl
  · rcases agrees value ⟨on.1, on.2, member⟩ with here | none | all
    · exact .inl here
    · exact .inr (.inl none)
    · exact .inr (.inr all.1)

end Own

/-! ## The exposure -/

section Exposure

variable {b : Build} {i : Nat} {s : Serving} {arg : Argument} {text : List UInt8}
  {args ordered : List Argument} {sensor : Sensor}

/-- What `autoexposure` sets leaves nothing of what was. -/
theorem step_auto (here : arg.1 = Setting.autoexposure.name)
    (on : b.exposureType = .exposuretimeSelect) {time : List UInt8}
    (asks : autoTime arg.2 = some time) :
    (step (stored b) b i s arg).1.sensor.text .aExposureTime = time ∧
      (step (stored b) b i s arg).1.sensor.number .agcctrl = 1 ∧
      (step (stored b) b i s arg).1.buf = time := by
  rw [step_known _ here, set, setAutoexposure_stored, if_pos on, asks]
  exact ⟨putText_self _ _ _, putNumber_self s.sensor .agcctrl 1, rfl⟩

/-- An `autoexposure` that asks for nothing does nothing. -/
theorem step_auto_none (here : arg.1 = Setting.autoexposure.name)
    (off : b.exposureType = .exposuretimeSelect → autoTime arg.2 = none) :
    (step (stored b) b i s arg).1 = s := by
  rw [step_known _ here, set, setAutoexposure_stored]
  split
  · rename_i on
    rw [off on]
    rfl
  · rfl

/-- When no `autoexposure` asks for a time, none does anything. -/
theorem step_auto_silent (none : ∀ time, ¬Auto b args time) (member : arg ∈ args)
    (here : arg.1 = Setting.autoexposure.name) : (step (stored b) b i s arg).1 = s := by
  refine step_auto_none here fun on => ?_
  by_contra asks
  obtain ⟨time, asks⟩ := Option.ne_none_iff_exists'.mp asks
  exact none time ⟨on, arg.2, by rw [← here]; exact member, asks⟩

/-- What `maxexposuretime` sets. -/
theorem step_longest (here : arg.1 = Setting.maxexposuretime.name)
    (on : b.exposureType ≠ .exposuremodeSelect) {time : List UInt8}
    (asks : maxTime b arg.2 s.buf = some time) :
    (step (stored b) b i s arg).1.sensor.text .aExposureTime = time ∧
      (step (stored b) b i s arg).1.sensor.number .agcctrl =
        (if s.sensor.text .aExposureTime = time then s.sensor.number .agcctrl else 1) ∧
      (step (stored b) b i s arg).1.buf = time := by
  rw [step_known _ here, set, setMaxexposuretime_stored, if_neg on, asks, Option.elim_some]
  by_cases same : s.sensor.text .aExposureTime = time
  · rw [if_neg (not_not_intro same), if_pos same]
    exact ⟨same, rfl, rfl⟩
  · rw [if_pos same, if_neg same]
    exact ⟨putText_self _ _ _, putNumber_self s.sensor .agcctrl 1, rfl⟩

/-- A `maxexposuretime` that asks for no time leaves the exposure. -/
theorem step_longest_none (here : arg.1 = Setting.maxexposuretime.name)
    (off : b.exposureType ≠ .exposuremodeSelect → maxTime b arg.2 s.buf = none) :
    (step (stored b) b i s arg).1.sensor.text .aExposureTime = s.sensor.text .aExposureTime ∧
      (step (stored b) b i s arg).1.sensor.number .agcctrl = s.sensor.number .agcctrl ∧
      (b.exposureType ≠ .exposuremodeSelect → (step (stored b) b i s arg).1.buf = s.buf) := by
  rw [step_known _ here, set, setMaxexposuretime_stored]
  split
  · rename_i mode
    refine ⟨?_, ?_, fun not => absurd mode not⟩
    · cases maxMode b arg.2 with
      | none => rfl
      | some mode => exact putText_other _ TextEntry.noConfusion _
    · cases maxMode b arg.2 <;> rfl
  · rename_i on
    rw [off on]
    exact ⟨rfl, rfl, fun _ => rfl⟩

/-- The gain is set. -/
def Fires (b : Build) (i : Nat) (s : Serving) (gain : List UInt8) : Prop :=
  b.exposureType = .exposuretimeSelect ∧ b.sensor = .imx035 ∧ b.agc i = gain ∧
    s.sensor.text .nmaxagcgain ≠ gain

/-- A gain that is set. -/
theorem step_fires (here : arg.1 = Setting.autogainctrl.name) (fires : Fires b i s arg.2) :
    (step (stored b) b i s arg).1.sensor.text .nmaxagcgain = arg.2 ∧
      (step (stored b) b i s arg).1.sensor.number .agcctrl = 0 := by
  have set : setAutogainctrl (stored b) b i arg.2 s.sensor =
      stored b (.aegain arg.2) (s.sensor.putNumber .agcctrl 0) := if_pos fires
  rw [step_known _ here]
  show (setAutogainctrl (stored b) b i arg.2 s.sensor).text .nmaxagcgain = arg.2 ∧
    (setAutogainctrl (stored b) b i arg.2 s.sensor).number .agcctrl = 0
  rw [set]
  exact ⟨putText_self _ _ _, putNumber_self s.sensor .agcctrl 0⟩

/-- A gain that is not set does nothing. -/
theorem step_fires_not (here : arg.1 = Setting.autogainctrl.name) (not : ¬Fires b i s arg.2) :
    (step (stored b) b i s arg).1 = s := by
  have left : setAutogainctrl (stored b) b i arg.2 s.sensor = s.sensor := if_neg not
  rw [step_known _ here, set, left]

/-- The time of the exposure is left by other arguments. -/
theorem step_time_other (first : arg.1 ≠ Setting.autoexposure.name)
    (second : arg.1 ≠ Setting.maxexposuretime.name) :
    (step (stored b) b i s arg).1.sensor.text .aExposureTime = s.sensor.text .aExposureTime := by
  apply step_text_other
  intro setting here member
  cases setting <;> simp [Setting.texts] at member
  · exact first here
  · exact second here

/-- The control of the gain is left by other arguments. -/
theorem step_agcctrl_other (first : arg.1 ≠ Setting.autoexposure.name)
    (second : arg.1 ≠ Setting.maxexposuretime.name) (third : arg.1 ≠ Setting.autogainctrl.name) :
    (step (stored b) b i s arg).1.sensor.number .agcctrl = s.sensor.number .agcctrl := by
  apply step_number_other
  intro setting here member
  cases setting <;> simp [Setting.numbers] at member
  · exact first here
  · exact second here
  · exact third here

/-- The gain is left by other arguments. -/
theorem step_gain_other (apart : arg.1 ≠ Setting.autogainctrl.name) :
    (step (stored b) b i s arg).1.sensor.text .nmaxagcgain = s.sensor.text .nmaxagcgain := by
  apply step_text_other
  intro setting here member
  cases setting <;> simp [Setting.texts] at member
  exact apart here

/-- Another text of `maxexposuretime` is found in builds with a sensor of their own only. -/
theorem maxTime_sensor (sensor : b.sensor ≠ .other) (text buf : List UInt8) :
    maxTime b text buf = maxTime b text [] := by
  rw [maxTime, maxTime, if_neg sensor, if_neg sensor]

/-- Other builds take what the buffer holds. -/
theorem maxTime_other (sensor : b.sensor = .other) (text buf : List UInt8) :
    maxTime b text buf = some buf := if_pos sensor

/-- No gain that is asked for is set. -/
def Still (b : Build) (args : List Argument) (s : Serving) : Prop :=
  ∀ gain, Gains b args gain →
    s.sensor.text .nmaxagcgain = gain ∨ ∀ i < args.length, b.agc i ≠ gain

/-- It stays so. -/
theorem Still.stays (still : Still b args s) (inside : i < args.length) (member : arg ∈ args) :
    Still b args (step (stored b) b i s arg).1 ∧
      (arg.1 = Setting.autogainctrl.name → (step (stored b) b i s arg).1 = s) := by
  by_cases here : arg.1 = Setting.autogainctrl.name
  · have not : ¬Fires b i s arg.2 := by
      rintro ⟨on, kind, found, differs⟩
      have asked : Gains b args arg.2 := ⟨on, kind, by rw [← here]; exact member⟩
      rcases still arg.2 asked with same | none
      · exact differs same
      · exact none i inside found
    rw [step_fires_not here not]
    exact ⟨still, fun _ => rfl⟩
  · refine ⟨fun gain asked => ?_, fun same => absurd same here⟩
    rw [step_gain_other here]
    exact still gain asked

/-- The exposure that `autoexposure` sets is there in the end when the others agree and no gain is
set. -/
theorem loop_auto (agree : ExposuresAgree b args) {time : List UInt8} (asked : Auto b args time)
    (still : Still b args ⟨sensor, []⟩) (distinct : Distinct args) (same : args.Perm ordered) :
    (uriSensor (stored b) b ordered sensor).text .aExposureTime = time ∧
      (uriSensor (stored b) b ordered sensor).number .agcctrl = 1 := by
  obtain ⟨on, text, member, asks⟩ := asked
  have set : (uriSensor (stored b) b ordered sensor).text .aExposureTime = time ∧
      (uriSensor (stored b) b ordered sensor).number .agcctrl = 1 ∧
      (b.sensor = .other → (loop (step (stored b) b) 0 ⟨sensor, []⟩ ordered).buf = time) := by
    refine loop_settles (Still b args) (fun s : Serving => s.sensor.text .aExposureTime = time ∧
        s.sensor.number .agcctrl = 1 ∧ (b.sensor = .other → s.buf = time)) (step_goes _ _)
      (fun i s inside arg there still => ?_) (same.mem_iff.mp member) (fun i s _ => ?_) still
    · rw [Nat.zero_add, ← same.length_eq] at inside
      have within := same.mem_iff.mpr there
      obtain ⟨later, left⟩ := still.stays inside within
      refine ⟨later, fun ⟨exposure, control, buf⟩ => ?_⟩
      by_cases first : arg.1 = Setting.autoexposure.name
      · have value : arg.2 = text := distinct.unique (by rw [← first]; exact within) member
        obtain ⟨exposure, control, buf⟩ :=
          step_auto (b := b) (i := i) (s := s) first on (value ▸ asks)
        exact ⟨exposure, control, fun _ => buf⟩
      · by_cases second : arg.1 = Setting.maxexposuretime.name
        · have mode : b.exposureType ≠ .exposuremodeSelect := by
            rw [on]
            exact ExposureType.noConfusion
          cases longest : maxTime b arg.2 s.buf with
          | none =>
            obtain ⟨stays, control', buf'⟩ :=
              step_longest_none (b := b) (i := i) (s := s) second fun _ => longest
            exact ⟨stays.trans exposure, control'.trans control,
              fun other => (buf' mode).trans (buf other)⟩
          | some time' =>
            have agrees : time' = time := by
              by_cases other : b.sensor = .other
              · rw [maxTime_other other] at longest
                exact (Option.some.inj longest).symm.trans (buf other)
              · rw [maxTime_sensor other] at longest
                exact (agree other time time' ⟨on, text, member, asks⟩
                  ⟨mode, arg.2, by rw [← second]; exact within, longest⟩).symm
            obtain ⟨exposure', control', buf'⟩ := step_longest (b := b) (i := i) second mode longest
            rw [agrees] at exposure' control' buf'
            rw [if_pos exposure, control] at control'
            exact ⟨exposure', control', fun _ => buf'⟩
        · by_cases third : arg.1 = Setting.autogainctrl.name
          · rw [left third]
            exact ⟨exposure, control, buf⟩
          · rw [step_time_other first second, step_agcctrl_other first second third,
              step_buf_other first second]
            exact ⟨exposure, control, buf⟩
    · obtain ⟨exposure, control, buf⟩ :=
        @step_auto b i s (Setting.autoexposure.name, text) rfl on time asks
      exact ⟨exposure, control, fun _ => buf⟩
  exact ⟨set.1, set.2.1⟩

/-- The exposure of `maxexposuretime` alone is the same in every order when no gain is set. -/
theorem longest_perm (none : ∀ time, ¬Auto b args time) (still : Still b args ⟨sensor, []⟩)
    (distinct : Distinct args) (same : args.Perm ordered) :
    ((uriSensor (stored b) b ordered sensor).text .aExposureTime,
        (uriSensor (stored b) b ordered sensor).number .agcctrl) =
      ((uriSensor (stored b) b args sensor).text .aExposureTime,
        (uriSensor (stored b) b args sensor).number .agcctrl) := by
  refine loop_single_perm Setting.maxexposuretime.name
    (fun s : Serving => (s.sensor.text .aExposureTime, s.sensor.number .agcctrl))
    (fun text old => if b.exposureType = .exposuremodeSelect then old
      else (maxTime b text []).elim old fun time => (time, if old.1 = time then old.2 else 1))
    (fun s => Still b args s ∧ (b.exposureType ≠ .exposuremodeSelect → b.sensor = .other → s.buf = []))
    (step_goes _ _) (fun i s inside arg member inv => ?_) distinct ⟨still, fun _ _ => rfl⟩ same
  obtain ⟨still, empty⟩ := inv
  obtain ⟨later, left⟩ := still.stays inside member
  by_cases second : arg.1 = Setting.maxexposuretime.name
  · have read (mode : b.exposureType ≠ .exposuremodeSelect) :
        maxTime b arg.2 s.buf = maxTime b arg.2 [] := by
      by_cases other : b.sensor = .other
      · rw [empty mode other]
      · exact maxTime_sensor other _ _
    refine ⟨⟨later, fun mode other => ?_⟩, fun _ => ?_, fun apart => absurd second apart⟩
    · have longest : maxTime b arg.2 s.buf = some [] := by rw [maxTime_other other, empty mode other]
      exact (step_longest (b := b) (i := i) second mode longest).2.2
    · dsimp only
      by_cases mode : b.exposureType = .exposuremodeSelect
      · obtain ⟨exposure, control, -⟩ :=
          step_longest_none (b := b) (i := i) (s := s) second fun not => absurd mode not
        rw [if_pos mode, exposure, control]
      · rw [if_neg mode]
        cases longest : maxTime b arg.2 [] with
        | none =>
          obtain ⟨exposure, control, -⟩ := step_longest_none (b := b) (i := i) (s := s) second
            fun mode => (read mode).trans longest
          rw [exposure, control]
          rfl
        | some time =>
          obtain ⟨exposure, control, -⟩ :=
            step_longest (b := b) (i := i) second mode ((read mode).trans longest)
          rw [exposure, control]
          rfl
  · refine ⟨⟨later, fun mode other => ?_⟩, fun here => absurd here second, fun _ => ?_⟩
    · by_cases first : arg.1 = Setting.autoexposure.name
      · rw [step_auto_silent none member first]
        exact empty mode other
      · rw [step_buf_other first second]
        exact empty mode other
    · by_cases first : arg.1 = Setting.autoexposure.name
      · rw [step_auto_silent none member first]
      · by_cases third : arg.1 = Setting.autogainctrl.name
        · rw [left third]
        · rw [step_time_other first second, step_agcctrl_other first second third]

/-- The time of the exposure, the gain and what controls it. -/
def exposed (s : Serving) : List UInt8 × List UInt8 × Nat :=
  (s.sensor.text .aExposureTime, s.sensor.text .nmaxagcgain, s.sensor.number .agcctrl)

/-- With a gain that is set and no exposure that changes, the exposure and the control of the gain
are the same in every order. -/
theorem gained_perm {gain : List UInt8} (asked : Gains b args gain)
    (everywhere : ∀ i < args.length, b.agc i = gain) (none : ∀ time, ¬Auto b args time)
    (stored' : ∀ time, Longest b args time → time = sensor.text .aExposureTime)
    (distinct : Distinct args) (same : args.Perm ordered) :
    ((uriSensor (stored b) b ordered sensor).text .aExposureTime,
        (uriSensor (stored b) b ordered sensor).number .agcctrl) =
      ((uriSensor (stored b) b args sensor).text .aExposureTime,
        (uriSensor (stored b) b args sensor).number .agcctrl) := by
  have all : exposed (loop (step (stored b) b) 0 ⟨sensor, []⟩ ordered) =
      exposed (loop (step (stored b) b) 0 ⟨sensor, []⟩ args) := by
    refine loop_single_perm Setting.autogainctrl.name exposed
      (fun text old => if old.2.1 = text then old else (old.1, text, 0))
      (fun s => s.sensor.text .aExposureTime = sensor.text .aExposureTime) (step_goes _ _)
      (fun i s inside arg member held => ?_) distinct rfl same
    obtain ⟨on, kind, member'⟩ := asked
    by_cases third : arg.1 = Setting.autogainctrl.name
    · have value : arg.2 = gain := distinct.unique (by rw [← third]; exact member) member'
      have first : arg.1 ≠ Setting.autoexposure.name :=
        fun here => Setting.noConfusion (name_injective (here.symm.trans third))
      have second : arg.1 ≠ Setting.maxexposuretime.name :=
        fun here => Setting.noConfusion (name_injective (here.symm.trans third))
      have exposure := step_time_other (b := b) (i := i) (s := s) first second
      refine ⟨exposure.trans held, fun _ => ?_, fun apart => absurd third apart⟩
      by_cases here : (exposed s).2.1 = arg.2
      · rw [if_pos here, step_fires_not third fun fires => fires.2.2.2 here]
      · have fires : Fires b i s arg.2 := ⟨on, kind, (everywhere i inside).trans value.symm, here⟩
        obtain ⟨gained, control⟩ := step_fires third fires
        rw [if_neg here]
        exact Prod.ext exposure (Prod.ext gained control)
    · have quiet : (step (stored b) b i s arg).1.sensor.text .aExposureTime =
            s.sensor.text .aExposureTime ∧
          (step (stored b) b i s arg).1.sensor.number .agcctrl = s.sensor.number .agcctrl := by
        by_cases first : arg.1 = Setting.autoexposure.name
        · rw [step_auto_silent none member first]
          exact ⟨rfl, rfl⟩
        · by_cases second : arg.1 = Setting.maxexposuretime.name
          · have other : b.sensor ≠ .other := by
              rw [kind]
              exact SensorKind.noConfusion
            have mode : b.exposureType ≠ .exposuremodeSelect := by
              rw [on]
              exact ExposureType.noConfusion
            cases longest : maxTime b arg.2 s.buf with
            | none =>
              obtain ⟨exposure, control, -⟩ :=
                step_longest_none (b := b) (i := i) (s := s) second fun _ => longest
              exact ⟨exposure, control⟩
            | some time =>
              have there : Longest b args time := ⟨mode, arg.2, by rw [← second]; exact member,
                by rw [← maxTime_sensor other arg.2 s.buf]; exact longest⟩
              have time' : s.sensor.text .aExposureTime = time := held.trans (stored' time there).symm
              obtain ⟨exposure, control, -⟩ := step_longest (b := b) (i := i) second mode longest
              rw [if_pos time'] at control
              exact ⟨exposure.trans time'.symm, control⟩
          · exact ⟨step_time_other first second, step_agcctrl_other first second third⟩
      refine ⟨quiet.1.trans held, fun here => absurd here third, fun _ => ?_⟩
      rw [exposed, quiet.1, quiet.2, step_gain_other third, exposed]
  have exposure := congrArg Prod.fst all
  have control := congrArg (fun view => view.2.2) all
  exact Prod.ext exposure control

/-- The exposure and the control of the gain are the same in every order. -/
theorem exposure_perm (agree : ExposuresAgree b args) (gain : GainAgrees b args sensor)
    (distinct : Distinct args) (same : args.Perm ordered) :
    ((uriSensor (stored b) b ordered sensor).text .aExposureTime,
        (uriSensor (stored b) b ordered sensor).number .agcctrl) =
      ((uriSensor (stored b) b args sensor).text .aExposureTime,
        (uriSensor (stored b) b args sensor).number .agcctrl) := by
  by_cases still : Still b args ⟨sensor, []⟩
  · by_cases asked : ∃ time, Auto b args time
    · obtain ⟨time, asked⟩ := asked
      obtain ⟨exposure, control⟩ := loop_auto agree asked still distinct same
      obtain ⟨exposure', control'⟩ := loop_auto agree asked still distinct (List.Perm.refl args)
      rw [exposure, control, exposure', control']
    · exact longest_perm (not_exists.mp asked) still distinct same
  · simp only [Still, not_forall] at still
    obtain ⟨value, asked, moves⟩ := still
    obtain ⟨differs, somewhere⟩ := not_or.mp moves
    rcases gain value asked with here | none | ⟨all, none, stored'⟩
    · exact absurd here differs
    · exact absurd none somewhere
    · exact gained_perm asked all none stored' distinct same

/-- What `backlightcomp` does. -/
theorem step_backlight (here : arg.1 = Setting.backlightcomp.name) :
    (step (stored b) b i s arg).1.sensor.number .nbacklightcontrol =
      if s.sensor.text .aExposureTime = b.exposuretimeAuto ∧ b.supportBlcmode then
        backlightValue arg.2
      else s.sensor.number .nbacklightcontrol := by
  rw [step_known _ here]
  simp only [set, setBacklightcomp, setNumber, stored]
  split
  · split
    · exact putNumber_self _ _ _
    · rename_i same
      exact not_not.mp same
  · rfl

/-- The backlight compensation is left by other arguments. -/
theorem step_backlight_other (apart : arg.1 ≠ Setting.backlightcomp.name) :
    (step (stored b) b i s arg).1.sensor.number .nbacklightcontrol =
      s.sensor.number .nbacklightcontrol := by
  apply step_number_other
  intro setting here member
  cases setting <;> simp [Setting.numbers] at member
  exact apart here

/-- The exposure and what the buffer may make of it are automatic as they were at first. -/
def Alike (b : Build) (args : List Argument) (sensor : Sensor) (s : Serving) : Prop :=
  (s.sensor.text .aExposureTime = b.exposuretimeAuto ↔
      sensor.text .aExposureTime = b.exposuretimeAuto) ∧
    (b.sensor = .other → ∀ time, Longest b args time →
      (s.buf = b.exposuretimeAuto ↔ sensor.text .aExposureTime = b.exposuretimeAuto))

/-- They stay alike when every exposure that is set is. -/
theorem Alike.stays (alike : Alike b args sensor s)
    (agree : ∀ time, Auto b args time ∨ Longest b args time →
      (time = b.exposuretimeAuto ↔ sensor.text .aExposureTime = b.exposuretimeAuto))
    (member : arg ∈ args) : Alike b args sensor (step (stored b) b i s arg).1 := by
  obtain ⟨exposure, buf⟩ := alike
  by_cases first : arg.1 = Setting.autoexposure.name
  · have within : (Setting.autoexposure.name, arg.2) ∈ args := by rw [← first]; exact member
    by_cases on : b.exposureType = .exposuretimeSelect
    · cases asks : autoTime arg.2 with
      | none =>
        rw [step_auto_none first fun _ => asks]
        exact ⟨exposure, buf⟩
      | some time =>
        obtain ⟨exposure', -, buf'⟩ := step_auto (b := b) (i := i) (s := s) first on asks
        have alike := agree time (.inl ⟨on, arg.2, within, asks⟩)
        rw [Alike, exposure', buf']
        exact ⟨alike, fun _ _ _ => alike⟩
    · rw [step_auto_none first fun here => absurd here on]
      exact ⟨exposure, buf⟩
  · by_cases second : arg.1 = Setting.maxexposuretime.name
    · have within : (Setting.maxexposuretime.name, arg.2) ∈ args := by rw [← second]; exact member
      by_cases mode : b.exposureType = .exposuremodeSelect
      · have exposure' := (step_longest_none (b := b) (i := i) (s := s) second
          fun not => absurd mode not).1
        rw [Alike, exposure']
        exact ⟨exposure, fun _ _ longest => absurd mode longest.1⟩
      · cases asks : maxTime b arg.2 s.buf with
        | none =>
          obtain ⟨exposure', -, buf'⟩ :=
            step_longest_none (b := b) (i := i) (s := s) second fun _ => asks
          rw [Alike, exposure', buf' mode]
          exact ⟨exposure, buf⟩
        | some time =>
          obtain ⟨exposure', -, buf'⟩ := step_longest (b := b) (i := i) second mode asks
          have alike : time = b.exposuretimeAuto ↔
              sensor.text .aExposureTime = b.exposuretimeAuto := by
            by_cases other : b.sensor = .other
            · rw [maxTime_other other] at asks
              rw [← Option.some.inj asks]
              exact buf other [] ⟨mode, arg.2, within, maxTime_other other _ _⟩
            · rw [maxTime_sensor other] at asks
              exact agree time (.inr ⟨mode, arg.2, within, asks⟩)
          rw [Alike, exposure', buf']
          exact ⟨alike, fun _ _ _ => alike⟩
    · rw [Alike, step_time_other first second, step_buf_other first second]
      exact ⟨exposure, buf⟩

/-- The backlight compensation is the same in every order. -/
theorem backlight_perm (agrees : BacklightAgrees b args sensor) (distinct : Distinct args)
    (same : args.Perm ordered) :
    (uriSensor (stored b) b ordered sensor).number .nbacklightcontrol =
      (uriSensor (stored b) b args sensor).number .nbacklightcontrol := by
  by_cases known : ∃ text, (Setting.backlightcomp.name, text) ∈ args ∧
      sensor.number .nbacklightcontrol = backlightValue text
  · obtain ⟨text, member, there⟩ := known
    have stays (items : List Argument) (same : args.Perm items) :
        (uriSensor (stored b) b items sensor).number .nbacklightcontrol =
          sensor.number .nbacklightcontrol := by
      apply loop_invariant
        (fun s : Serving => s.sensor.number .nbacklightcontrol = sensor.number .nbacklightcontrol)
      · intro i s _ arg within held
        by_cases here : arg.1 = Setting.backlightcomp.name
        · have value : arg.2 = text :=
            distinct.unique (same.mem_iff.mpr (by rw [← here]; exact within)) member
          rw [step_backlight here, value, ← there, held, ite_self]
        · rw [step_backlight_other here, held]
      · rfl
    rw [stays ordered same, stays args (List.Perm.refl _)]
  · by_cases asked : b.supportBlcmode = true ∧ ∃ text, (Setting.backlightcomp.name, text) ∈ args
    · obtain ⟨supported, text, member⟩ := asked
      have agree := (agrees supported text member).resolve_left fun there =>
        known ⟨text, member, there⟩
      refine loop_single_perm Setting.backlightcomp.name
        (fun s : Serving => s.sensor.number .nbacklightcontrol)
        (fun text old => if sensor.text .aExposureTime = b.exposuretimeAuto ∧ b.supportBlcmode then
          backlightValue text else old) (Alike b args sensor) (step_goes _ _)
        (fun i s _ arg within alike => ⟨alike.stays agree within, fun here => ?_, fun apart => ?_⟩)
        distinct ⟨Iff.rfl, fun other time longest => ?_⟩ same
      · simp only [step_backlight here, alike.1]
      · exact step_backlight_other apart
      · obtain ⟨mode, text', within, -⟩ := longest
        exact agree [] (.inr ⟨mode, text', within, maxTime_other other _ _⟩)
    · refine loop_single_perm Setting.backlightcomp.name
        (fun s : Serving => s.sensor.number .nbacklightcontrol) (fun _ old => old) (fun _ => True)
        (step_goes _ _) (fun i s _ arg within _ => ⟨trivial, fun here => ?_, fun apart => ?_⟩)
        distinct trivial same
      · have off : ¬b.supportBlcmode = true :=
          fun on => asked ⟨on, arg.2, by rw [← here]; exact within⟩
        rw [step_backlight here, if_neg fun both => off both.2]
      · exact step_backlight_other apart

end Exposure

/-! ## Every order -/

section Orders

variable {b : Build} {args ordered : List Argument} {sensor : Sensor}

/-- The arguments do the same in every order when the condition is met. -/
theorem Meets.order (meets : Meets b args sensor) (distinct : Distinct args)
    (same : args.Perm ordered) :
    uriSensor (stored b) b ordered sensor = uriSensor (stored b) b args sensor := by
  have exposure := exposure_perm meets.exposures meets.gain distinct same
  have numbers : (uriSensor (stored b) b ordered sensor).number =
      (uriSensor (stored b) b args sensor).number := by
    funext entry
    by_cases control : entry = .agcctrl
    · rw [control]
      exact congrArg Prod.snd exposure
    · by_cases backlight : entry = .nbacklightcontrol
      · rw [backlight]
        exact backlight_perm meets.backlight distinct same
      · exact number_perm ⟨control, backlight⟩ distinct same
  have texts : (uriSensor (stored b) b ordered sensor).text =
      (uriSensor (stored b) b args sensor).text := by
    funext entry
    cases entry with
    | nwhitebalance => exact white_perm meets.white distinct same
    | exposureMode => exact mode_perm distinct same
    | aExposureTime => exact congrArg Prod.fst exposure
    | nmaxagcgain => exact gain_perm meets.gain distinct same
  calc uriSensor (stored b) b ordered sensor
      = ⟨(uriSensor (stored b) b args sensor).number, (uriSensor (stored b) b args sensor).text⟩ :=
        congrArg₂ Sensor.mk numbers texts
    _ = uriSensor (stored b) b args sensor := rfl

end Orders

/-! ## Orders that differ -/

section Needed

variable {b : Build} {i : Nat} {s : Serving} {arg second : Argument} {text : List UInt8}
  {args rest : List Argument} {sensor : Sensor}

/-- A text is left when no argument may change it. -/
theorem loop_text {entry : TextEntry}
    (apart : ∀ arg ∈ args, ∀ setting, arg.1 = Setting.name setting → entry ∉ setting.texts) :
    (loop (step (stored b) b) i s args).sensor.text entry = s.sensor.text entry :=
  loop_invariant (fun after : Serving => after.sensor.text entry = s.sensor.text entry)
    (fun _ _ _ arg member held => (step_text_other (apart arg member)).trans held) rfl

/-- The backlight compensation is left when no argument is of it. -/
theorem loop_backlight (apart : ∀ text, (Setting.backlightcomp.name, text) ∉ args) :
    (loop (step (stored b) b) i s args).sensor.number .nbacklightcontrol =
      s.sensor.number .nbacklightcontrol := by
  apply loop_invariant (fun after : Serving =>
    after.sensor.number .nbacklightcontrol = s.sensor.number .nbacklightcontrol)
  · intro i after _ arg member held
    have ne : arg.1 ≠ Setting.backlightcomp.name := fun here =>
      apart arg.2 (by rw [← here]; exact member)
    rw [step_backlight_other ne, held]
  · rfl

/-- The control of the gain stays with the exposure when no gain is set behind. -/
theorem loop_control (apart : ∀ text, (Setting.autogainctrl.name, text) ∉ args)
    (one : s.sensor.number .agcctrl = 1) :
    (loop (step (stored b) b) i s args).sensor.number .agcctrl = 1 := by
  apply loop_invariant (fun after : Serving => after.sensor.number .agcctrl = 1)
  · intro i after _ arg member held
    have third : arg.1 ≠ Setting.autogainctrl.name := fun here =>
      apart arg.2 (by rw [← here]; exact member)
    by_cases first : arg.1 = Setting.autoexposure.name
    · by_cases on : b.exposureType = .exposuretimeSelect
      · cases asks : autoTime arg.2 with
        | none => rw [step_auto_none first fun _ => asks, held]
        | some time => exact (step_auto first on asks).2.1
      · rw [step_auto_none first fun here => absurd here on, held]
    · by_cases second : arg.1 = Setting.maxexposuretime.name
      · by_cases mode : b.exposureType = .exposuremodeSelect
        · rw [(step_longest_none second fun not => absurd mode not).2.1, held]
        · cases asks : maxTime b arg.2 after.buf with
          | none => rw [(step_longest_none second fun _ => asks).2.1, held]
          | some time =>
            rw [(step_longest second mode asks).2.1, held]
            exact ite_self _
      · rw [step_agcctrl_other first second third, held]
  · exact one

/-- A page whose first two arguments are known. -/
theorem uriSensor_front : uriSensor (stored b) b (arg :: second :: rest) sensor =
    (loop (step (stored b) b) 2 (step (stored b) b 1
      (step (stored b) b 0 ⟨sensor, []⟩ arg).1 second).1 rest).sensor := by
  rw [uriSensor, loop_goes (step_goes _ _ _ _ _), loop_goes (step_goes _ _ _ _ _)]

/-- A page whose last two arguments are known. -/
theorem uriSensor_back : uriSensor (stored b) b (rest ++ [arg, second]) sensor =
    (step (stored b) b (rest.length + 1) (step (stored b) b rest.length
      (loop (step (stored b) b) 0 ⟨sensor, []⟩ rest) arg).1 second).1.sensor := by
  rw [uriSensor, loop_append (step_goes _ _), Nat.zero_add, loop_goes (step_goes _ _ _ _ _),
    loop_goes (step_goes _ _ _ _ _), loop]

/-- A text that is compared with a table at the position of its argument. -/
theorem table_at {entry : TextEntry} {setting : Setting} {table : Nat → List UInt8}
    {enabled : Prop} [Decidable enabled]
    (own : ∀ i s text, (set (stored b) b i text s setting).sensor.text entry =
      if enabled ∧ table i = text then text else s.sensor.text entry)
    (only : ∀ other : Setting, entry ∈ other.texts → other = setting)
    {before behind : List Argument} {value : List UInt8}
    (distinct : Distinct (before ++ (setting.name, value) :: behind)) :
    (uriSensor (stored b) b (before ++ (setting.name, value) :: behind) sensor).text entry =
      if enabled ∧ table before.length = value then value else sensor.text entry := by
  have moved := distinct.perm List.perm_middle
  have apart (items : List Argument) (within : ∀ arg ∈ items, arg ∈ before ++ behind) :
      ∀ arg ∈ items, ∀ other, arg.1 = Setting.name other → entry ∉ other.texts := by
    intro arg member other here there
    rw [only other there] at here
    have twice : (setting.name, arg.2) ∈ before ++ behind := by
      rw [← here]
      exact within arg member
    exact moved.not_behind twice
  rw [uriSensor, loop_append (step_goes _ _), Nat.zero_add, loop_goes (step_goes _ _ _ _ _),
    loop_text (apart behind fun _ => List.mem_append_right _), step_known _ rfl, own,
    loop_text (apart before fun _ => List.mem_append_left _)]

/-- When the order does not matter, a text that is not stored is found at every position or at
none. -/
theorem table_agrees {entry : TextEntry} {setting : Setting} {table : Nat → List UInt8}
    {enabled : Prop} [Decidable enabled]
    (own : ∀ i s text, (set (stored b) b i text s setting).sensor.text entry =
      if enabled ∧ table i = text then text else s.sensor.text entry)
    (only : ∀ other : Setting, entry ∈ other.texts → other = setting)
    (order : ∀ ordered, args.Perm ordered →
      uriSensor (stored b) b ordered sensor = uriSensor (stored b) b args sensor)
    (distinct : Distinct args) (on : enabled) {value : List UInt8}
    (member : (setting.name, value) ∈ args) (differs : sensor.text entry ≠ value) :
    (∀ i < args.length, table i ≠ value) ∨ ∀ i < args.length, table i = value := by
  by_contra mixed
  obtain ⟨some, others⟩ := not_or.mp mixed
  push Not at some others
  obtain ⟨found, inside, here⟩ := some
  obtain ⟨missed, inside', there⟩ := others
  obtain ⟨before, behind, length, same⟩ := exists_at member inside
  obtain ⟨before', behind', length', same'⟩ := exists_at member inside'
  have left : (uriSensor (stored b) b _ sensor).text entry = _ :=
    table_at own only (distinct.perm same)
  have right : (uriSensor (stored b) b _ sensor).text entry = _ :=
    table_at own only (distinct.perm same')
  rw [order _ same, length, if_pos ⟨on, here⟩] at left
  rw [order _ same', length', if_neg fun both => there both.2] at right
  exact differs (right.symm.trans left)

/-- Two arguments come last, one behind the other, in some order. -/
theorem exists_back (member : arg ∈ args) (there : second ∈ args) (ne : second ≠ arg) :
    ∃ rest, args.Perm (rest ++ [arg, second]) := by
  obtain ⟨rest, same⟩ := exists_front₂ member there ne
  have turned : ([arg, second] ++ rest).Perm (rest ++ [arg, second]) := List.perm_append_comm
  exact ⟨rest, same.trans turned⟩

/-- When the order does not matter, the exposures agree. -/
theorem exposuresAgree_of_order (order : ∀ ordered, args.Perm ordered →
      uriSensor (stored b) b ordered sensor = uriSensor (stored b) b args sensor) :
    ExposuresAgree b args := by
  rintro other time longest ⟨on, text, member, asks⟩ ⟨mode, text', member', asks'⟩
  have apart : Setting.maxexposuretime.name ≠ Setting.autoexposure.name := by decide
  obtain ⟨rest, same⟩ := exists_back member member' fun same => apart (congrArg Prod.fst same)
  obtain ⟨rest', same'⟩ := exists_back member' member fun same => apart (congrArg Prod.fst same).symm
  have left : (uriSensor (stored b) b (rest ++ [(Setting.autoexposure.name, text),
      (Setting.maxexposuretime.name, text')]) sensor).text .aExposureTime = longest := by
    rw [uriSensor_back]
    exact (step_longest rfl mode ((maxTime_sensor other _ _).trans asks')).1
  have right : (uriSensor (stored b) b (rest' ++ [(Setting.maxexposuretime.name, text'),
      (Setting.autoexposure.name, text)]) sensor).text .aExposureTime = time := by
    rw [uriSensor_back]
    exact (step_auto rfl on asks).1
  rw [← left, ← right, order _ same, order _ same']

variable (sensor) in
/-- An argument that sets an exposure sets it when it comes first. -/
theorem exposure_first {time : List UInt8} (asked : Auto b args time ∨ Longest b args time) :
    ∃ arg ∈ args, arg.1 ≠ Setting.backlightcomp.name ∧
      (step (stored b) b 0 ⟨sensor, []⟩ arg).1.sensor.text .aExposureTime = time := by
  rcases asked with ⟨on, text, member, asks⟩ | ⟨mode, text, member, asks⟩
  · have apart : Setting.autoexposure.name ≠ Setting.backlightcomp.name := by decide
    exact ⟨_, member, apart, (step_auto rfl on asks).1⟩
  · have apart : Setting.maxexposuretime.name ≠ Setting.backlightcomp.name := by decide
    exact ⟨_, member, apart, (step_longest rfl mode asks).1⟩

/-- When the order does not matter, a backlight compensation that differs finds the exposure alike. -/
theorem backlightAgrees_of_order (distinct : Distinct args) (order : ∀ ordered, args.Perm ordered →
      uriSensor (stored b) b ordered sensor = uriSensor (stored b) b args sensor) :
    BacklightAgrees b args sensor := by
  intro supported text member
  by_contra mixed
  obtain ⟨differs, disagree⟩ := not_or.mp mixed
  push Not at disagree
  obtain ⟨time, asked, other⟩ := disagree
  obtain ⟨arg, there, apart, exposure⟩ := exposure_first sensor asked
  have ne : arg ≠ (Setting.backlightcomp.name, text) := fun same => apart (congrArg Prod.fst same)
  obtain ⟨rest, same⟩ := exists_front₂ member there ne
  obtain ⟨rest', same'⟩ := exists_front₂ there member ne.symm
  have first : (uriSensor (stored b) b ((Setting.backlightcomp.name, text) :: arg :: rest)
      sensor).number .nbacklightcontrol =
        if sensor.text .aExposureTime = b.exposuretimeAuto ∧ b.supportBlcmode then
          backlightValue text else sensor.number .nbacklightcontrol := by
    have none (value : List UInt8) : (Setting.backlightcomp.name, value) ∉ rest := fun within =>
      (distinct.perm same).not_behind (List.mem_cons_of_mem arg within)
    rw [uriSensor_front, loop_backlight none, step_backlight_other apart, step_backlight rfl]
  have later : (uriSensor (stored b) b (arg :: (Setting.backlightcomp.name, text) :: rest')
      sensor).number .nbacklightcontrol =
        if time = b.exposuretimeAuto ∧ b.supportBlcmode then
          backlightValue text else sensor.number .nbacklightcontrol := by
    have none (value : List UInt8) : (Setting.backlightcomp.name, value) ∉ rest' :=
      (distinct.perm same').tail.not_behind
    rw [uriSensor_front, loop_backlight none, step_backlight rfl, exposure,
      step_backlight_other apart]
  rw [order _ same] at first
  rw [order _ same', first] at later
  simp only [supported, and_true] at later
  by_cases here : sensor.text .aExposureTime = b.exposuretimeAuto
  · by_cases there : time = b.exposuretimeAuto
    · rcases other with ⟨-, not⟩ | ⟨not, -⟩
      · exact not here
      · exact not there
    · rw [if_pos here, if_neg there] at later
      exact differs later.symm
  · by_cases there : time = b.exposuretimeAuto
    · rw [if_neg here, if_pos there] at later
      exact differs later
    · rcases other with ⟨yes, -⟩ | ⟨-, yes⟩
      · exact there yes
      · exact here yes

/-- A gain that is set last leaves the exposure without control. -/
theorem gained_last {gain : List UInt8} (distinct : Distinct (rest ++ [arg, (Setting.autogainctrl.name, gain)]))
    (on : b.exposureType = .exposuretimeSelect) (kind : b.sensor = .imx035)
    (everywhere : b.agc (rest.length + 1) = gain) (differs : sensor.text .nmaxagcgain ≠ gain) :
    (uriSensor (stored b) b (rest ++ [arg, (Setting.autogainctrl.name, gain)]) sensor).number
      .agcctrl = 0 := by
  have turned : (rest ++ [arg, (Setting.autogainctrl.name, gain)]).Perm
      ((Setting.autogainctrl.name, gain) :: (rest ++ [arg])) := by
    have split : rest ++ [arg, (Setting.autogainctrl.name, gain)] =
        (rest ++ [arg]) ++ [(Setting.autogainctrl.name, gain)] := List.append_cons _ _ _
    rw [split]
    exact List.perm_append_comm
  have none (value : List UInt8) : (Setting.autogainctrl.name, value) ∉ rest ++ [arg] :=
    (distinct.perm turned).not_behind
  have first : arg.1 ≠ Setting.autogainctrl.name := fun here =>
    none arg.2 (by rw [← here]; exact List.mem_append_right _ List.mem_cons_self)
  have before : (loop (step (stored b) b) 0 ⟨sensor, []⟩ rest).sensor.text .nmaxagcgain =
      sensor.text .nmaxagcgain := by
    refine loop_text fun other member setting here within => ?_
    cases setting <;> simp [Setting.texts] at within
    exact none other.2 (List.mem_append_left _ (by rw [← here]; exact member))
  rw [uriSensor_back]
  refine (step_fires rfl ⟨on, kind, everywhere, ?_⟩).2
  rw [step_gain_other first, before]
  exact differs

/-- When the order does not matter, a gain that is set competes with no exposure. -/
theorem gainAgrees_of_order (distinct : Distinct args) (order : ∀ ordered, args.Perm ordered →
      uriSensor (stored b) b ordered sensor = uriSensor (stored b) b args sensor) :
    GainAgrees b args sensor := by
  rintro gain ⟨on, kind, member⟩
  by_cases same : sensor.text .nmaxagcgain = gain
  · exact .inl same
  have only (other : Setting) (within : TextEntry.nmaxagcgain ∈ other.texts) :
      other = .autogainctrl := by
    cases other <;> simp [Setting.texts] at within
    rfl
  have agrees := table_agrees (fun i s text => set_gain) only order distinct ⟨on, kind⟩ member same
  refine .inr (agrees.imp_right fun everywhere => ⟨everywhere, fun time asked => ?_,
    fun time asked => ?_⟩)
  · obtain ⟨-, text, there, asks⟩ := asked
    have apart : Setting.autogainctrl.name ≠ Setting.autoexposure.name := by decide
    obtain ⟨rest, back⟩ := exists_back there member fun same => apart (congrArg Prod.fst same)
    obtain ⟨rest', back'⟩ := exists_back member there fun same => apart (congrArg Prod.fst same).symm
    have length := back.length_eq
    rw [List.length_append] at length
    have left := gained_last (distinct.perm back) on kind (everywhere _ (by simp [length])) same
    have right : (uriSensor (stored b) b (rest' ++ [(Setting.autogainctrl.name, gain),
        (Setting.autoexposure.name, text)]) sensor).number .agcctrl = 1 := by
      rw [uriSensor_back]
      exact (step_auto rfl on asks).2.1
    rw [order _ back] at left
    rw [order _ back', left] at right
    exact absurd right (by decide)
  · by_contra other
    obtain ⟨mode, text, there, asks⟩ := asked
    have apart : Setting.autogainctrl.name ≠ Setting.maxexposuretime.name := by decide
    obtain ⟨rest, back⟩ := exists_back there member fun same => apart (congrArg Prod.fst same)
    obtain ⟨rest', front⟩ := exists_front₂ member there fun same => apart (congrArg Prod.fst same).symm
    have length := back.length_eq
    rw [List.length_append] at length
    have left := gained_last (distinct.perm back) on kind (everywhere _ (by simp [length])) same
    have kind' : b.sensor ≠ .other := by
      rw [kind]
      exact SensorKind.noConfusion
    have exposure : (step (stored b) b 0 ⟨sensor, []⟩
        (Setting.autogainctrl.name, gain)).1.sensor.text .aExposureTime =
          sensor.text .aExposureTime := by
      have first : Setting.autogainctrl.name ≠ Setting.autoexposure.name := by decide
      exact step_time_other first apart
    have right : (uriSensor (stored b) b ((Setting.autogainctrl.name, gain) ::
        (Setting.maxexposuretime.name, text) :: rest') sensor).number .agcctrl = 1 := by
      rw [uriSensor_front]
      refine loop_control (fun value within =>
        (distinct.perm front).not_behind (List.mem_cons_of_mem _ within)) ?_
      rw [(step_longest rfl mode ((maxTime_sensor kind' _ _).trans asks)).2.1, exposure,
        if_neg (Ne.symm other)]
    rw [order _ back] at left
    rw [order _ front, left] at right
    exact absurd right (by decide)

/-- The arguments do the same in every order exactly when the condition is met. -/
theorem order_iff (distinct : Distinct args) : (∀ ordered, args.Perm ordered →
      uriSensor (stored b) b ordered sensor = uriSensor (stored b) b args sensor) ↔
    Meets b args sensor := by
  refine ⟨fun order => ⟨fun value member => ?_, exposuresAgree_of_order order,
    backlightAgrees_of_order distinct order, gainAgrees_of_order distinct order⟩,
    fun meets ordered same => meets.order distinct same⟩
  by_cases same : sensor.text .nwhitebalance = value
  · exact .inl same
  · refine .inr (table_agrees (fun i s text => set_white) (fun other within => ?_) order distinct
      trivial member same)
    cases other <;> simp [Setting.texts] at within
    rfl

end Needed

end BoaIpcam.SensorPage
