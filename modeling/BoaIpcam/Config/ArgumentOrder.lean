import BoaIpcam.Config.ScheduleOrder
import BoaIpcam.Config.SensorOrder

/-!
# Pages whose arguments may come in any order

The pages of the sensor, of the day and night mode and of the infrared light should do the same for
every order of their arguments. For each of them this is so exactly under a condition on the
arguments and on what is stored.
-/
namespace BoaIpcam.ArgumentOrder

open EarlyExit SchedulePages

/-- The three pages do what is asked exactly when they meet their conditions, whatever the variable
of the mode holds at first. -/
theorem argument_order_iff {b : SensorPage.Build} {control : SensorPage.Control}
    (stores : ∀ command sensor, control command sensor = SensorPage.stored b command sensor)
    (dayNight : DayNight) (power : Modes) :
    (∀ args sensor, Distinct args →
      ((∀ ordered, args.Perm ordered → SensorPage.uriSensor control b ordered sensor =
          SensorPage.uriSensor control b args sensor) ↔ SensorPage.Meets b args sensor)) ∧
    (∀ held flags args cfg, Distinct args →
      (Sound (uriIcr dayNight) held args cfg flags ↔ Meets (uriIcr dayNight) held args cfg)) ∧
    (∀ held flags args cfg, Distinct args →
      (Sound (uriIrled power) held args cfg flags ↔ Meets (uriIrled power) held args cfg)) := by
  have same : control = SensorPage.stored b := funext₂ stores
  rw [same]
  exact ⟨fun _ _ distinct => SensorPage.order_iff distinct,
    fun _ _ _ _ distinct => sound_iff distinct, fun _ _ _ _ distinct => sound_iff distinct⟩

/-- A build with two white balances. -/
def plainSensorBuild : SensorPage.Build where
  supportBrightness := true
  supportContrast := true
  supportSaturation := true
  supportSharpness := true
  supportVisca := false
  supportFlickless := true
  supportBlcmode := true
  image8Order := false
  domeTurned := false
  videoSystemVga := 2
  exposureType := .exposuretimeSelect
  sensor := .imx035
  exposuretimeAuto := ascii "Auto"
  exposuretimeIndoor := ascii "Indoor"
  exposuretimeOutdoor := ascii "Outdoor"
  exposuretimeNight := ascii "Night"
  exposuretimeMoving := ascii "Moving"
  exposuretimeLowNoise := ascii "LowNoise"
  awb i := if i = 0 then ascii "Auto" else if i = 1 then ascii "Indoor" else []
  agc i := if i = 0 then ascii "9dB" else []
  forks := true

/-- Its sensor. -/
def plainSensor : SensorPage.Sensor where
  number _ := 0
  text _ := ascii "Auto"

/-- Modes in their order. -/
def plainModes : Modes := ⟨0, 1, 2, 3⟩

/-- A page that is on, with a schedule for the night. -/
def plainSchedule : Schedule where
  mode := 0
  time
    | .start => 200000
    | .finish => 60000

/-- The mode can be asked for behind or before a time that is stored already. -/
theorem argument_order_stored :
    Sound (uriIcr ⟨plainModes, 1, 2⟩) 0
      [(ascii "starttime", ascii "20:00"), (ascii "mode", ascii "schedule")] plainSchedule 0 := by
  have distinct : Distinct [(ascii "starttime", ascii "20:00"), (ascii "mode", ascii "schedule")] := by
    unfold Distinct
    decide
  have pages := argument_order_iff (b := plainSensorBuild) (fun _ _ => rfl) ⟨plainModes, 1, 2⟩ plainModes
  refine (pages.2.1 0 0 _ plainSchedule distinct).mpr ⟨fun all => ?_, fun _ _ => ⟨?_, ?_⟩, ?_⟩
  · exact absurd all.1 (by decide)
  · rintro ⟨slot, text, member, -, differs⟩
    simp only [List.mem_cons, Prod.mk.injEq, List.not_mem_nil, or_false] at member
    rcases member with ⟨name, text⟩ | ⟨name, -⟩
    · have slot : slot = .start := name_injective name
      rw [slot, text] at differs
      exact differs (by decide)
    · exact name_ne_mode slot name
  · exact fun here => absurd here (by decide)
  · exact fun always => absurd always (by decide)

/-- Pages that do not do the same in another order: the white balance is looked up at its position,
a time is not stored before the mode, and an end of 10:75 is stored. -/
theorem argument_order_matters :
    (SensorPage.uriSensor (SensorPage.stored plainSensorBuild) plainSensorBuild
        [(ascii "brightness", ascii "1"), (ascii "whitebalance", ascii "Indoor")]
        plainSensor).text .nwhitebalance ≠
      (SensorPage.uriSensor (SensorPage.stored plainSensorBuild) plainSensorBuild
        [(ascii "whitebalance", ascii "Indoor"), (ascii "brightness", ascii "1")]
        plainSensor).text .nwhitebalance ∧
    (serve (uriIcr ⟨plainModes, 1, 2⟩) 0 0
        [(ascii "mode", ascii "schedule"), (ascii "starttime", ascii "21:00")]
        plainSchedule).cfg.time .start ≠
      (serve (uriIcr ⟨plainModes, 1, 2⟩) 0 0
        [(ascii "starttime", ascii "21:00"), (ascii "mode", ascii "schedule")]
        plainSchedule).cfg.time .start ∧
    ¬TimeOfDay ((serve (uriIrled plainModes) 0 0
        [(ascii "mode", ascii "schedule"), (ascii "endtime", ascii "10:75")]
        plainSchedule).cfg.time .finish) := by
  refine ⟨by decide, by decide, ?_⟩
  have stored : ((serve (uriIrled plainModes) 0 0
      [(ascii "mode", ascii "schedule"), (ascii "endtime", ascii "10:75")]
      plainSchedule).cfg.time .finish).toNat = 107500 := by decide
  rintro ⟨hour, min, hours, mins, same⟩
  omega

end BoaIpcam.ArgumentOrder
