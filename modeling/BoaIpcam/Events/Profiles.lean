import BoaIpcam.Events.Commands
import BoaIpcam.Lib.Run

/-!
# The number of profiles

`set_profilenumber` changes the number of profiles, in a build with `SUPPORT_PROFILE_NUMBER`.
Media and records refer to profiles, so a number below one of them is refused: the command walks
through both tables. For the records it steps to the flags that say which slots are in use with
the stride of the media. The commands that set media and records do not compare the profile with
the number of profiles.
-/
namespace BoaIpcam.Events

open FlatTables TransitionSystem

/-- The limits of the entry `CONFIG_MAX_PROFILE_NUM`. -/
structure ProfileLimits where
  /-- The least value. -/
  min : Int
  /-- The greatest value. -/
  max : Int

/-- `%X` of `sprintf`. -/
def upperHex (value : Nat) : List UInt8 :=
  (Nat.toDigits 16 value).map fun c => UInt8.ofNat c.toUpper.toNat

section Handlers

variable (fw : Firmware) (limits : ProfileLimits)

/-- `CONFIG_MAX_PROFILE_NUM`. -/
def Firmware.profiles (info : SysInfo) : Int := fw.build.word (info.ipcam fw.build.maxProfileNum)

/-- `CONFIG_MAX_WEB_PROFILE_NUM`. -/
def Firmware.webProfiles (info : SysInfo) : Int :=
  fw.build.word (info.ipcam fw.build.maxWebProfileNum)

/-- The source of a picture or a video that is valid. -/
def Firmware.mediaSource (info : SysInfo) (i : Nat) : Option Nat :=
  if fw.build.u8 (fw.build.entry info .media i MediaField.valid) = 0 then none
  else if fw.build.u16 (fw.build.entry info .media i MediaField.type) = fw.media.typePic.toNat then
    some (fw.build.u8 (fw.build.entry info .media i MediaField.picSource))
  else if fw.build.u16 (fw.build.entry info .media i MediaField.type) =
      fw.media.typeVideo.toNat then
    some (fw.build.u8 (fw.build.entry info .media i MediaField.videoSource))
  else none

/-- The flag that the command reads for a record, with the stride of the media. -/
def Firmware.strayFlag (info : SysInfo) (i : Nat) : Nat :=
  fw.build.u8 (info.ipcam (fw.build.layout.address .record 0 RecordField.valid +
    i * fw.build.layout.stride .media))

/-- The source of a record. -/
def Firmware.sourceOfRecord (info : SysInfo) (i : Nat) : Nat :=
  fw.build.u8 (fw.build.entry info .record i RecordField.source)

/-- The source of a record that the command takes for valid. -/
def Firmware.strayRecordSource (info : SysInfo) (i : Nat) : Option Nat :=
  if fw.strayFlag info i = 0 then none else some (fw.sourceOfRecord info i)

/-- The first slot of a table whose source is not one of so many profiles. -/
def firstAbove (number : Int) (source : Nat → Option Nat) (size : Nat) : Option Nat :=
  (List.range size).findSome? fun i : Nat => (source i).filter fun s => number < s + 1

/-- `set_profilenumber`. `ControlSystemData` may refuse to raise the number. -/
def Firmware.setProfilenumber (adjusts : Bool) (info : SysInfo) (text : List UInt8) : Outcome :=
  if text = [] then .answer (.ok (ascii "=" ++ intText (fw.webProfiles info)))
  else if numericCheck text = false then .answer (.ng [])
  else
    let value := atoi text + 1
    if limits.max < value ∨ value < limits.min then .answer (.ng [])
    else if value = fw.profiles info then .answer (.ok [])
    else
      match firstAbove (value - 1) (fw.mediaSource info) (fw.build.layout.size .media) with
      | some source => .answer (.ng (ascii "=0x000" ++ upperHex (source + 1)))
      | none =>
        match firstAbove (value - 1) (fw.strayRecordSource info)
          (fw.build.layout.size .record) with
        | some source => .answer (.ng (ascii "=0x0" ++ upperHex (source + 1) ++ ascii "00"))
        | none =>
          if fw.profiles info < value ∧ adjusts = false then .answer (.ng [])
          else ⟨[(fw.build.maxProfileNum, .num value), (fw.build.maxWebProfileNum, .num (value - 1))],
            [.ok []]⟩

/-- A command for the profiles, the media and the records. -/
inductive ProfileCommand where
  | setProfilenumber (adjusts : Bool) (text : List UInt8)
  | setMedia (text : List UInt8)
  | delMedia (text : List UInt8)
  | setRecord (text : List UInt8)
  | delRecord (text : List UInt8)

/-- What a command does. -/
def Firmware.outcome (info : SysInfo) : ProfileCommand → Outcome
  | .setProfilenumber adjusts text => fw.setProfilenumber limits adjusts info text
  | .setMedia text => fw.set info .media text
  | .delMedia text => fw.del info .media text
  | .setRecord text => fw.set info .record text
  | .delRecord text => fw.del info .record text

/-- `sys_info` after a command. -/
def Firmware.profileStep (info : SysInfo) (command : ProfileCommand) : SysInfo :=
  (fw.outcome limits info command).after info

/-! ## What is asked of the profiles -/

/-- A command refuses. -/
def Outcome.Refused (outcome : Outcome) : Prop :=
  ∃ line ∈ outcome.lines, line = .wrong ∨ ∃ tail, line = .ng tail

/-- A valid picture or video, or a valid record, has a source. -/
def Firmware.Uses (info : SysInfo) (source : Nat) : Prop :=
  (∃ i < fw.build.layout.size .media, fw.mediaSource info i = some source) ∨
    ∃ i < fw.build.layout.size .record,
      fw.build.u8 (fw.build.entry info .record i RecordField.valid) ≠ 0 ∧
        fw.sourceOfRecord info i = source

/-- The two numbers of profiles fit and every source is one of the profiles. -/
structure Firmware.Sound (info : SysInfo) : Prop where
  /-- The two numbers of profiles are one apart. -/
  numbers : fw.profiles info = fw.webProfiles info + 1
  /-- A source in use is one of the profiles. -/
  sources : ∀ source, fw.Uses info source → (source : Int) < fw.webProfiles info

/-- A text asks for a lower number of profiles, which the entry allows. -/
def Firmware.Lowers (info : SysInfo) (text : List UInt8) : Prop :=
  text ≠ [] ∧ numericCheck text = true ∧ limits.min ≤ atoi text + 1 ∧
    atoi text + 1 ≤ limits.max ∧ atoi text + 1 < fw.profiles info

/-- What is asked of a command: the profiles stay sound, a refused command changes nothing, and a
lower number is refused exactly when a source is above it. -/
structure Firmware.ProfilesKept (info : SysInfo) (command : ProfileCommand) : Prop where
  /-- The profiles stay sound. -/
  sound : fw.Sound (fw.profileStep limits info command)
  /-- A refused command changes nothing. -/
  refused : (fw.outcome limits info command).Refused → fw.profileStep limits info command = info
  /-- A lower number is refused when a source is above it. -/
  lower : ∀ adjusts text, command = .setProfilenumber adjusts text → fw.Lowers limits info text →
    ((fw.outcome limits info command).Refused ↔
      ∃ source, fw.Uses info source ∧ atoi text < (source : Int) + 1)

/-- The source of the text of a medium. -/
def MediaSettings.source : MediaSettings → Option Nat
  | .pic picture => some picture.source
  | .video film => some film.source
  | _ => none

/-- When a command keeps the profiles. The source of a picture, a video or a record that passes the
tests is one of the profiles; when the number is lowered, the flag that is read for a record above
the number is the one of the record. -/
def Firmware.ProfilesMeet (info : SysInfo) : ProfileCommand → Prop
  | .setProfilenumber _ text => fw.Lowers limits info text →
      ∀ i < fw.build.layout.size .record, atoi text < (fw.sourceOfRecord info i : Int) + 1 →
        (fw.strayFlag info i ≠ 0 ↔
          fw.build.u8 (fw.build.entry info .record i RecordField.valid) ≠ 0)
  | .setMedia text => ∀ ptr, Passes fw.media.paraNum text (fun ptr =>
      mediaTests fw.build fw.media info ptr (readMedia fw.build fw.media text ptr)) ptr →
    ∀ source, (readMediaSettings fw.build fw.media ptr).source = some source →
      (source : Int) < fw.webProfiles info
  | .setRecord text => ∀ ptr, Passes fw.record.paraNum text (fun ptr =>
      recordTests fw.build fw.record ptr (readRecord fw.build fw.record text ptr)) ptr →
    ((readRecord fw.build fw.record text ptr).source : Int) < fw.webProfiles info
  | .delMedia _ => True
  | .delRecord _ => True

end Handlers

/-! ## The profiles and the entries of the tables -/

section Numbers

variable {fw : Firmware} {info : SysInfo} {t : Table} {slot : Nat}
  {writes : List (t.Field × Datum)} {lines : List Line}

/-- A change of a slot leaves the number of profiles. -/
theorem profiles_slotWrites (inside : slot < fw.build.layout.size t) :
    fw.profiles (Outcome.after ⟨fw.build.layout.slotWrites t slot writes, lines⟩ info) =
      fw.profiles info := by
  unfold Firmware.profiles
  rw [ipcam_outside fun field => (fw.build.profiles_outside t slot field inside).1]

/-- A change of a slot leaves the number of profiles of the web. -/
theorem webProfiles_slotWrites (inside : slot < fw.build.layout.size t) :
    fw.webProfiles (Outcome.after ⟨fw.build.layout.slotWrites t slot writes, lines⟩ info) =
      fw.webProfiles info := by
  unfold Firmware.webProfiles
  rw [ipcam_outside fun field => (fw.build.profiles_outside t slot field inside).2]

/-- The outcome of `set_profilenumber` that changes the numbers. -/
def Firmware.renumbered (fw : Firmware) (value : Int) : Outcome :=
  ⟨[(fw.build.maxProfileNum, .num value), (fw.build.maxWebProfileNum, .num (value - 1))], [.ok []]⟩

/-- The number of profiles after it was changed. -/
theorem profiles_renumbered (value : Int) :
    fw.profiles ((fw.renumbered value).after info) = value := by
  have first : ((fw.renumbered value).after info).ipcam fw.build.maxProfileNum = .num value := by
    show Function.update _ _ _ _ = _
    rw [Function.update_of_ne fw.build.profiles_ne, Function.update_self]
  rw [Firmware.profiles, first]
  rfl

/-- The number of profiles of the web after it was changed. -/
theorem webProfiles_renumbered (value : Int) :
    fw.webProfiles ((fw.renumbered value).after info) = value - 1 := by
  have second : ((fw.renumbered value).after info).ipcam fw.build.maxWebProfileNum =
      .num (value - 1) := Function.update_self _ _ _
  rw [Firmware.webProfiles, second]
  rfl

/-- A change of the number of profiles leaves the tables. -/
theorem entry_renumbered (value : Int) (inside : slot < fw.build.layout.size t)
    (field : t.Field) :
    fw.build.entry ((fw.renumbered value).after info) t slot field =
      fw.build.entry info t slot field := by
  have outside := fw.build.profiles_outside t slot field inside
  apply store_other
  intro write member
  simp only [Firmware.renumbered, List.mem_cons, List.not_mem_nil, or_false] at member
  rcases member with rfl | rfl
  · exact outside.1.symm
  · exact outside.2.symm

/-- A change of the number of profiles leaves what is used. -/
theorem uses_renumbered (value : Int) (source : Nat) :
    fw.Uses ((fw.renumbered value).after info) source ↔ fw.Uses info source := by
  have media : ∀ i < fw.build.layout.size .media,
      fw.mediaSource ((fw.renumbered value).after info) i = fw.mediaSource info i := by
    intro i inside
    simp only [Firmware.mediaSource, entry_renumbered value inside]
  have record : ∀ i < fw.build.layout.size .record, ∀ field : RecordField,
      fw.build.entry ((fw.renumbered value).after info) .record i field =
        fw.build.entry info .record i field :=
    fun i inside field => entry_renumbered value inside field
  unfold Firmware.Uses Firmware.sourceOfRecord
  constructor
  · rintro (⟨i, inside, uses⟩ | ⟨i, inside, valid, uses⟩)
    · exact .inl ⟨i, inside, by rwa [media i inside] at uses⟩
    · rw [record i inside] at valid uses
      exact .inr ⟨i, inside, valid, uses⟩
  · rintro (⟨i, inside, uses⟩ | ⟨i, inside, valid, uses⟩)
    · exact .inl ⟨i, inside, by rwa [media i inside]⟩
    · refine .inr ⟨i, inside, ?_⟩
      rw [record i inside, record i inside]
      exact ⟨valid, uses⟩

end Numbers

/-! ## Changing the number -/

section Renumbering

variable {fw : Firmware} {limits : ProfileLimits} {info : SysInfo} {adjusts : Bool}
  {text : List UInt8}

/-- No source is above the number exactly when none is found. -/
theorem firstAbove_eq_none {number : Int} {source : Nat → Option Nat} {size : Nat} :
    firstAbove number source size = none ↔
      ∀ i < size, ∀ s, source i = some s → (s : Int) < number := by
  unfold firstAbove
  rw [List.findSome?_eq_none_iff]
  constructor
  · intro none i inside s found
    have filtered := none i (List.mem_range.mpr inside)
    rw [found, Option.filter_eq_none_iff] at filtered
    have below := filtered s rfl
    simp only [decide_eq_true_eq] at below
    omega
  · intro below i member
    rw [Option.filter_eq_none_iff]
    intro s found
    have bound := below i (List.mem_range.mp member) s found
    simp only [decide_eq_true_eq]
    omega

/-- When a slot is found, not all sources are below the number. -/
theorem not_below_of_firstAbove {number : Int} {source : Nat → Option Nat} {size found : Nat}
    (above : firstAbove number source size = some found) :
    ¬∀ i < size, ∀ s, source i = some s → (s : Int) < number := by
  rw [← firstAbove_eq_none, above]
  intro none
  cases none

/-- A command that answers with success does not refuse. -/
theorem not_refused_done {writes : List (Nat × Datum)} {line : Line}
    (done : line = .ok [] ∨ line = .done) : ¬Outcome.Refused ⟨writes, [line]⟩ := by
  intro refused
  obtain ⟨answer, member, way⟩ := refused
  rw [List.mem_singleton.mp member] at way
  rcases way with wrong | ⟨tail, ng⟩
  · rw [wrong] at done
    revert done
    decide
  · rw [ng] at done
    rcases done with ok | ok <;> cases ok

/-- Every source that the command looks at is one of so many profiles. -/
def Firmware.AllBelow (fw : Firmware) (info : SysInfo) (number : Int) : Prop :=
  (∀ i < fw.build.layout.size .media, ∀ s, fw.mediaSource info i = some s → (s : Int) < number) ∧
    ∀ i < fw.build.layout.size .record, ∀ s, fw.strayRecordSource info i = some s →
      (s : Int) < number

/-- `set_profilenumber` only answers, or it finds all sources below the number and changes it. -/
theorem setProfilenumber_cases (fw : Firmware) (limits : ProfileLimits) (adjusts : Bool)
    (info : SysInfo) (text : List UInt8) :
    (∃ line, fw.setProfilenumber limits adjusts info text = .answer line) ∨
      fw.setProfilenumber limits adjusts info text = fw.renumbered (atoi text + 1) ∧
        fw.AllBelow info (atoi text) ∧
        (fw.Lowers limits info text ∨ fw.profiles info < atoi text + 1) := by
  unfold Firmware.setProfilenumber
  simp only
  split
  · exact .inl ⟨_, rfl⟩
  · rename_i given
    split
    · exact .inl ⟨_, rfl⟩
    · rename_i numeric
      split
      · exact .inl ⟨_, rfl⟩
      · rename_i range
        split
        · exact .inl ⟨_, rfl⟩
        · rename_i other
          split
          · exact .inl ⟨_, rfl⟩
          · rename_i media
            split
            · exact .inl ⟨_, rfl⟩
            · rename_i record
              split
              · exact .inl ⟨_, rfl⟩
              · rw [firstAbove_eq_none, Int.add_sub_cancel] at media record
                refine .inr ⟨rfl, ⟨media, record⟩, ?_⟩
                by_cases higher : fw.profiles info < atoi text + 1
                · exact .inr higher
                · exact .inl ⟨given, by simpa using numeric, by omega, by omega, by omega⟩

/-- A lower number is refused exactly when a source that the command looks at is above it. -/
theorem setProfilenumber_lower (lowers : fw.Lowers limits info text) :
    (fw.setProfilenumber limits adjusts info text).Refused ↔ ¬fw.AllBelow info (atoi text) := by
  obtain ⟨given, numeric, least, most, lower⟩ := lowers
  have range : ¬(limits.max < atoi text + 1 ∨ atoi text + 1 < limits.min) := by omega
  have other : atoi text + 1 ≠ fw.profiles info := by omega
  unfold Firmware.setProfilenumber Firmware.AllBelow
  simp only [if_neg given, numeric, Bool.true_eq_false, if_false, if_neg range, if_neg other,
    Int.add_sub_cancel]
  cases media : firstAbove (atoi text) (fw.mediaSource info) (fw.build.layout.size .media) with
  | some source =>
    simp only
    constructor
    · intro _ all
      exact not_below_of_firstAbove media all.1
    · intro _
      exact ⟨_, List.mem_singleton_self _, .inr ⟨_, rfl⟩⟩
  | none =>
    rw [firstAbove_eq_none] at media
    cases record : firstAbove (atoi text) (fw.strayRecordSource info)
        (fw.build.layout.size .record) with
    | some source =>
      simp only
      constructor
      · intro _ all
        exact not_below_of_firstAbove record all.2
      · intro _
        exact ⟨_, List.mem_singleton_self _, .inr ⟨_, rfl⟩⟩
    | none =>
      rw [firstAbove_eq_none] at record
      have raised : ¬(fw.profiles info < atoi text + 1 ∧ adjusts = false) := by omega
      simp only [if_neg raised]
      constructor
      · intro refused
        exact absurd refused (not_refused_done (.inl rfl))
      · intro none
        exact absurd ⟨media, record⟩ none

/-- When the flags that are read for the records above the number are their own, the command looks
at all that is used. -/
theorem allBelow_iff
    (flags : ∀ i < fw.build.layout.size .record, atoi text < (fw.sourceOfRecord info i : Int) + 1 →
      (fw.strayFlag info i ≠ 0 ↔
        fw.build.u8 (fw.build.entry info .record i RecordField.valid) ≠ 0)) :
    fw.AllBelow info (atoi text) ↔ ∀ source, fw.Uses info source → (source : Int) < atoi text := by
  constructor
  · intro all source uses
    rcases uses with ⟨i, inside, found⟩ | ⟨i, inside, valid, found⟩
    · exact all.1 i inside source found
    · by_contra above
      have own := (flags i inside (by omega)).mpr valid
      have looked : fw.strayRecordSource info i = some source := by
        rw [Firmware.strayRecordSource, if_neg own, found]
      exact above (all.2 i inside source looked)
  · intro below
    constructor
    · intro i inside s found
      exact below s (.inl ⟨i, inside, found⟩)
    · intro i inside s found
      by_contra above
      have shown : fw.strayFlag info i ≠ 0 ∧ fw.sourceOfRecord info i = s := by
        unfold Firmware.strayRecordSource at found
        split at found
        · cases found
        · cases found
          exact ⟨by assumption, rfl⟩
      have own := (flags i inside (by omega)).mp shown.1
      exact above (below s (.inr ⟨i, inside, own, shown.2⟩))

/-- When the flags of the records above the number are their own, a lower number is refused exactly
when a source is above it. -/
theorem lower_refused_iff (lowers : fw.Lowers limits info text)
    (meets : fw.ProfilesMeet limits info (.setProfilenumber adjusts text)) :
    (fw.setProfilenumber limits adjusts info text).Refused ↔
      ∃ source, fw.Uses info source ∧ atoi text < (source : Int) + 1 := by
  rw [setProfilenumber_lower lowers, allBelow_iff (meets lowers)]
  constructor
  · intro not_all
    by_contra none
    apply not_all
    intro source uses
    by_contra above
    exact none ⟨source, uses, by omega⟩
  · intro some below
    obtain ⟨source, uses, above⟩ := some
    have bound := below source uses
    omega

/-- `set_profilenumber` keeps the profiles. -/
theorem setProfilenumber_kept (sound : fw.Sound info)
    (meets : fw.ProfilesMeet limits info (.setProfilenumber adjusts text)) :
    fw.ProfilesKept limits info (.setProfilenumber adjusts text) := by
  have lower : ∀ adjusts' text', ProfileCommand.setProfilenumber adjusts text =
      .setProfilenumber adjusts' text' → fw.Lowers limits info text' →
        ((fw.outcome limits info (.setProfilenumber adjusts text)).Refused ↔
          ∃ source, fw.Uses info source ∧ atoi text' < (source : Int) + 1) := by
    intro adjusts' text' same lowers
    cases same
    exact lower_refused_iff lowers meets
  rcases setProfilenumber_cases fw limits adjusts info text with ⟨line, only⟩ | ⟨changed, all, way⟩
  · have same : fw.profileStep limits info (.setProfilenumber adjusts text) = info := by
      show (fw.setProfilenumber limits adjusts info text).after info = info
      rw [only]
      rfl
    exact ⟨by rwa [same], fun _ => same, lower⟩
  · have next : fw.profileStep limits info (.setProfilenumber adjusts text) =
        (fw.renumbered (atoi text + 1)).after info := by
      show (fw.setProfilenumber limits adjusts info text).after info = _
      rw [changed]
    have below : ∀ source, fw.Uses info source → (source : Int) < atoi text := by
      rcases way with lowers | higher
      · exact (allBelow_iff (meets lowers)).mp all
      · intro source uses
        have bound := sound.sources source uses
        have numbers := sound.numbers
        omega
    refine ⟨?_, ?_, lower⟩
    · rw [next]
      refine ⟨?_, fun source uses => ?_⟩
      · rw [profiles_renumbered, webProfiles_renumbered]
        omega
      · rw [uses_renumbered] at uses
        have bound := below source uses
        rw [webProfiles_renumbered]
        omega
    · intro refused
      change (fw.setProfilenumber limits adjusts info text).Refused at refused
      rw [changed] at refused
      exact absurd refused (not_refused_done (.inl rfl))

end Renumbering

/-! ## Changing media and records -/

section Slots

variable {fw : Firmware} {limits : ProfileLimits} {info : SysInfo} {text : List UInt8} {slot : Nat}

/-- A number of 8 bits is read back. -/
theorem Build.u8_num {build : Build} {value : Nat} (small : value < 2 ^ 8) :
    build.u8 (.num value) = value := by
  have fits := @narrow_of_fits 8 (value : Int) (Int.natCast_nonneg _) (by exact_mod_cast small)
  exact_mod_cast fits

/-- A number of 16 bits is read back. -/
theorem Build.u16_num {build : Build} {value : Nat} (small : value < 2 ^ 16) :
    build.u16 (.num value) = value := by
  have fits := @narrow_of_fits 16 (value : Int) (Int.natCast_nonneg _) (by exact_mod_cast small)
  exact_mod_cast fits

/-- What is used after a change of a slot of the media was used before, or the slot uses it. -/
theorem uses_media {writes : List (MediaField × Datum)} {lines : List Line} {source : Nat}
    (inside : slot < fw.build.layout.size .media)
    (uses : fw.Uses (Outcome.after ⟨fw.build.layout.slotWrites .media slot writes, lines⟩ info)
      source) :
    fw.Uses info source ∨
      fw.mediaSource (Outcome.after ⟨fw.build.layout.slotWrites .media slot writes, lines⟩ info)
        slot = some source := by
  rcases uses with ⟨i, i_inside, found⟩ | ⟨i, i_inside, valid, found⟩
  · by_cases own : i = slot
    · rw [own] at found
      exact .inr found
    · refine .inl (.inl ⟨i, i_inside, ?_⟩)
      simpa only [Firmware.mediaSource, entry_other_slot own] using found
  · have other : Table.media ≠ .record := by decide
    rw [entry_other_table other inside i_inside] at valid
    rw [Firmware.sourceOfRecord, entry_other_table other inside i_inside] at found
    exact .inl (.inr ⟨i, i_inside, valid, found⟩)

/-- What is used after a change of a slot of the records was used before, or the slot uses it. -/
theorem uses_record {writes : List (RecordField × Datum)} {lines : List Line} {source : Nat}
    (inside : slot < fw.build.layout.size .record)
    (uses : fw.Uses (Outcome.after ⟨fw.build.layout.slotWrites .record slot writes, lines⟩ info)
      source) :
    fw.Uses info source ∨
      (fw.build.u8 (fw.build.entry (Outcome.after ⟨fw.build.layout.slotWrites .record slot writes,
        lines⟩ info) .record slot RecordField.valid) ≠ 0 ∧
      fw.sourceOfRecord (Outcome.after ⟨fw.build.layout.slotWrites .record slot writes, lines⟩ info)
        slot = source) := by
  rcases uses with ⟨i, i_inside, found⟩ | ⟨i, i_inside, valid, found⟩
  · have other : Table.record ≠ .media := by decide
    refine .inl (.inl ⟨i, i_inside, ?_⟩)
    simpa only [Firmware.mediaSource, entry_other_table other inside i_inside] using found
  · by_cases own : i = slot
    · rw [own] at valid found
      exact .inr ⟨valid, found⟩
    · rw [entry_other_slot own] at valid
      rw [Firmware.sourceOfRecord, entry_other_slot own] at found
      exact .inl (.inr ⟨i, i_inside, valid, found⟩)

/-- Every entry of a medium is written once. -/
theorem mediaWrites_once (values : MediaValues) (media : Media) :
    ((mediaWrites values media).map Prod.fst).Nodup := by
  simp [mediaWrites]

/-- No two types of media have one number. -/
theorem mediaTypes_apart (values : MediaValues) :
    values.typeVideo.toNat ≠ values.typePic.toNat ∧ values.typeLog.toNat ≠ values.typePic.toNat ∧
      values.typeLog.toNat ≠ values.typeVideo.toNat := by
  have apart := values.types_ne
  simp only [List.nodup_cons, List.mem_cons, List.not_mem_nil, or_false, not_or] at apart
  simp only [ne_eq, UInt16.toNat_inj]
  exact ⟨fun same => apart.1.1 same.symm, fun same => apart.1.2 same.symm,
    fun same => apart.2.1 same.symm⟩

/-- The source of a slot after a medium was written. -/
theorem mediaSource_written {media : Media} {lines : List Line} {source : Nat}
    (small : ∀ s, media.settings.source = some s → s < 2 ^ 8)
    (known : ∀ type, media.settings ≠ .unknown type)
    (found : fw.mediaSource (Outcome.after ⟨fw.build.layout.slotWrites .media slot
      (mediaWrites fw.media media), lines⟩ info) slot = some source) :
    media.settings.source = some source := by
  have once := mediaWrites_once fw.media media
  have valid := @entry_written_once fw.build info .media slot _ lines MediaField.valid _ once
    (show (MediaField.valid, Datum.num 1) ∈ _ by simp [mediaWrites])
  have type := @entry_written_once fw.build info .media slot _ lines MediaField.type _ once
    (show (MediaField.type, Datum.num (media.settings.type fw.media)) ∈ _ by simp [mediaWrites])
  have pic := @entry_written_once fw.build info .media slot _ lines MediaField.picSource _ once
    (show (MediaField.picSource, Datum.num (media.settings.picMembers fw.media).source) ∈ _ by
      simp [mediaWrites])
  have video := @entry_written_once fw.build info .media slot _ lines MediaField.videoSource _ once
    (show (MediaField.videoSource, Datum.num (media.settings.videoMembers fw.media).source) ∈ _ by
      simp [mediaWrites])
  have used : fw.build.u8 (.num 1) ≠ 0 := by
    rw [show (Datum.num 1) = .num ((1 : Nat) : Int) from rfl, Build.u8_num (by decide)]
    decide
  have apart := mediaTypes_apart fw.media
  rw [Firmware.mediaSource, valid, type, pic, video, if_neg used] at found
  cases settings : media.settings with
  | pic picture =>
    simp only [settings, MediaSettings.type, MediaSettings.picMembers,
      Build.u16_num fw.media.typePic.toNat_lt, if_true] at found
    rwa [Build.u8_num (small _ (by rw [settings]; rfl))] at found
  | video film =>
    simp only [settings, MediaSettings.type, MediaSettings.videoMembers,
      Build.u16_num fw.media.typeVideo.toNat_lt, if_neg apart.1, if_true] at found
    rwa [Build.u8_num (small _ (by rw [settings]; rfl))] at found
  | log =>
    simp only [settings, MediaSettings.type, Build.u16_num fw.media.typeLog.toNat_lt,
      if_neg apart.2.1, if_neg apart.2.2] at found
    cases found
  | unknown number => exact absurd settings (known number)

/-- The source of a text has 8 bits. -/
theorem source_lt {ptr : List (List UInt8)} {source : Nat}
    (found : (readMediaSettings fw.build fw.media ptr).source = some source) : source < 2 ^ 8 := by
  rcases readMediaSettings_cases fw.build fw.media ptr with pic | video | log | ⟨type, unknown⟩
  · rw [pic] at found
    cases found
    exact narrow_lt 8 _
  · rw [video] at found
    cases found
    exact narrow_lt 8 _
  · rw [log] at found
    cases found
  · rw [unknown] at found
    cases found

/-- A command that sets or deletes a slot keeps the profiles if it only answers, or if it succeeds
and they stay sound. -/
theorem kept_of_cases {command : ProfileCommand}
    (slots : ∀ adjusts text, command ≠ .setProfilenumber adjusts text) (sound : fw.Sound info)
    (cases : (∃ line, fw.outcome limits info command = .answer line) ∨
      ∃ writes line, fw.outcome limits info command = ⟨writes, [line]⟩ ∧
        (line = .ok [] ∨ line = .done) ∧ fw.Sound (Outcome.after ⟨writes, [line]⟩ info)) :
    fw.ProfilesKept limits info command := by
  rcases cases with ⟨line, only⟩ | ⟨writes, line, carried, done, next⟩
  · have same : fw.profileStep limits info command = info := by
      rw [Firmware.profileStep, only]
      rfl
    exact ⟨by rwa [same], fun _ => same, fun adjusts text equal => absurd equal (slots adjusts text)⟩
  · refine ⟨?_, ?_, fun adjusts text equal => absurd equal (slots adjusts text)⟩
    · rwa [Firmware.profileStep, carried]
    · intro refused
      rw [carried] at refused
      exact absurd refused (not_refused_done done)

/-- The profiles stay sound when a change of a slot adds no source that is not a profile. -/
theorem sound_slotWrites {t : Table} {writes : List (t.Field × Datum)} {lines : List Line}
    (sound : fw.Sound info) (inside : slot < fw.build.layout.size t)
    (uses : ∀ source, fw.Uses (Outcome.after ⟨fw.build.layout.slotWrites t slot writes, lines⟩ info)
      source → fw.Uses info source ∨ (source : Int) < fw.webProfiles info) :
    fw.Sound (Outcome.after ⟨fw.build.layout.slotWrites t slot writes, lines⟩ info) := by
  constructor
  · rw [profiles_slotWrites inside, webProfiles_slotWrites inside]
    exact sound.numbers
  · intro source used
    rw [webProfiles_slotWrites inside]
    rcases uses source used with before | below
    · exact sound.sources source before
    · exact below

/-- `set_event_media` keeps the profiles. -/
theorem setMedia_kept (sound : fw.Sound info) (meets : fw.ProfilesMeet limits info (.setMedia text)) :
    fw.ProfilesKept limits info (.setMedia text) := by
  apply kept_of_cases (by intro adjusts text same; cases same) sound
  simp only [Firmware.outcome, Firmware.set, setEventMedia]
  rcases command_cases fw.media.paraNum text (fun ptr =>
      mediaTests fw.build fw.media info ptr (readMedia fw.build fw.media text ptr))
      (fun ptr => ⟨fw.build.layout.slotWrites .media (slotOf text)
        (mediaWrites fw.media (readMedia fw.build fw.media text ptr)), [.done]⟩)
    with ⟨ptr, passes⟩ | ⟨-, line, only, -⟩
  · right
    have tests := passes.passed
    have inside : slotOf text < fw.build.layout.size .media := by
      simpa using tests ⟨fw.build.layout.size .media ≤ slotOf text, .wrong⟩ List.mem_cons_self
    have known : ∀ type, readMediaSettings fw.build fw.media ptr ≠ .unknown type := by
      intro type unknown
      have settings : (readMedia fw.build fw.media text ptr).settings = .unknown type := unknown
      have fails := (List.forall_mem_append.mp tests).2 ⟨true, .ng []⟩
        (by simp [settings, mediaSettingsTests])
      cases fails
    refine ⟨_, .done, passes.command_eq, .inr rfl, sound_slotWrites sound inside ?_⟩
    intro source uses
    rcases uses_media inside uses with before | own
    · exact .inl before
    · right
      exact meets ptr passes source (mediaSource_written (fun _ => source_lt) known own)
  · exact .inl ⟨line, only⟩

/-- Every entry of a record is written once. -/
theorem recordWrites_once (values : RecordValues) (record : Record) :
    ((recordWrites values record).map Prod.fst).Nodup := by
  simp [recordWrites]

/-- `set_event_record` keeps the profiles. -/
theorem setRecord_kept (sound : fw.Sound info)
    (meets : fw.ProfilesMeet limits info (.setRecord text)) :
    fw.ProfilesKept limits info (.setRecord text) := by
  apply kept_of_cases (by intro adjusts text same; cases same) sound
  simp only [Firmware.outcome, Firmware.set, setEventRecord]
  rcases command_cases fw.record.paraNum text (fun ptr =>
      recordTests fw.build fw.record ptr (readRecord fw.build fw.record text ptr))
      (fun ptr => ⟨fw.build.layout.slotWrites .record (slotOf text)
        (recordWrites fw.record (readRecord fw.build fw.record text ptr)), [.done]⟩)
    with ⟨ptr, passes⟩ | ⟨-, line, only, -⟩
  · right
    have inside : slotOf text < fw.build.layout.size .record := by
      simpa using passes.passed ⟨fw.build.layout.size .record ≤ slotOf text, .wrong⟩
        List.mem_cons_self
    refine ⟨_, .done, passes.command_eq, .inr rfl, sound_slotWrites sound inside ?_⟩
    intro source uses
    rcases uses_record inside uses with before | ⟨-, own⟩
    · exact .inl before
    · right
      have written := @entry_written_once fw.build info .record (slotOf text) _ [Line.done]
        RecordField.source _ (recordWrites_once fw.record (readRecord fw.build fw.record text ptr))
        (show (RecordField.source,
          Datum.num (readRecord fw.build fw.record text ptr).source) ∈ _ by simp [recordWrites])
      have small : (readRecord fw.build fw.record text ptr).source < 2 ^ 8 := narrow_lt 8 _
      rw [Firmware.sourceOfRecord, written, Build.u8_num small] at own
      have below := meets ptr passes
      rwa [own] at below
  · exact .inl ⟨line, only⟩

/-- Deleting a slot whose entries of the sources are reset keeps the profiles. -/
theorem deleteSlot_sound {t : Table} {fields : List t.Field} (sound : fw.Sound info)
    (listed : t.valid ∈ fields) (other : t = .media ∨ t = .record) :
    (∃ line, deleteSlot fw.build t fields text = .answer line) ∨
      ∃ writes line, deleteSlot fw.build t fields text = ⟨writes, [line]⟩ ∧
        (line = .ok [] ∨ line = .done) ∧ fw.Sound (Outcome.after ⟨writes, [line]⟩ info) := by
  unfold deleteSlot
  simp only
  split
  · exact .inl ⟨_, rfl⟩
  · rename_i inside
    right
    have below : narrow 32 (atoi text) < fw.build.layout.size t := by omega
    refine ⟨_, _, rfl, .inl rfl, sound_slotWrites sound below ?_⟩
    intro source uses
    left
    have unused : fw.build.u8 (fw.build.entry (Outcome.after
        ⟨fw.build.resets t (narrow 32 (atoi text)) fields, [.ok []]⟩ info) t
        (narrow 32 (atoi text)) t.valid) = 0 := by
      have number : t.valid ∉ t.texts := by cases t <;> decide
      rw [entry_reset listed, Build.resetOf_number number, fw.build.default_valid t _ below]
      rfl
    rcases other with rfl | rfl
    · rcases uses_media below uses with before | own
      · exact before
      · have free : fw.mediaSource (Outcome.after
            ⟨fw.build.resets .media (narrow 32 (atoi text)) fields, [.ok []]⟩ info)
            (narrow 32 (atoi text)) = none := if_pos unused
        cases free.symm.trans own
    · rcases uses_record below uses with before | ⟨valid, -⟩
      · exact before
      · exact absurd unused valid

/-- A command that meets the condition keeps the profiles. -/
theorem profiles_step {command : ProfileCommand} (sound : fw.Sound info)
    (meets : fw.ProfilesMeet limits info command) : fw.ProfilesKept limits info command := by
  cases command with
  | setProfilenumber adjusts text => exact setProfilenumber_kept sound meets
  | setMedia text => exact setMedia_kept sound meets
  | delMedia text =>
    apply kept_of_cases (by intro adjusts text same; cases same) sound
    exact deleteSlot_sound sound (show MediaField.valid ∈ mediaResets by decide) (.inl rfl)
  | setRecord text => exact setRecord_kept sound meets
  | delRecord text =>
    apply kept_of_cases (by intro adjusts text same; cases same) sound
    exact deleteSlot_sound sound (show RecordField.valid ∈ recordResets by decide) (.inr rfl)

end Slots

/-- A configuration without media and records, with the numbers of profiles one apart. -/
structure Firmware.Unused (fw : Firmware) (info : SysInfo) : Prop where
  /-- The two numbers of profiles are one apart. -/
  numbers : fw.profiles info = fw.webProfiles info + 1
  /-- No medium is valid. -/
  media : ∀ i < fw.build.layout.size .media,
    fw.build.u8 (fw.build.entry info .media i MediaField.valid) = 0
  /-- No record is valid. -/
  record : ∀ i < fw.build.layout.size .record,
    fw.build.u8 (fw.build.entry info .record i RecordField.valid) = 0

/-- Without media and records the profiles are sound. -/
theorem Firmware.Unused.sound {fw : Firmware} {info : SysInfo} (unused : fw.Unused info) :
    fw.Sound info := by
  refine ⟨unused.numbers, fun source uses => ?_⟩
  rcases uses with ⟨i, inside, found⟩ | ⟨i, inside, valid, -⟩
  · rw [Firmware.mediaSource, if_pos (unused.media i inside)] at found
    cases found
  · exact absurd (unused.record i inside) valid

/-- In every run of commands that meet the condition, from a configuration without media and
records, the profiles are kept at every step. -/
theorem profiles_kept (fw : Firmware) (limits : ProfileLimits) (info : SysInfo)
    (commands : List ProfileCommand) (start : fw.Unused info)
    (run : Throughout (fw.profileStep limits) (fw.ProfilesMeet limits) info commands) :
    fw.Sound info ∧
      Throughout (fw.profileStep limits) (fw.ProfilesKept limits) info commands := by
  refine ⟨start.sound, Throughout.of_invariant fw.Sound ?_ start.sound run⟩
  intro s command sound meets
  have kept := profiles_step sound meets
  exact ⟨kept, kept.sound⟩

/-- Two profiles for the web, and tables that are not used. -/
def twoProfiles : SysInfo :=
  ⟨fun address => if address = 200 then .num 3 else if address = 201 then .num 2 else .num 0, 0⟩

/-- A picture of the second profile and a record of the first are set. The number of profiles is
lowered to 1, which is refused before the picture is deleted and not afterwards. -/
theorem profiles_kept_small :
    smallFirmware.Sound twoProfiles ∧
      Throughout (smallFirmware.profileStep ⟨2, 5⟩) (smallFirmware.ProfilesKept ⟨2, 5⟩) twoProfiles
        [.setMedia (ascii "0:0:n:1:1:1:0::f"),
          .setRecord (ascii "0:1:1:0:n:7F:1:090000100000:1:10:10:f"),
          .setProfilenumber true (ascii "1"), .delMedia (ascii "0"),
          .setProfilenumber true (ascii "1")] :=
  profiles_kept smallFirmware ⟨2, 5⟩ twoProfiles _ ⟨by decide, by decide, by decide⟩ (by
    refine ⟨?_, ?_, fun _ => by decide, trivial, fun _ => by decide, trivial⟩
    · intro ptr passes source found
      have value : (readMediaSettings smallEventBuild smallMedia
          (parametersOf 8 (ascii "0:0:n:1:1:1:0::f"))).source = some 1 := by decide
      rw [passes.ptr_eq] at found
      cases value.symm.trans found
      decide
    · intro ptr passes
      rw [passes.ptr_eq]
      decide)

/-- A picture of a profile that does not exist can be set. When a record of the second profile is
set in the second slot, the number of profiles can be lowered to 1. -/
theorem profile_missing :
    ¬Throughout (smallFirmware.profileStep ⟨2, 5⟩) (smallFirmware.ProfilesKept ⟨2, 5⟩) twoProfiles
      [.setMedia (ascii "0:0:n:3:1:1:0::f")] ∧
    ¬Throughout (smallFirmware.profileStep ⟨2, 5⟩) (smallFirmware.ProfilesKept ⟨2, 5⟩) twoProfiles
      [.setRecord (ascii "1:1:1:1:n:7F:1:090000100000:1:10:10:f"),
        .setProfilenumber true (ascii "1")] := by
  constructor
  · intro run
    have bound := run.1.sound.sources 3 (.inl ⟨0, by decide, by decide⟩)
    exact absurd bound (by decide)
  · intro run
    have bound := run.2.1.sound.sources 1 (.inr ⟨1, by decide, by decide, by decide⟩)
    exact absurd bound (by decide)

end BoaIpcam.Events
