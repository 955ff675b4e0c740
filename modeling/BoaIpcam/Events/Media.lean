import BoaIpcam.Events.Command

/-!
# Event media

`set_event_media` and `del_event_media`. A medium is a picture, a video or the log. The source of
both is a profile; the test on the number of profiles stands inside the test on `MAX_E2G_SOURCE`,
and for a video both look at the source of the picture.

The members `pic`, `video` and `log` of `EVENT_2G_MEDIA` are declared in a header outside the
source. What the members of one of them read when those of another were assigned is a parameter,
so that they may share memory or not.
-/
namespace BoaIpcam.Events

open FlatTables

/-- The parameters of `set_event_media`, `EM_*`. -/
inductive MediaParameter where
  | type | name | source | pre | post | suffix | size | fname
deriving DecidableEq, Repr

/-- A picture. -/
structure Pic where
  /-- The profile. -/
  source : Nat
  /-- The pictures before the event. -/
  preEvent : Nat
  /-- The pictures behind it. -/
  postEvent : Nat
  /-- What is put behind the name. -/
  filenameSuffix : Nat
  /-- The name of the files. -/
  filename : List UInt8

/-- A video. -/
structure Video where
  /-- The profile. -/
  source : Nat
  /-- The greatest size. -/
  maxsize : Nat
  /-- The seconds before the event. -/
  preEvent : Nat
  /-- The seconds of the video. -/
  duration : Nat
  /-- What is put behind the name. -/
  filenameSuffix : Nat
  /-- The name of the files. -/
  filename : List UInt8

/-- The constants of the commands for media. -/
structure MediaValues where
  /-- `E2G_MEDIA_PARA_NUM`. -/
  paraNum : Nat
  /-- Where each parameter stands. -/
  position : MediaParameter → Nat
  /-- The name stands before the source. -/
  ordered : position .name < position .source
  /-- `EMEDIA_TYPE_*`. -/
  typePic : UInt16
  /-- The type of videos. -/
  typeVideo : UInt16
  /-- The type of logs. -/
  typeLog : UInt16
  /-- The types are different. -/
  types_ne : [typePic, typeVideo, typeLog].Nodup
  /-- `MAX_E2G_SOURCE`. -/
  maxSource : Nat
  /-- `MAX_E2G_PIC_PRE`. -/
  maxPicPre : Nat
  /-- `MAX_E2G_PIC_POST`. -/
  maxPicPost : Nat
  /-- `MAX_E2G_SUFFIX`. -/
  maxSuffix : Nat
  /-- `MAX_E2G_VID_PRE`. -/
  maxVidPre : Nat
  /-- `MAX_E2G_VID_DUR`. -/
  maxVidDur : Nat
  /-- `MAX_E2G_VID_FILESIZE`. -/
  maxVidFilesize : Nat
  /-- What the structure holds before the parameters are read, from `E2G_BASIC_EVENT_DEFAULT` and
  `EMEDIA_PIC_DEFAULT`. -/
  enable : Nat
  /-- The picture that the stack holds. -/
  pic : Pic
  /-- The video that it holds. -/
  video : Video
  /-- The name of a log that it holds. -/
  logFilename : List UInt8
  /-- `pic` when `video` was assigned. -/
  picOf : Video → Pic
  /-- `video` when `pic` was assigned. -/
  videoOf : Pic → Video
  /-- `log` when `pic` was assigned. -/
  logOfPic : Pic → List UInt8
  /-- `log` when `video` was assigned. -/
  logOfVideo : Video → List UInt8

/-- What is read behind the type. A type that is not known keeps its number. -/
inductive MediaSettings where
  | pic (pic : Pic)
  | video (video : Video)
  | log
  | unknown (type : Nat)

/-- The structure `EVENT_2G_MEDIA`. -/
structure Media where
  /-- The number of the slot. -/
  id : Nat
  /-- The name. -/
  name : List UInt8
  /-- The settings of its type. -/
  settings : MediaSettings

section Handlers

variable (build : Build) (values : MediaValues)

/-- `atoi` of a parameter in a variable with a number of bits. -/
def mediaNumber (ptr : List (List UInt8)) (bits : Nat) (parameter : MediaParameter) : Nat :=
  narrow bits (atoi (behind ptr (values.position parameter)))

/-- The name of the files, the rest of the text. -/
def mediaFilename (ptr : List (List UInt8)) : List UInt8 :=
  behind ptr (values.position .fname)

/-- The parameters of a picture. -/
def readPic (ptr : List (List UInt8)) : Pic where
  source := mediaNumber values ptr 8 .source
  preEvent := mediaNumber values ptr 16 .pre
  postEvent := mediaNumber values ptr 16 .post
  filenameSuffix := mediaNumber values ptr 8 .suffix
  filename := (mediaFilename values ptr).take build.fileNameLen

/-- The parameters of a video; the suffix is not one of them. -/
def readVideo (ptr : List (List UInt8)) : Video where
  source := mediaNumber values ptr 8 .source
  maxsize := mediaNumber values ptr 32 .size
  preEvent := mediaNumber values ptr 16 .pre
  duration := mediaNumber values ptr 8 .post
  filenameSuffix := values.video.filenameSuffix
  filename := (mediaFilename values ptr).take build.fileNameLen

/-- The parameters of the type that is asked for. -/
def readMediaSettings (ptr : List (List UInt8)) : MediaSettings :=
  let type := mediaNumber values ptr 16 .type
  if type = 0 then .pic (readPic build values ptr)
  else if type = 1 then .video (readVideo build values ptr)
  else if type = 2 then .log
  else .unknown type

/-- The parameters of a medium. -/
def readMedia (text : List UInt8) (ptr : List (List UInt8)) : Media where
  id := slotOf text
  name := between ptr (build.nameSize - 1) (values.position .name) (values.position .source)
  settings := readMediaSettings build values ptr

/-- The test on a source. Both ends of the inner test leave the loop. -/
def sourceRefused (info : SysInfo) (source : Nat) : Bool :=
  if values.maxSource < source then
    if build.supportProfileNumber ∧
        build.word (info.ipcam build.maxWebProfileNum) - 1 < source then true
    else true
  else false

/-- `media.pic.source` when only the source of the video was assigned. -/
def MediaValues.picSourceOf (values : MediaValues) (video : Video) : Nat :=
  (values.picOf { values.video with source := video.source }).source

/-- The tests on the parameters of a type. -/
def mediaSettingsTests (info : SysInfo) (ptr : List (List UInt8)) : MediaSettings → List Test
  | .pic pic =>
    [⟨sourceRefused build values info pic.source, .wrong⟩,
      ⟨values.maxPicPre < pic.preEvent, .wrong⟩, ⟨values.maxPicPost < pic.postEvent, .wrong⟩,
      ⟨values.maxSuffix < pic.filenameSuffix, .wrong⟩,
      ⟨build.special (mediaFilename values ptr), .wrong⟩]
  | .video video =>
    [⟨sourceRefused build values info (values.picSourceOf video), .wrong⟩,
      ⟨values.maxVidPre < video.preEvent, .wrong⟩, ⟨values.maxVidDur < video.duration, .wrong⟩,
      ⟨values.maxVidFilesize < video.maxsize, .wrong⟩,
      ⟨build.special (mediaFilename values ptr), .wrong⟩]
  | .log => []
  | .unknown _ => [⟨true, .ng []⟩]

/-- The tests of `set_event_media`, in their order. -/
def mediaTests (info : SysInfo) (ptr : List (List UInt8)) (media : Media) : List Test :=
  [⟨build.layout.size .media ≤ media.id, .wrong⟩, ⟨media.name = [], .wrong⟩,
    ⟨build.special media.name, .wrong⟩] ++
    mediaSettingsTests build values info ptr media.settings

/-- The type that is stored. -/
def MediaSettings.type (values : MediaValues) : MediaSettings → Nat
  | .pic _ => values.typePic.toNat
  | .video _ => values.typeVideo.toNat
  | .log => values.typeLog.toNat
  | .unknown type => type

/-- The members of `pic` that are stored. -/
def MediaSettings.picMembers (values : MediaValues) : MediaSettings → Pic
  | .pic picture => picture
  | .video film => values.picOf film
  | .log => values.pic
  | .unknown _ => values.pic

/-- The members of `video` that are stored. -/
def MediaSettings.videoMembers (values : MediaValues) : MediaSettings → Video
  | .pic picture => values.videoOf picture
  | .video film => film
  | .log => values.video
  | .unknown _ => values.video

/-- The member of `log` that is stored. -/
def MediaSettings.logMember (values : MediaValues) : MediaSettings → List UInt8
  | .pic picture => values.logOfPic picture
  | .video film => values.logOfVideo film
  | .log => values.logFilename
  | .unknown _ => values.logFilename

/-- The entries of a medium that are written. -/
def mediaWrites (media : Media) : List (MediaField × Datum) :=
  let pic := media.settings.picMembers values
  let video := media.settings.videoMembers values
  [(.valid, .num 1), (.enable, .num values.enable), (.id, .num media.id),
    (.type, .num (media.settings.type values)), (.name, .text media.name),
    (.picSource, .num pic.source), (.picPreEvent, .num pic.preEvent),
    (.picPostEvent, .num pic.postEvent), (.picFilenameSuffix, .num pic.filenameSuffix),
    (.picFilename, .text pic.filename),
    (.videoSource, .num video.source), (.videoMaxsize, .num video.maxsize),
    (.videoPreEvent, .num video.preEvent), (.videoDuration, .num video.duration),
    (.videoFilenameSuffix, .num video.filenameSuffix), (.videoFilename, .text video.filename),
    (.logFilename, .text (media.settings.logMember values))]

/-- `set_event_media`. -/
def setEventMedia (info : SysInfo) (text : List UInt8) : Outcome :=
  command values.paraNum text
    (fun ptr => mediaTests build values info ptr (readMedia build values text ptr))
    fun ptr => ⟨build.layout.slotWrites .media (slotOf text)
      (mediaWrites values (readMedia build values text ptr)), [.done]⟩

/-- The entries that `del_event_media` resets. -/
def mediaResets : List MediaField :=
  [.valid, .enable, .id, .type, .name,
    .picSource, .picPreEvent, .picPostEvent, .picFilenameSuffix, .picFilename,
    .videoSource, .videoMaxsize, .videoPreEvent, .videoDuration, .videoFilenameSuffix,
    .videoFilename,
    .logFilename]

/-- `del_event_media`. -/
def delEventMedia (text : List UInt8) : Outcome := deleteSlot build .media mediaResets text

end Handlers

/-! ## The limits -/

section Limits

variable {build : Build} {values : MediaValues} {info : SysInfo} {ptr : List (List UInt8)}
  {media : Media}

/-- What `set_event_media` tests of an entry that belongs to the type. -/
def mediaLimit (build : Build) (values : MediaValues) : MediaSettings → MediaField → Datum → Prop
  | _, .valid, datum => datum.Is (· = 1)
  | _, .id, datum => datum.Is fun id => 0 ≤ id ∧ id < build.layout.size .media
  | _, .type, datum => datum.Is fun type =>
      type = values.typePic.toNat ∨ type = values.typeVideo.toNat ∨ type = values.typeLog.toNat
  | _, .name, datum => datum.IsText fun name => name ≠ [] ∧ build.special name = false
  | .pic _, .picSource, datum => datum.Is (· ≤ values.maxSource)
  | .pic _, .picPreEvent, datum => datum.Is (· ≤ values.maxPicPre)
  | .pic _, .picPostEvent, datum => datum.Is (· ≤ values.maxPicPost)
  | .pic _, .picFilenameSuffix, datum => datum.Is (· ≤ values.maxSuffix)
  | .pic _, .picFilename, datum => datum.IsText build.Filename
  | .video _, .videoSource, datum => datum.Is (· ≤ values.maxSource)
  | .video _, .videoPreEvent, datum => datum.Is (· ≤ values.maxVidPre)
  | .video _, .videoDuration, datum => datum.Is (· ≤ values.maxVidDur)
  | .video _, .videoMaxsize, datum => datum.Is (· ≤ values.maxVidFilesize)
  | .video _, .videoFilename, datum => datum.IsText build.Filename
  | _, _, _ => True

/-- The source of a video is inside the limit for sources. -/
def VideoSourceFits (values : MediaValues) : MediaSettings → Prop
  | .video video => video.source ≤ values.maxSource
  | _ => True

/-- The tests of `set_event_media` answer with refusals. -/
theorem mediaTests_refuse : ∀ test ∈ mediaTests build values info ptr media,
    test.answer.Refuses := by
  have wrong : Line.wrong.Refuses := .inl rfl
  have plain : (Line.ng []).Refuses := .inr (.inr (.inr rfl))
  cases settings : media.settings <;>
    simp [mediaTests, mediaSettingsTests, settings, wrong, plain]

/-- The test on a source is the one on the limit. -/
theorem sourceRefused_eq (source : Nat) :
    sourceRefused build values info source = decide (values.maxSource < source) := by
  unfold sourceRefused
  by_cases above : values.maxSource < source
  · rw [if_pos above, ite_self, decide_eq_true above]
  · rw [if_neg above, decide_eq_false above]

/-- The settings of a type, by the number of the type. -/
theorem readMediaSettings_cases (build : Build) (values : MediaValues)
    (ptr : List (List UInt8)) :
    readMediaSettings build values ptr = .pic (readPic build values ptr) ∨
      readMediaSettings build values ptr = .video (readVideo build values ptr) ∨
      readMediaSettings build values ptr = .log ∨
      ∃ type, readMediaSettings build values ptr = .unknown type := by
  unfold readMediaSettings
  simp only
  split
  · exact .inl rfl
  · split
    · exact .inr (.inl rfl)
    · split
      · exact .inr (.inr (.inl rfl))
      · exact .inr (.inr (.inr ⟨_, rfl⟩))

/-- What is written of the type keeps the limits, but for the source of a video. -/
theorem mediaWrites_limit {text : List UInt8}
    (passed : ∀ test ∈ mediaTests build values info ptr (readMedia build values text ptr),
      test.fails = false) :
    (∀ write ∈ mediaWrites values (readMedia build values text ptr),
        mediaLimit build values (readMediaSettings build values ptr) write.1 write.2) ↔
      VideoSourceFits values (readMediaSettings build values ptr) := by
  have both := List.forall_mem_append.mp passed
  have common : (readMedia build values text ptr).id < build.layout.size .media ∧
      (readMedia build values text ptr).name ≠ [] ∧
      build.special (readMedia build values text ptr).name = false := by simpa using both.1
  have settings : (readMedia build values text ptr).settings = readMediaSettings build values ptr :=
    rfl
  rcases readMediaSettings_cases build values ptr with pic | video | log | ⟨type, unknown⟩
  · have tests : (readPic build values ptr).source ≤ values.maxSource ∧
        (readPic build values ptr).preEvent ≤ values.maxPicPre ∧
        (readPic build values ptr).postEvent ≤ values.maxPicPost ∧
        (readPic build values ptr).filenameSuffix ≤ values.maxSuffix ∧
        build.special (mediaFilename values ptr) = false := by
      simpa [settings, pic, mediaSettingsTests, sourceRefused_eq] using both.2
    have filename : build.Filename (readPic build values ptr).filename :=
      build.filename_take tests.2.2.2.2
    rw [pic]
    simp [mediaWrites, mediaLimit, settings, pic, MediaSettings.type, MediaSettings.picMembers,
      Datum.Is, Datum.IsText, common, tests, filename, VideoSourceFits]
  · have tests : values.picSourceOf (readVideo build values ptr) ≤ values.maxSource ∧
        (readVideo build values ptr).preEvent ≤ values.maxVidPre ∧
        (readVideo build values ptr).duration ≤ values.maxVidDur ∧
        (readVideo build values ptr).maxsize ≤ values.maxVidFilesize ∧
        build.special (mediaFilename values ptr) = false := by
      simpa [settings, video, mediaSettingsTests, sourceRefused_eq] using both.2
    have filename : build.Filename (readVideo build values ptr).filename :=
      build.filename_take tests.2.2.2.2
    rw [video]
    simp [mediaWrites, mediaLimit, settings, video, MediaSettings.type,
      MediaSettings.videoMembers, Datum.Is, Datum.IsText, common, tests, filename,
      VideoSourceFits]
  · rw [log]
    simp [mediaWrites, mediaLimit, settings, log, MediaSettings.type, Datum.Is, Datum.IsText,
      common, VideoSourceFits]
  · have fails := both.2 ⟨true, .ng []⟩ (by simp [settings, unknown, mediaSettingsTests])
    cases fails

/-- `set_event_media` is all or nothing exactly when a text that passes the tests starts with the
number of a slot and the source of a video is inside the limit. -/
theorem setEventMedia_allOrNothing (text : List UInt8) :
    AllOrNothing build .media
        (mediaLimit build values
          (readMediaSettings build values (parametersOf values.paraNum text)))
        text (setEventMedia build values info text) ↔
      ∀ ptr, Passes values.paraNum text
          (fun ptr => mediaTests build values info ptr (readMedia build values text ptr)) ptr →
        SlotFits text ∧ VideoSourceFits values (readMediaSettings build values ptr) := by
  unfold setEventMedia
  rw [allOrNothing_command (fun _ => mediaTests_refuse) (fun _ => by simp [mediaWrites])]
  constructor
  · intro all ptr passes
    obtain ⟨fits, -, inside⟩ := all ptr passes
    rw [← passes.ptr_eq] at inside
    exact ⟨fits, (mediaWrites_limit passes.passed).mp inside⟩
  · intro facts ptr passes
    obtain ⟨fits, source⟩ := facts ptr passes
    rw [← passes.ptr_eq]
    exact ⟨fits, rfl, (mediaWrites_limit passes.passed).mpr source⟩

end Limits

end BoaIpcam.Events
