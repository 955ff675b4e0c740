import BoaIpcam.Config.NipcaVideo

/-!
# What the video request keeps

The request should leave the addressed profile valid and the others as they are, and do nothing when
it refuses the resolution. It does so unless a codec is stored before the resolution is refused, a
frame rate is stored that its check refused, a fall-back resolution is none of the list, or a
profile behind the third changes the first.
-/
namespace BoaIpcam.NipcaVideo

open Video

attribute [local instance] text_lawfulBEq

/-! ## What is asked -/

section Asked

variable (control : Control) (b : Constants) (sys : SysInfo)

/-- The frame rates of the video system. -/
def framerates (videoType : Int) : List (List UInt8) :=
  fullFramerate b videoType :: commonFramerates b

/-- A profile is valid. -/
structure ValidProfile (own : ProfileEntries) : Prop where
  /-- The codec is one of the three. -/
  codec : own.codecname ∈ codecs b
  /-- The resolution is in the list. -/
  resolution : own.resolution ∈ sys.shared.resolutionList
  /-- The frame rate is one of the video system. -/
  framerate : own.framerate ∈ framerates b sys.videoType
  /-- The bit rate is in the list. -/
  bitrate : own.cbrQuality ∈ sys.shared.mp4Bitrate

/-- The profiles that a request may address have an entry in `video_cfg`, and are valid. -/
structure Valid : Prop where
  /-- `video_cfg` has `MAX_WEB_PROFILE_NUM` entries. -/
  inside : profileLimit b sys ≤ b.maxWebProfileNum
  /-- The profiles are valid. -/
  profile : ∀ id : Nat, (id : Int) < profileLimit b sys → ValidProfile b sys (sys.profile id)

/-- The texts that the request compares with are shorter than the arrays. -/
structure Fits : Prop where
  /-- The names of the codecs fit. -/
  codec : ∀ codec ∈ codecs b, codec.length < b.size .codec
  /-- The resolutions fit. -/
  resolution : ∀ resolution ∈ sys.shared.resolutionList, resolution.length < b.size .resolution
  /-- The frame rates fit. -/
  framerate : ∀ rate ∈ framerates b sys.videoType, rate.length < b.size .framerate
  /-- The bit rates fit. -/
  bitrate : ∀ rate ∈ sys.shared.mp4Bitrate, rate.length < b.size .bitrate

/-- `ControlSystemData` stores a frame rate and a bit rate in their entries, and a quality in none
of the codec, the resolution, the frame rate and the bit rate. -/
structure Stores : Prop where
  /-- A frame rate is stored in its entry. -/
  framerate : ∀ id rate own,
    control id .framerate (.text rate) own = { own with framerate := rate }
  /-- A bit rate is stored in its entry. -/
  cbr : ∀ id rate own, control id .cbr (.text rate) own = { own with cbrQuality := rate }
  /-- A quality changes none of the four. -/
  quality : ∀ id data own, (control id .quality data own).codecname = own.codecname ∧
    (control id .quality data own).resolution = own.resolution ∧
    (control id .quality data own).framerate = own.framerate ∧
    (control id .quality data own).cbrQuality = own.cbrQuality

/-- What is asked of a request: the addressed profile is valid, the others are as they were, and so
is the addressed one when its resolution is refused. -/
def Kept (request : Option Arguments) (outcome : Outcome) : Prop :=
  match request.bind (addressed b sys) with
  | none => outcome.sys.profile = sys.profile
  | some id =>
    ValidProfile b sys (outcome.sys.profile id) ∧
      (∀ other ≠ id, outcome.sys.profile other = sys.profile other) ∧
      (outcome.served = .refused → outcome.sys.profile id = sys.profile id)

/-- The codec that is stored: the one asked for when it is one. -/
def storedCodec (own : ProfileEntries) (cfg : VideoCfg) : List UInt8 :=
  if cfg.raw .codec ∈ codecs b then cfg.raw .codec else own.codecname

/-- The frame rate that is handed on. -/
def handedFramerate (cfg : VideoCfg) : List UInt8 := text b (checkedFramerate b sys cfg) .framerate

/-- The mode of the quality behind its check. -/
def checkedQmode (codec : List UInt8) (own : ProfileEntries) (cfg : VideoCfg) : Nat :=
  if Coded b codec ∧ b.videoFixquality < cfg.qmode then own.qmode else cfg.qmode

/-- What is handed on for a profile does not change another one. -/
def Harmless (codec : List UInt8) (own other : ProfileEntries) (cfg : VideoCfg) : Prop :=
  (handedFramerate b sys cfg = own.framerate ∨ handedFramerate b sys cfg = other.framerate) ∧
  (nipcaCheckBitrate b sys.shared codec (cfg.raw .bitrate) (checkedQmode b codec own cfg) = true →
    cfg.raw .bitrate = own.cbrQuality ∨ cfg.raw .bitrate = other.cbrQuality) ∧
  (nipcaCheckQuality b codec (checkedQmode b codec own cfg) cfg.quality = true →
    control 0 .quality (.number cfg.quality b.qualityBytes) other = other)

/-- When a request for a profile does what is asked. When the resolution is refused, the codec must
be stored already or be none. Otherwise the resolution behind its check must be one of the list, or
the one that it is compared with, and the frame rate one of the video system; for a profile behind
the third, what is handed on must not change the first. -/
def Meets (id : Nat) (args : Arguments) : Prop :=
  let own := sys.profile id
  let codec := storedCodec b own (askedCfg b own args)
  match checkedResolution b id (sys.put id { own with codecname := codec })
      ((askedCfg b own args).strcpy .codec codec) with
  | none => codec = own.codecname
  | some cfg =>
    (comparedResolution b own = text b cfg .resolution ∨
      text b cfg .resolution ∈ sys.shared.resolutionList) ∧
    if id < 3 then cfg.raw .framerate ∈ framerates b sys.videoType
    else Harmless control b sys codec own (sys.profile 0) cfg

/-- When a request does what is asked: it addresses no profile or meets the condition for it. -/
def RequestMeets (request : Option Arguments) : Prop :=
  ∀ args ∈ request, ∀ id ∈ addressed b sys args, Meets control b sys id args

end Asked

/-! ## Texts of the arrays -/

section Texts

variable {b : Constants} {cfg : VideoCfg} {field : TextField}

/-- A text that is shorter than the array is read as it is. -/
theorem text_of_short (short : (cfg.raw field).length < b.size field) :
    text b cfg field = cfg.raw field := if_pos short

/-- What is read is a text that fits exactly when it is in the array. -/
theorem text_eq_iff {value : List UInt8} (short : value.length < b.size field) :
    text b cfg field = value ↔ cfg.raw field = value := by
  by_cases fits : (cfg.raw field).length < b.size field
  · rw [text_of_short fits]
  · rw [text, if_neg fits]
    constructor
    · intro same
      have length := congrArg List.length same
      rw [List.length_append] at length
      omega
    · intro same
      rw [same] at fits
      exact absurd short fits

/-- What is read is one of the texts that fit exactly when it is in the array. -/
theorem text_mem_iff {texts : List (List UInt8)} (short : ∀ value ∈ texts, value.length < b.size field) :
    text b cfg field ∈ texts ↔ cfg.raw field ∈ texts := by
  constructor
  · intro member
    have same := (text_eq_iff (short _ member)).mp rfl
    rw [same]
    exact member
  · intro member
    rw [text_of_short (short _ member)]
    exact member

/-- The array after `strcpy`. -/
theorem strcpy_raw (value : List UInt8) (other : TextField) :
    (cfg.strcpy field value).raw other = if other = field then value else cfg.raw other :=
  Function.update_apply _ _ _ _

/-- To copy what is in the array changes nothing. -/
theorem strcpy_same : cfg.strcpy field (cfg.raw field) = cfg := by
  rw [VideoCfg.strcpy, Function.update_eq_self]

end Texts

/-- To replace the entries by themselves changes nothing. -/
theorem put_same (sys : SysInfo) (id : Nat) : sys.put id (sys.profile id) = sys := by
  rw [SysInfo.put, Function.update_eq_self]

/-- The entries that are replaced. -/
theorem put_self (sys : SysInfo) (id : Nat) (own : ProfileEntries) :
    (sys.put id own).profile id = own := Function.update_self _ _ _

/-- The entries of another profile. -/
theorem put_other (sys : SysInfo) {id other : Nat} (own : ProfileEntries) (ne : other ≠ id) :
    (sys.put id own).profile other = sys.profile other := Function.update_of_ne ne _ _

/-! ## What the steps store -/

/-- The four settings that are asked to stay valid. -/
structure Settings where
  /-- The codec. -/
  codec : List UInt8
  /-- The resolution. -/
  resolution : List UInt8
  /-- The frame rate. -/
  framerate : List UInt8
  /-- The bit rate. -/
  bitrate : List UInt8

/-- The settings of a profile. -/
def settings (own : ProfileEntries) : Settings :=
  ⟨own.codecname, own.resolution, own.framerate, own.cbrQuality⟩

/-- The first three profiles have fields of their own. -/
theorem controlled_eq_iff (id : Nat) : controlled id = id ↔ id < 3 := by
  unfold controlled
  split
  · omega
  · split <;> omega

/-- What a step does to a profile and to the one whose fields are used for it. -/
structure Moves (id : Nat) (before after : SysInfo) (set : Settings → Settings)
    (aim : ProfileEntries → ProfileEntries) : Prop where
  /-- The addressed profile, unless its fields are those of the first. -/
  own : settings (after.profile id) =
    if id < 3 then set (settings (before.profile id)) else settings (before.profile id)
  /-- The first profile, when its fields are used. -/
  target : ¬id < 3 → after.profile 0 = aim (before.profile 0)
  /-- Other profiles stay. -/
  others : ∀ other, other ≠ id → (¬id < 3 → other ≠ 0) → after.profile other = before.profile other
  /-- What the profiles share stays. -/
  shared : after.shared = before.shared
  /-- The video system stays. -/
  videoType : after.videoType = before.videoType

section Steps

variable {control : Control} {b : Constants} {id : Nat} {before middle after : SysInfo}
  {set later : Settings → Settings} {aim next : ProfileEntries → ProfileEntries}

/-- A step that changes nothing. -/
theorem Moves.same (id : Nat) (sys : SysInfo) : Moves id sys sys (fun x => x) fun x => x :=
  ⟨(ite_self _).symm, fun _ => rfl, fun _ _ _ => rfl, rfl, rfl⟩

/-- Two steps, one after the other. -/
theorem Moves.trans (first : Moves id before middle set aim)
    (second : Moves id middle after later next) :
    Moves id before after (fun x => later (set x)) fun x => next (aim x) := by
  refine ⟨?_, fun far => ?_, fun other ne apart => ?_, second.shared.trans first.shared,
    second.videoType.trans first.videoType⟩
  · rw [second.own, first.own]
    split <;> rfl
  · rw [second.target far, first.target far]
  · rw [second.others other ne apart, first.others other ne apart]

/-- Entries of the profile that are none of its settings are stored. -/
theorem Moves.of_put {sys : SysInfo} {own : ProfileEntries}
    (same : settings own = settings (sys.profile id)) :
    Moves id sys (sys.put id own) (fun x => x) fun x => x := by
  refine ⟨?_, fun far => ?_, fun other ne _ => ?_, rfl, rfl⟩
  · rw [ite_self, put_self, same]
  · have zero : 0 ≠ id := by omega
    exact put_other _ _ zero
  · exact put_other _ _ ne

/-- A call of `ControlSystemData`. -/
theorem Moves.of_call (sys : SysInfo) (field : Field) (data : Data)
    (sets : ∀ own, settings (control id field data own) = set (settings own)) :
    Moves id sys (callControl control sys id field data) set (control 0 field data) := by
  by_cases near : id < 3
  · have here := (controlled_eq_iff id).mpr near
    refine ⟨?_, fun far => absurd near far, fun other ne _ => ?_, rfl, rfl⟩
    · rw [if_pos near, callControl, here, put_self, sets]
    · rw [callControl, here, put_other _ _ ne]
  · have first : controlled id = 0 := by
      unfold controlled
      rw [if_neg (by omega), if_neg (by omega)]
    have other : id ≠ 0 := by omega
    refine ⟨?_, fun _ => ?_, fun other _ apart => ?_, rfl, rfl⟩
    · rw [if_neg near, callControl, first, put_other _ _ other]
    · rw [callControl, first, put_self]
    · rw [callControl, first, put_other _ _ (apart near)]

variable (id) in
/-- A mode is none of the settings. -/
theorem storeQmode_moves (s : Setup) :
    Moves id s.sys (storeQmode id s).sys (fun x => x) (fun x => x) ∧
      (storeQmode id s).cfg = s.cfg := by
  unfold storeQmode
  dsimp only
  split
  · exact ⟨Moves.of_put rfl, rfl⟩
  · exact ⟨Moves.same id s.sys, rfl⟩

variable (b id) in
/-- The mode behind its check. -/
theorem setupQualitymode_moves (s : Setup) :
    Moves id s.sys (setupQualitymode b id s).sys (fun x => x) (fun x => x) ∧
      (setupQualitymode b id s).cfg.raw = s.cfg.raw ∧
      (setupQualitymode b id s).cfg.quality = s.cfg.quality ∧
      (setupQualitymode b id s).cfg.qmode =
        checkedQmode b (text b s.cfg .codec) (s.sys.profile id) s.cfg := by
  unfold setupQualitymode checkedQmode
  by_cases coded : Coded b (text b s.cfg .codec)
  · rw [if_pos coded]
    by_cases above : b.videoFixquality < s.cfg.qmode
    · rw [if_pos above, if_pos ⟨coded, above⟩]
      exact ⟨Moves.same id s.sys, rfl, rfl, rfl⟩
    · obtain ⟨moves, cfg⟩ := storeQmode_moves id s
      rw [if_neg above, if_neg fun both => above both.2, cfg]
      exact ⟨moves, rfl, rfl, rfl⟩
  · rw [if_neg coded, if_neg fun both => coded both.1]
    exact ⟨Moves.same id s.sys, rfl, rfl, rfl⟩

/-- A step that finds its setting stored changes nothing. -/
theorem Moves.of_stored {sys : SysInfo} (stored : set (settings (sys.profile id)) =
    settings (sys.profile id)) : Moves id sys sys set fun x => x := by
  refine ⟨?_, fun _ => rfl, fun _ _ _ => rfl, rfl, rfl⟩
  rw [stored, ite_self]

variable (b id) in
/-- The frame rate that is handed on is stored, for a profile behind the third in the first one
unless the profile has it. -/
theorem setupFramerate_moves (stores : Stores control) (s : Setup) :
    Moves id s.sys (setupFramerate control b id s).sys
        (fun x => { x with framerate := handedFramerate b s.sys s.cfg })
        (fun x => if (s.sys.profile id).framerate = handedFramerate b s.sys s.cfg then x
          else { x with framerate := handedFramerate b s.sys s.cfg }) ∧
      (setupFramerate control b id s).cfg = checkedFramerate b s.sys s.cfg := by
  unfold setupFramerate
  dsimp only
  rw [← handedFramerate]
  by_cases same : (s.sys.profile id).framerate = handedFramerate b s.sys s.cfg
  · rw [if_neg (not_not_intro same)]
    simp only [if_pos same]
    refine ⟨Moves.of_stored ?_, trivial⟩
    rw [← same]
    rfl
  · rw [if_pos same]
    simp only [if_neg same]
    refine ⟨?_, trivial⟩
    have stored : control 0 .framerate (.text (handedFramerate b s.sys s.cfg)) =
        fun x => { x with framerate := handedFramerate b s.sys s.cfg } :=
      funext fun x => stores.framerate 0 _ x
    rw [← stored]
    refine Moves.of_call s.sys .framerate _ fun own => ?_
    rw [stores.framerate]
    rfl

variable (b id) in
/-- The bit rate is stored when its check finds it, for a profile behind the third in the first one
unless the profile has it. -/
theorem setupBitrate_moves (stores : Stores control) (s : Setup)
    (found : nipcaCheckBitrate b s.sys.shared (text b s.cfg .codec) (text b s.cfg .bitrate)
      s.cfg.qmode = true) :
    Moves id s.sys (setupBitrate control b id s).sys
        (fun x => { x with bitrate := text b s.cfg .bitrate })
        (fun x => if (s.sys.profile id).cbrQuality = text b s.cfg .bitrate then x
          else { x with cbrQuality := text b s.cfg .bitrate }) ∧
      (setupBitrate control b id s).cfg = s.cfg := by
  obtain ⟨moves, cfg⟩ := storeQmode_moves id s
  have rate : ((storeQmode id s).sys.profile id).cbrQuality = (s.sys.profile id).cbrQuality := by
    have own := moves.own
    rw [ite_self] at own
    exact congrArg Settings.bitrate own
  unfold setupBitrate
  rw [if_neg (not_not_intro found)]
  dsimp only
  rw [rate, cfg]
  by_cases same : (s.sys.profile id).cbrQuality = text b s.cfg .bitrate
  · rw [if_neg (not_not_intro same)]
    simp only [if_pos same]
    refine ⟨moves.trans (Moves.of_stored ?_), cfg⟩
    rw [← same, ← rate]
    rfl
  · rw [if_pos same]
    simp only [if_neg same]
    refine ⟨moves.trans ?_, trivial⟩
    have stored : control 0 .cbr (.text (text b s.cfg .bitrate)) =
        fun x => { x with cbrQuality := text b s.cfg .bitrate } :=
      funext fun x => stores.cbr 0 _ x
    rw [← stored]
    refine Moves.of_call _ .cbr _ fun own => ?_
    rw [stores.cbr]
    rfl

/-- A bit rate that the check does not find is not stored. -/
theorem setupBitrate_notFound (s : Setup)
    (missing : ¬nipcaCheckBitrate b s.sys.shared (text b s.cfg .codec) (text b s.cfg .bitrate)
      s.cfg.qmode = true) :
    setupBitrate control b id s =
      { s with cfg := s.cfg.strcpy .bitrate (s.sys.profile id).cbrQuality } := if_pos missing

variable (b id) in
/-- The quality changes no setting; for a profile behind the third it is handed on for the first. -/
theorem setupQuality_moves (stores : Stores control) (s : Setup) :
    Moves id s.sys (setupQuality control b id s).sys (fun x => x)
      fun x => if nipcaCheckQuality b (text b s.cfg .codec) s.cfg.qmode s.cfg.quality = true then
        control 0 .quality (.number s.cfg.quality b.qualityBytes) x else x := by
  unfold setupQuality
  dsimp only
  by_cases found : nipcaCheckQuality b (text b s.cfg .codec) s.cfg.qmode s.cfg.quality = true
  · obtain ⟨moves, cfg⟩ := storeQmode_moves id s
    rw [if_neg (not_not_intro found), cfg]
    simp only [if_pos found]
    refine moves.trans (Moves.of_call _ .quality _ fun own => ?_)
    obtain ⟨codec, resolution, framerate, bitrate⟩ :=
      stores.quality id (.number s.cfg.quality b.qualityBytes) own
    rw [settings, codec, resolution, framerate, bitrate]
    rfl
  · rw [if_pos found]
    simp only [if_neg found]
    split
    · exact Moves.same id s.sys
    · split <;> exact Moves.same id s.sys

variable (b id) in
/-- The frame rate does not touch the mode of the profile. -/
theorem setupFramerate_qmode (stores : Stores control) (s : Setup) :
    ((setupFramerate control b id s).sys.profile id).qmode = (s.sys.profile id).qmode := by
  unfold setupFramerate
  dsimp only
  split
  · by_cases near : controlled id = id
    · rw [callControl, near, put_self, stores.framerate]
    · rw [callControl, put_other _ _ (Ne.symm near)]
  · rfl

variable (b) in
/-- The check of the frame rate changes the frame rate at most. -/
theorem checkedFramerate_keeps (sys : SysInfo) (cfg : VideoCfg) :
    (checkedFramerate b sys cfg).raw .codec = cfg.raw .codec ∧
      (checkedFramerate b sys cfg).raw .bitrate = cfg.raw .bitrate ∧
      (checkedFramerate b sys cfg).qmode = cfg.qmode ∧
      (checkedFramerate b sys cfg).quality = cfg.quality := by
  unfold checkedFramerate
  split
  · exact ⟨strcpy_raw _ _, strcpy_raw _ _, rfl, rfl⟩
  · exact ⟨rfl, rfl, rfl, rfl⟩

/-- The bit rate that is read is found exactly when the one in the array is. -/
theorem nipcaCheckBitrate_text {sys : SysInfo} (fits : Fits b sys) (codec : List UInt8)
    (cfg : VideoCfg) (qmode : Nat) :
    nipcaCheckBitrate b sys.shared codec (text b cfg .bitrate) qmode =
      nipcaCheckBitrate b sys.shared codec (cfg.raw .bitrate) qmode := by
  unfold nipcaCheckBitrate
  simp only [text_mem_iff fits.bitrate]

/-- A bit rate that is found is read as it is in the array. -/
theorem text_of_found {sys : SysInfo} (fits : Fits b sys) {codec : List UInt8} {cfg : VideoCfg}
    {qmode : Nat}
    (found : nipcaCheckBitrate b sys.shared codec (cfg.raw .bitrate) qmode = true) :
    text b cfg .bitrate = cfg.raw .bitrate := by
  have member : cfg.raw .bitrate ∈ sys.shared.mp4Bitrate := (of_decide_eq_true found).2.2
  exact text_of_short (fits.bitrate _ member)

variable (control b id) in
/-- The bit rate changes neither the codec nor the quality that is left to store. -/
theorem setupBitrate_keeps (s : Setup) :
    (setupBitrate control b id s).cfg.raw .codec = s.cfg.raw .codec ∧
      (setupBitrate control b id s).cfg.qmode = s.cfg.qmode ∧
      (setupBitrate control b id s).cfg.quality = s.cfg.quality := by
  have cfg := (storeQmode_moves id s).2
  unfold setupBitrate
  dsimp only
  split
  · exact ⟨strcpy_raw _ _, rfl, rfl⟩
  · split
    · simp only [cfg, and_self]
    · simp only [cfg, and_self]

variable (id) in
/-- The bit rate after its step, whether it is found or not. -/
theorem setupBitrate_stores (stores : Stores control) (s : Setup) {codec : List UInt8}
    (fits : Fits b s.sys) (here : text b s.cfg .codec = codec) :
    let found := nipcaCheckBitrate b s.sys.shared codec (s.cfg.raw .bitrate) s.cfg.qmode = true
    Moves id s.sys (setupBitrate control b id s).sys
      (fun x => if found then { x with bitrate := s.cfg.raw .bitrate } else x)
      (fun x => if found ∧ (s.sys.profile id).cbrQuality ≠ s.cfg.raw .bitrate then
        { x with cbrQuality := s.cfg.raw .bitrate } else x) := by
  intro found
  have checked : nipcaCheckBitrate b s.sys.shared (text b s.cfg .codec) (text b s.cfg .bitrate)
      s.cfg.qmode = nipcaCheckBitrate b s.sys.shared codec (s.cfg.raw .bitrate) s.cfg.qmode := by
    rw [here, nipcaCheckBitrate_text fits]
  by_cases held : found
  · have moves := (setupBitrate_moves b id stores s (checked.trans held)).1
    rw [text_of_found fits held] at moves
    simp only [held, true_and, ne_eq, ite_not]
    exact moves
  · rw [setupBitrate_notFound s (checked ▸ held)]
    simp only [held, false_and, if_false]
    exact Moves.same id s.sys

/-- The texts fit as long as the lists and the video system are the same. -/
theorem Fits.of_shared {sys later : SysInfo} (fits : Fits b sys) (shared : later.shared = sys.shared)
    (videoType : later.videoType = sys.videoType) : Fits b later where
  codec := fits.codec
  resolution := shared ▸ fits.resolution
  framerate := videoType ▸ fits.framerate
  bitrate := shared ▸ fits.bitrate

/-- The mode behind its check depends on the two modes. -/
theorem checkedQmode_congr {codec : List UInt8} {own own' : ProfileEntries} {cfg cfg' : VideoCfg}
    (mode : own'.qmode = own.qmode) (asked : cfg'.qmode = cfg.qmode) :
    checkedQmode b codec own' cfg' = checkedQmode b codec own cfg := by
  rw [checkedQmode, checkedQmode, mode, asked]

variable (id) in
/-- What the settings behind the resolution do. -/
theorem setupRest_moves (stores : Stores control) (s : Setup) (fits : Fits b s.sys)
    (codec : s.cfg.raw .codec ∈ codecs b) :
    let own := s.sys.profile id
    let qmode := checkedQmode b (s.cfg.raw .codec) own s.cfg
    let handed := handedFramerate b s.sys s.cfg
    let found := nipcaCheckBitrate b s.sys.shared (s.cfg.raw .codec) (s.cfg.raw .bitrate) qmode = true
    Moves id s.sys (setupRest control b id s).sys
      (fun x => if found then { x with framerate := handed, bitrate := s.cfg.raw .bitrate }
        else { x with framerate := handed })
      (fun x =>
        let x := if own.framerate = handed then x else { x with framerate := handed }
        let x := if found ∧ own.cbrQuality ≠ s.cfg.raw .bitrate then
          { x with cbrQuality := s.cfg.raw .bitrate } else x
        if nipcaCheckQuality b (s.cfg.raw .codec) qmode s.cfg.quality = true then
          control 0 .quality (.number s.cfg.quality b.qualityBytes) x else x) := by
  intro own qmode handed found
  have short := fits.codec _ codec
  -- what the frame rate leaves
  obtain ⟨framerate, cfg₁⟩ := setupFramerate_moves b id stores s
  obtain ⟨codec₁, bitrate₁, asked₁, quality₁⟩ := checkedFramerate_keeps b s.sys s.cfg
  rw [← cfg₁] at codec₁ bitrate₁ asked₁ quality₁
  have mode₁ := setupFramerate_qmode b id stores s
  have rate₁ : ((setupFramerate control b id s).sys.profile id).cbrQuality = own.cbrQuality := by
    have settings := congrArg Settings.bitrate framerate.own
    split at settings <;> exact settings
  have read₁ : text b (setupFramerate control b id s).cfg .codec = s.cfg.raw .codec := by
    rw [text_of_short (codec₁ ▸ short), codec₁]
  -- what the mode leaves
  obtain ⟨mode, raw₂, quality₂, qmode₂⟩ :=
    setupQualitymode_moves b id (setupFramerate control b id s)
  rw [read₁, checkedQmode_congr mode₁ asked₁] at qmode₂
  have rate₂ := congrArg Settings.bitrate mode.own
  rw [ite_self] at rate₂
  have stored₂ : ((setupQualitymode b id (setupFramerate control b id s)).sys.profile id).cbrQuality =
      own.cbrQuality := rate₂.trans rate₁
  have read₂ : text b (setupQualitymode b id (setupFramerate control b id s)).cfg .codec =
      s.cfg.raw .codec := by
    rw [text_of_short (raw₂ ▸ codec₁ ▸ short), raw₂, codec₁]
  have shared₂ := mode.shared.trans framerate.shared
  have fits₂ := fits.of_shared shared₂ (mode.videoType.trans framerate.videoType)
  -- what the bit rate leaves
  have bitrate := setupBitrate_stores id stores _ fits₂ read₂
  obtain ⟨codec₃, qmode₃, quality₃⟩ :=
    setupBitrate_keeps control b id (setupQualitymode b id (setupFramerate control b id s))
  have read₃ : text b (setupBitrate control b id
      (setupQualitymode b id (setupFramerate control b id s))).cfg .codec = s.cfg.raw .codec := by
    have raw₃ := codec₃.trans (raw₂ ▸ codec₁)
    rw [text_of_short (raw₃ ▸ short), raw₃]
  have quality := setupQuality_moves b id stores
    (setupBitrate control b id (setupQualitymode b id (setupFramerate control b id s)))
  dsimp only at bitrate
  rw [shared₂, raw₂, bitrate₁, qmode₂] at bitrate
  rw [read₃, qmode₃, qmode₂, quality₃, quality₂, quality₁] at quality
  rw [stored₂] at bitrate
  exact framerate.trans (mode.trans (bitrate.trans quality))

end Steps

/-! ## The codec and the resolution -/

section Front

variable {b : Constants} {id : Nat}

/-- To replace the entries twice is to replace them by the later ones. -/
theorem put_put (sys : SysInfo) (id : Nat) (own later : ProfileEntries) :
    (sys.put id own).put id later = sys.put id later := by
  rw [SysInfo.put, SysInfo.put, SysInfo.put, Function.update_idem]

/-- A stored codec is one of the codecs. -/
theorem storedCodec_mem {own : ProfileEntries} (coded : own.codecname ∈ codecs b) (cfg : VideoCfg) :
    storedCodec b own cfg ∈ codecs b := by
  unfold storedCodec
  split
  · assumption
  · exact coded

/-- The codec that is stored. -/
theorem setupCodec_eq {sys : SysInfo} (fits : Fits b sys) (cfg : VideoCfg) (change : Bool) :
    let own := sys.profile id
    let codec := storedCodec b own cfg
    (setupCodec b id ⟨sys, cfg, change⟩).sys = sys.put id { own with codecname := codec } ∧
      (setupCodec b id ⟨sys, cfg, change⟩).cfg = cfg.strcpy .codec codec := by
  intro own codec
  have member : text b cfg .codec ∈ codecs b ↔ cfg.raw .codec ∈ codecs b := text_mem_iff fits.codec
  have stays : { own with codecname := own.codecname } = own := rfl
  unfold setupCodec nipcaCheckCodec
  dsimp only
  by_cases known : cfg.raw .codec ∈ codecs b
  · have stored : codec = cfg.raw .codec := if_pos known
    have read : text b cfg .codec = cfg.raw .codec := text_of_short (fits.codec _ known)
    rw [if_neg (by rw [decide_eq_true (member.mpr known)]; exact not_not_intro rfl), read, stored,
      strcpy_same]
    by_cases same : own.codecname = cfg.raw .codec
    · rw [if_neg (not_not_intro same), ← same, stays, put_same]
      exact ⟨rfl, rfl⟩
    · rw [if_pos same]
      exact ⟨rfl, rfl⟩
  · have stored : codec = own.codecname := if_neg known
    rw [if_pos (by rw [decide_eq_false (mt member.mp known)]; exact Bool.false_ne_true), stored, stays,
      put_same]
    exact ⟨rfl, rfl⟩

/-- The check of the resolution changes the resolution at most. -/
theorem checkedResolution_keeps {sys : SysInfo} {cfg checked : VideoCfg}
    (found : checkedResolution b id sys cfg = some checked) :
    checked.raw .codec = cfg.raw .codec := by
  unfold checkedResolution at found
  split at found
  · rw [← Option.some.inj found]
  · rw [← Option.some.inj found]
    exact strcpy_raw _ _
  · rw [← Option.some.inj found]
    exact strcpy_raw _ _
  · cases found

/-- The resolution that is stored. -/
theorem setupResolution_eq (s : Setup) (cfg : VideoCfg) :
    ∃ later, (setupResolution b id s cfg).sys = s.sys.put id later ∧
      (setupResolution b id s cfg).cfg = cfg ∧ later.qmode = (s.sys.profile id).qmode ∧
      settings later = { settings (s.sys.profile id) with
        resolution := if comparedResolution b (s.sys.profile id) = text b cfg .resolution then
          (s.sys.profile id).resolution else text b cfg .resolution } := by
  unfold setupResolution
  dsimp only
  by_cases same : comparedResolution b (s.sys.profile id) = text b cfg .resolution
  · rw [if_neg (not_not_intro same), if_pos same]
    exact ⟨s.sys.profile id, (put_same _ _).symm, rfl, rfl, rfl⟩
  · rw [if_pos same, if_neg same]
    exact ⟨_, rfl, rfl, rfl, rfl⟩

end Front

/-! ## The request -/

section Request

variable {control : Control} {b : Constants} {sys : SysInfo} {id : Nat}

/-- When what is handed on leaves the entries it is handed on for as they are. -/
theorem aims_iff (stores : Stores control) {first own : ProfileEntries} {handed rate : List UInt8}
    {found sent : Prop} [Decidable found] [Decidable sent] (data : Data) :
    (let x := if own.framerate = handed then first else { first with framerate := handed }
      let x := if found ∧ own.cbrQuality ≠ rate then { x with cbrQuality := rate } else x
      if sent then control 0 .quality data x else x) = first ↔
    (handed = own.framerate ∨ handed = first.framerate) ∧
      (found → rate = own.cbrQuality ∨ rate = first.cbrQuality) ∧
      (sent → control 0 .quality data first = first) := by
  dsimp only
  have handedStays : handed = own.framerate ∨ handed = first.framerate →
      (if own.framerate = handed then first else { first with framerate := handed }) = first := by
    rintro (same | same)
    · rw [if_pos same.symm]
    · rw [same]
      exact ite_self _
  have rateStays : (found → rate = own.cbrQuality ∨ rate = first.cbrQuality) →
      (if found ∧ own.cbrQuality ≠ rate then { first with cbrQuality := rate } else first) = first := by
    intro stays
    by_cases held : found
    · rcases stays held with same | same
      · rw [if_neg fun both => both.2 same.symm]
      · rw [same]
        exact ite_self _
    · rw [if_neg fun both => held both.1]
  constructor
  · intro same
    have reads (x : ProfileEntries) :
        (if sent then control 0 .quality data x else x).framerate = x.framerate ∧
          (if sent then control 0 .quality data x else x).cbrQuality = x.cbrQuality := by
      split
      · exact ⟨(stores.quality 0 data x).2.2.1, (stores.quality 0 data x).2.2.2⟩
      · exact ⟨rfl, rfl⟩
    have framerate : handed = own.framerate ∨ handed = first.framerate := by
      have rates := congrArg ProfileEntries.framerate same
      rw [(reads _).1] at rates
      by_cases stored : own.framerate = handed
      · exact .inl stored.symm
      · rw [if_neg stored] at rates
        split at rates <;> exact .inr rates
    rw [handedStays framerate] at same
    have bitrate : found → rate = own.cbrQuality ∨ rate = first.cbrQuality := by
      intro held
      have rates := congrArg ProfileEntries.cbrQuality same
      rw [(reads _).2] at rates
      by_cases stored : own.cbrQuality = rate
      · exact .inl stored.symm
      · rw [if_pos ⟨held, stored⟩] at rates
        exact .inr rates
    rw [rateStays bitrate] at same
    exact ⟨framerate, bitrate, fun held => (if_pos held).symm.trans same⟩
  · rintro ⟨framerate, bitrate, quality⟩
    rw [handedStays framerate, rateStays bitrate]
    split
    · exact quality ‹_›
    · rfl

/-- A frame rate that the check replaces is the highest of the video system. -/
theorem replaced_full {videoType : Int} {resolution framerate : List UInt8}
    (replaced : nipcaCheckFramerate b videoType resolution framerate = .framerate) :
    framerate = fullFramerate b videoType := by
  unfold nipcaCheckFramerate at replaced
  split at replaced
  · cases replaced
  · split at replaced
    · cases replaced
    · rename_i full
      exact not_not.mp full

/-- The frame rate that is handed on is one of the video system exactly when the one in the array
is. -/
theorem handedFramerate_mem_iff (fits : Fits b sys) (cfg : VideoCfg) :
    handedFramerate b sys cfg ∈ framerates b sys.videoType ↔
      cfg.raw .framerate ∈ framerates b sys.videoType := by
  have lower : b.framerate15fps ∈ framerates b sys.videoType :=
    List.mem_cons_of_mem _ List.mem_cons_self
  unfold handedFramerate checkedFramerate
  split
  · rename_i replaced
    have asked : text b cfg .framerate ∈ framerates b sys.videoType :=
      replaced_full replaced ▸ List.mem_cons_self
    have copied : (cfg.strcpy .framerate b.framerate15fps).raw .framerate = b.framerate15fps :=
      strcpy_raw _ _
    rw [← text_mem_iff fits.framerate, text_mem_iff fits.framerate, copied]
    exact iff_of_true lower asked
  · exact text_mem_iff fits.framerate

/-- The addressed profile is one that may be addressed. -/
theorem addressed_valid (valid : Valid b sys) {args : Arguments}
    (here : addressed b sys args = some id) : ValidProfile b sys (sys.profile id) := by
  unfold addressed at here
  split at here
  · cases here
  · apply valid.profile
    have index := Option.some.inj here
    omega

/-- A profile is valid exactly when its settings are. -/
theorem validProfile_iff {own : ProfileEntries} : ValidProfile b sys own ↔
    (settings own).codec ∈ codecs b ∧ (settings own).resolution ∈ sys.shared.resolutionList ∧
      (settings own).framerate ∈ framerates b sys.videoType ∧
      (settings own).bitrate ∈ sys.shared.mp4Bitrate :=
  ⟨fun ⟨codec, resolution, framerate, bitrate⟩ => ⟨codec, resolution, framerate, bitrate⟩,
    fun ⟨codec, resolution, framerate, bitrate⟩ => ⟨codec, resolution, framerate, bitrate⟩⟩

/-- The profiles after a request that refuses the resolution. -/
theorem refused_iff (valid : ValidProfile b sys (sys.profile id)) (cfg : VideoCfg) :
    let own := sys.profile id
    let codec := storedCodec b own cfg
    let after := sys.put id { own with codecname := codec }
    (ValidProfile b sys (after.profile id) ∧
      (∀ other ≠ id, after.profile other = sys.profile other) ∧ after.profile id = own) ↔
    codec = own.codecname := by
  intro own codec after
  have here : after.profile id = { own with codecname := codec } := put_self _ _ _
  rw [here]
  constructor
  · rintro ⟨-, -, same⟩
    exact congrArg ProfileEntries.codecname same
  · intro same
    rw [same]
    exact ⟨valid, fun other ne => put_other _ _ ne, rfl⟩

/-- A resolution of a list, or a text in its place, is in the list. -/
theorem keptOr_mem_iff {resolutions : List (List UInt8)} {old new : List UInt8}
    (held : old ∈ resolutions) (kept : Prop) [Decidable kept] :
    (if kept then old else new) ∈ resolutions ↔ kept ∨ new ∈ resolutions := by
  split_ifs with same
  · exact iff_of_true held (.inl same)
  · exact (or_iff_right same).symm

/-- For a profile that shares the fields of the first, only that one may change besides it. -/
theorem Moves.others_iff {before after : SysInfo} {set : Settings → Settings}
    {aim : ProfileEntries → ProfileEntries} (moves : Moves id before after set aim)
    (far : ¬id < 3) (same : ∀ other ≠ id, before.profile other = sys.profile other) :
    (∀ other ≠ id, after.profile other = sys.profile other) ↔
      after.profile 0 = sys.profile 0 := by
  have zero : 0 ≠ id := by omega
  constructor
  · intro others
    exact others 0 zero
  · intro first other ne
    by_cases here : other = 0
    · rw [here, first]
    · exact (moves.others other ne fun _ => here).trans (same other ne)

/-- The profiles after a request that stores its settings. -/
theorem stored_iff (fits : Fits b sys) (stores : Stores control)
    (valid : ValidProfile b sys (sys.profile id)) {s : Setup} {cfg : VideoCfg} {codec : List UInt8}
    (front : s.sys = sys.put id { sys.profile id with codecname := codec })
    (coded : codec ∈ codecs b) (carried : cfg.raw .codec = codec) :
    let own := sys.profile id
    let after := (setupRest control b id (setupResolution b id s cfg)).sys
    (ValidProfile b sys (after.profile id) ∧
      ∀ other ≠ id, after.profile other = sys.profile other) ↔
    (comparedResolution b own = text b cfg .resolution ∨
        text b cfg .resolution ∈ sys.shared.resolutionList) ∧
      if id < 3 then cfg.raw .framerate ∈ framerates b sys.videoType
      else Harmless control b sys codec own (sys.profile 0) cfg := by
  intro own after
  obtain ⟨later, sys', cfg', mode, sets⟩ := setupResolution_eq s cfg
  have own' : s.sys.profile id = { own with codecname := codec } := by rw [front, put_self]
  have whole : (setupResolution b id s cfg).sys = sys.put id later := by rw [sys', front, put_put]
  rw [own'] at mode sets
  have asked : checkedQmode b codec later cfg = checkedQmode b codec own cfg :=
    checkedQmode_congr mode rfl
  have fits' : Fits b (setupResolution b id s cfg).sys := by
    rw [whole]
    exact fits.of_shared rfl rfl
  have moves := setupRest_moves id stores _ fits' (by rw [cfg', carried]; exact coded)
  dsimp only at moves
  rw [cfg', carried, whole, put_self, asked] at moves
  have resolution : (settings later).resolution ∈ sys.shared.resolutionList ↔
      comparedResolution b own = text b cfg .resolution ∨
        text b cfg .resolution ∈ sys.shared.resolutionList := by
    rw [congrArg Settings.resolution sets]
    exact keptOr_mem_iff valid.resolution _
  have codec' : (settings later).codec = codec := congrArg Settings.codec sets
  have framerate' : (settings later).framerate = own.framerate := congrArg Settings.framerate sets
  have bitrate' : (settings later).bitrate = own.cbrQuality := congrArg Settings.bitrate sets
  have settled := moves.own
  rw [put_self] at settled
  by_cases near : id < 3
  · rw [if_pos near] at settled ⊢
    have apart (other : Nat) (ne : other ≠ id) : after.profile other = sys.profile other :=
      (moves.others other ne (absurd near)).trans (put_other _ _ ne)
    have rate : (settings (after.profile id)).bitrate ∈ sys.shared.mp4Bitrate := by
      rw [settled]
      split
      · rename_i found
        exact (of_decide_eq_true found).2.2
      · rw [bitrate']
        exact valid.bitrate
    have rest : (settings (after.profile id)).codec = codec ∧
        (settings (after.profile id)).resolution = (settings later).resolution ∧
        (settings (after.profile id)).framerate = handedFramerate b sys cfg := by
      rw [settled]
      split <;> exact ⟨codec', rfl, rfl⟩
    rw [validProfile_iff, rest.1, rest.2.1, rest.2.2, resolution, handedFramerate_mem_iff fits]
    constructor
    · rintro ⟨⟨-, held, framerate, -⟩, -⟩
      exact ⟨held, framerate⟩
    · rintro ⟨held, framerate⟩
      exact ⟨⟨coded, held, framerate, rate⟩, apart⟩
  · rw [if_neg near] at settled ⊢
    have zero : 0 ≠ id := by omega
    have first := moves.target near
    rw [put_other _ _ zero] at first
    have harmless : after.profile 0 = sys.profile 0 ↔
        Harmless control b sys codec own (sys.profile 0) cfg := by
      have rates : later.framerate = own.framerate ∧ later.cbrQuality = own.cbrQuality :=
        ⟨framerate', bitrate'⟩
      rw [first, rates.1, rates.2]
      exact aims_iff stores _
    have apart : (∀ other ≠ id, after.profile other = sys.profile other) ↔
        after.profile 0 = sys.profile 0 :=
      moves.others_iff near fun other ne => put_other _ _ ne
    rw [validProfile_iff, settled, codec', framerate', bitrate', resolution, apart, harmless]
    constructor
    · rintro ⟨⟨-, held, -, -⟩, kept⟩
      exact ⟨held, kept⟩
    · rintro ⟨held, kept⟩
      exact ⟨⟨coded, held, valid.framerate, valid.bitrate⟩, kept⟩

/-- What is asked of a request for a profile. -/
theorem kept_iff {args : Arguments} (here : addressed b sys args = some id) (outcome : Outcome) :
    Kept b sys (some args) outcome ↔ ValidProfile b sys (outcome.sys.profile id) ∧
      (∀ other ≠ id, outcome.sys.profile other = sys.profile other) ∧
      (outcome.served = .refused → outcome.sys.profile id = sys.profile id) := by
  simp only [Kept, Option.bind_some, here]

/-- A request for a profile does what is asked exactly when it meets the condition. -/
theorem uriVideo_iff (fits : Fits b sys) (stores : Stores control) (valid : Valid b sys)
    {args : Arguments} (here : addressed b sys args = some id) :
    Kept b sys (some args) (uriVideo control b sys (some args)) ↔ Meets control b sys id args := by
  have own := addressed_valid valid here
  obtain ⟨front, carried⟩ := setupCodec_eq fits (askedCfg b (sys.profile id) args) false
  have coded := storedCodec_mem own.codec (askedCfg b (sys.profile id) args)
  rw [kept_iff here]
  cases checked : checkedResolution b id
      (setupCodec b id ⟨sys, askedCfg b (sys.profile id) args, false⟩).sys
      (setupCodec b id ⟨sys, askedCfg b (sys.profile id) args, false⟩).cfg with
  | none =>
    have outcome : uriVideo control b sys (some args) =
        finish (setupCodec b id ⟨sys, askedCfg b (sys.profile id) args, false⟩) .refused := by
      simp only [uriVideo, here, checked]
    rw [front, carried] at checked
    simp only [outcome, finish, front, true_implies, Meets, checked]
    exact refused_iff own _
  | some cfg =>
    have outcome : uriVideo control b sys (some args) =
        finish (setupRest control b id (setupResolution b id
          (setupCodec b id ⟨sys, askedCfg b (sys.profile id) args, false⟩) cfg)) .done := by
      simp only [uriVideo, here, checked]
    have kept := (checkedResolution_keeps checked).trans (congrArg (·.raw .codec) carried)
    have served : Served.done ≠ .refused := Served.noConfusion
    rw [front, carried] at checked
    simp only [outcome, finish, served, false_implies, and_true, Meets, checked]
    exact stored_iff fits stores own front coded (kept.trans (strcpy_raw _ _))

end Request

/-- A request that addresses no profile leaves them all as they are; any other does what is asked
exactly when it meets the condition. -/
theorem uri_video_kept_iff {control : Control} {b : Constants} {sys : SysInfo} (fits : Fits b sys)
    (stores : Stores control) (valid : Valid b sys) (request : Option Arguments) :
    Kept b sys request (uriVideo control b sys request) ↔ RequestMeets control b sys request := by
  cases request with
  | none => exact iff_of_true rfl fun args unread => absurd unread (Option.not_mem_none args)
  | some args =>
    cases here : addressed b sys args with
    | none =>
      have same : uriVideo control b sys (some args) = ⟨sys, false, .noProfile⟩ := by
        simp only [uriVideo, here]
      refine iff_of_true ?_ fun read member id there => ?_
      · simp only [Kept, Option.bind_some, here, same]
      · rw [← Option.some.inj member, here] at there
        exact absurd there (Option.not_mem_none id)
    | some id =>
      rw [uriVideo_iff fits stores valid here]
      constructor
      · intro meets read member other there
        rw [← Option.some.inj member, here] at there
        rw [← Option.some.inj member, ← Option.some.inj there]
        exact meets
      · intro meets
        exact meets args rfl id here

/-- A quality of 100 fits a byte. -/
theorem plainVideo_small : 100 < 256 := by decide

/-- A build with arrays of 32 bytes. -/
def plainVideo : Constants where
  maxWebProfileNum := 4
  jpegParserName := ascii "JPEG"
  mpeg4ParserName := ascii "MPEG4"
  h264ParserName := ascii "H.264"
  maxProfileQuality := 100
  small := plainVideo_small
  tyco720pOrD2 := false
  tycoOther := false
  useSensorCrop := false
  supportEptz := false
  size _ := 32
  behind _ _ := []
  toQuality := id
  qualityBytes := 4
  videoCbr := 0
  videoFixquality := 1
  supportProfileNumber := false
  resolutionImx036 := false
  maxProfiles := 4
  imgSize2048x1536 := ascii "2048x1536"
  imgSize1600x1200 := ascii "1600x1200"
  imgSize1024x768 := ascii "1024x768"
  framerate30fps := ascii "30"
  framerate25fps := ascii "25"
  framerate15fps := ascii "15"
  framerate7fps := ascii "7"
  framerate4fps := ascii "4"
  framerate1fps := ascii "1"

/-- H.264 of the smaller of two sizes. -/
def plainProfile : ProfileEntries where
  codecname := ascii "H.264"
  resolution := ascii "320x240"
  framerate := ascii "15"
  cbrQuality := ascii "1M"
  fixedQuality := 1
  jpegQuality := 1
  qmode := 0
  qmodeMax := 1
  mpeg4gov := ascii "30"
  mpeg4keyframeinterval := 30
  eptzWindowSize := ascii "320x240"
  profilesize := (320, 240)
  oldProfileSize := (320, 240)
  oldRes := (0, 0)
  oldWin := (0, 0)
  resChange := false

/-- A configuration with that in every profile. -/
def plainSysInfo : SysInfo where
  profile _ := plainProfile
  shared := ⟨4, [ascii "320x240", ascii "640x480"], [ascii "1M", ascii "2M"], [], false⟩
  configMaxWebProfileNum := 4
  videoType := 0

/-- A `ControlSystemData` that stores what it is given. -/
def plainControl : Control
  | _, .framerate, .text rate, own => { own with framerate := rate }
  | _, .cbr, .text rate, own => { own with cbrQuality := rate }
  | _, .quality, .number value _, own => { own with fixedQuality := value.toNat }
  | _, _, _, own => own

/-- It stores what it is given. -/
theorem plainControl_stores : Stores plainControl where
  framerate _ _ _ := rfl
  cbr _ _ _ := rfl
  quality _ data _ := by cases data <;> exact ⟨rfl, rfl, rfl, rfl⟩

/-- The texts fit. -/
theorem plainVideo_fits : Fits plainVideo plainSysInfo where
  codec := by decide
  resolution := by decide
  framerate := by decide
  bitrate := by decide

/-- The profiles are valid. -/
theorem plainSysInfo_valid : Valid plainVideo plainSysInfo := by
  have valid : ValidProfile plainVideo plainSysInfo plainProfile :=
    ⟨by decide, by decide, by decide, by decide⟩
  exact ⟨by decide, fun _ _ => valid⟩

/-- The second profile is asked for another size and another frame rate. -/
theorem uri_video_kept_resized :
    Kept plainVideo plainSysInfo
      (some [(ascii "profileid", ascii "2"), (ascii "resolution", ascii "640x480"),
        (ascii "framerate", ascii "7")])
      (uriVideo plainControl plainVideo plainSysInfo
        (some [(ascii "profileid", ascii "2"), (ascii "resolution", ascii "640x480"),
          (ascii "framerate", ascii "7")])) := by
  refine (uri_video_kept_iff plainVideo_fits plainControl_stores plainSysInfo_valid _).mpr ?_
  intro args member id there
  have here : addressed plainVideo plainSysInfo args = some 1 := by
    rw [← Option.some.inj member]
    decide
  rw [here] at there
  rw [← Option.some.inj member, ← Option.some.inj there]
  exact ⟨.inr (by decide), (by decide : ascii "7" ∈ framerates plainVideo 0)⟩

/-- A codec is stored although the resolution that comes with it is refused. -/
theorem uri_video_keeps_codec :
    Fits plainVideo plainSysInfo ∧ Stores plainControl ∧ Valid plainVideo plainSysInfo ∧
      ¬Kept plainVideo plainSysInfo
        (some [(ascii "profileid", ascii "1"), (ascii "codec", ascii "MJPEG"),
          (ascii "resolution", ascii "1x1")])
        (uriVideo plainControl plainVideo plainSysInfo
          (some [(ascii "profileid", ascii "1"), (ascii "codec", ascii "MJPEG"),
            (ascii "resolution", ascii "1x1")])) := by
  refine ⟨plainVideo_fits, plainControl_stores, plainSysInfo_valid, ?_⟩
  rintro ⟨-, -, refused⟩
  have stored := congrArg ProfileEntries.codecname (refused (by decide))
  exact absurd stored (by decide)

end BoaIpcam.NipcaVideo
