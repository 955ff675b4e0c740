import BoaIpcam.Lib.Accesses
import BoaIpcam.Numeral

/-!
# Profile numbers from the network

Seven handlers of `request.c` take the number of a profile from the arguments, look it up in the
tables of the profiles and start a stream. Each has its own conversion and its own bounds, or none.
The model keeps the accesses to the tables and the profile that a stream is started for; what a
table holds outside its bounds is arbitrary.
-/
namespace BoaIpcam.ProfileNumbers

open Accesses

/-- The tables that a profile number indexes. -/
inductive Table where
  | profileCodecIdx | profileCodecFmt | profileJpegIdx | streamName
deriving DecidableEq, Repr

/-- The options and constants of a build. -/
structure Build where
  /-- `MAX_PROFILE_NUM`. -/
  maxProfileNum : Nat
  /-- There is a profile. -/
  positive : 0 < maxProfileNum
  /-- The number is an `int`. -/
  small : maxProfileNum < 2 ^ 31
  /-- `MAX_WEB_PROFILE_NUM`. -/
  maxWebProfileNum : Int
  /-- `MAX_HTTPSTREAMNAME_LEN`. -/
  maxHttpstreamnameLen : Nat
  /-- `SUPPORT_PROFILE_NUMBER`. -/
  supportProfileNumber : Bool
  /-- `SUPPORT_MG1264`. -/
  supportMg1264 : Bool
  /-- `SEND_FMT_JPEG`. -/
  sendFmtJpeg : Int
  /-- `JPEG_PARSER_NAME`. -/
  jpegParserName : List UInt8
  /-- `MPEG4_PARSER_NAME`. -/
  mpeg4ParserName : List UInt8
  /-- `H264_PARSER_NAME`. -/
  h264ParserName : List UInt8

/-- What the handlers read of `sys_info`. The entry whose number is `MAX_PROFILE_NUM` is any of the
configuration. -/
structure SysInfo where
  /-- The index of a profile's codec. -/
  profileCodecIdx : Int → Int
  /-- Its format. -/
  profileCodecFmt : Int → Int
  /-- Its name. -/
  codecname : Int → List UInt8
  /-- The names of the RTSP streams. -/
  rtspstreamname : Nat → List UInt8
  /-- `CONFIG_MAX_PROFILE_NUM`. -/
  configMaxProfileNum : Int
  /-- `CONFIG_MAX_WEB_PROFILE_NUM`. -/
  configMaxWebProfileNum : Int
  /-- The entry with the number `MAX_PROFILE_NUM`. -/
  entryAtMaxProfileNum : Int

/-- The arguments of a request. -/
abbrev Arguments := List (List UInt8 × List UInt8)

/-- What a handler does: its accesses, and the profile that it starts a stream for. -/
structure Served where
  /-- The accesses to the tables. -/
  accesses : List (Access Table)
  /-- The profile of the stream. -/
  started : Option Int
deriving DecidableEq, Repr

/-- An answer without a stream. -/
def nothing : Served := ⟨[], none⟩

/-- The conversion to `int`. -/
def toInt (value : Int) : Int := value.bmod (2 ^ 32)

section Code

variable (b : Build) (sys : SysInfo)

/-! ## The handlers -/

/-- `profile_id` of `uri_jpeg`, which has no sign. -/
def jpegProfile (args : Arguments) : Nat :=
  args.foldl (fun id arg =>
    if arg.1 = ascii "nowprofileid" then narrow 32 (atoi arg.2 - 1) else id) 1

/-- `uri_jpeg`. -/
def uriJpeg (args : Arguments) : Served :=
  ⟨[⟨.profileJpegIdx, jpegProfile args⟩], some (jpegProfile args)⟩

/-- `get_av_stream`. -/
def getAvStream (profileID : Nat) : Served :=
  if b.supportMg1264 ∧ profileID = 3 then ⟨[], some 3⟩
  else if narrow 32 (b.maxProfileNum - 1) < profileID then nothing
  else if b.supportProfileNumber ∧ narrow 32 (sys.entryAtMaxProfileNum - 1) < profileID then nothing
  else
    ⟨⟨.profileCodecFmt, profileID⟩ ::
      (if sys.profileCodecFmt profileID = b.sendFmtJpeg then []
        else [⟨.profileCodecFmt, profileID⟩]) ++
      [⟨.profileCodecIdx, profileID⟩], some profileID⟩

/-- The profile that `uri_av_stream` hands on. -/
def avProfile (args : Arguments) : Nat :=
  narrow 32 (args.foldl (fun id arg =>
    if arg.1 = ascii "nowprofileid" then atoi arg.2 else id) 0 - 1)

/-- `uri_av_stream`. -/
def uriAvStream (args : Arguments) : Served := getAvStream b sys (avProfile args)

/-- `idx` of the handlers that read the first argument. -/
def dlinkProfile (args : Arguments) : Int :=
  match args.head? with
  | some (name, value) => if name = ascii "profileid" then toInt (atoi value - 1) else 0
  | none => 0

/-- `get_dlink_mjpeg_stream`, `get_dlink_mpeg4_stream` and `get_dlink_h264_stream` for the codec
index of a profile: the index has the bounds of a stream. -/
def getDlinkStream (idx : Int) : Served :=
  ⟨[⟨.profileCodecIdx, idx⟩],
    if sys.profileCodecIdx idx - 1 < 0 ∨ 2 < sys.profileCodecIdx idx - 1 then none else some idx⟩

/-- The body of `uri_dlink_mjpeg`, `uri_dlink_mpeg4` and `uri_dlink_h264`. -/
def dlinkStream (request : Option Arguments) : Served :=
  match request with
  | none => nothing
  | some args => getDlinkStream sys (dlinkProfile args)

/-- `uri_dlink_mjpeg`. -/
def uriDlinkMjpeg (request : Option Arguments) : Served := dlinkStream sys request

/-- `uri_dlink_mpeg4`. -/
def uriDlinkMpeg4 (request : Option Arguments) : Served := dlinkStream sys request

/-- `uri_dlink_h264`. -/
def uriDlinkH264 (request : Option Arguments) : Served := dlinkStream sys request

/-- `uri_dlink_video`. -/
def uriDlinkVideo (request : Option Arguments) : Served :=
  match request with
  | none => nothing
  | some args =>
    let idx := dlinkProfile args
    if idx < 0 ∨ 2 < idx then nothing
    else if sys.codecname idx = b.jpegParserName then getDlinkStream sys idx
    else if sys.codecname idx = b.mpeg4ParserName then getDlinkStream sys idx
    else if sys.codecname idx = b.h264ParserName then getDlinkStream sys idx
    else nothing

/-- The number of profiles of the web pages. -/
def webProfiles : Int :=
  if b.supportProfileNumber then sys.configMaxWebProfileNum else b.maxWebProfileNum

/-- The arguments of `uri_rtspurl`: the accesses, and whether none of them is refused. -/
def rtspArguments (names : Nat → List UInt8) (id : Nat) : Arguments → List (Access Table) × Bool
  | [] => ([], true)
  | (name, value) :: rest =>
    let id := if name = ascii "profileid" then narrow 8 (atoi value - 1) else id
    if name = ascii "profileid" ∧ webProfiles b sys < id then ([], false)
    else if name = ascii "urlentry" then
      if b.maxHttpstreamnameLen < value.length then ([], false)
      else if names id ≠ value then
        let (accesses, on) := rtspArguments (Function.update names id value) id rest
        (⟨.streamName, id⟩ :: ⟨.streamName, id⟩ :: accesses, on)
      else
        let (accesses, on) := rtspArguments names id rest
        (⟨.streamName, id⟩ :: accesses, on)
    else rtspArguments names id rest

/-- `uri_rtspurl`. -/
def uriRtspurl (args : Arguments) : Served :=
  let (accesses, on) := rtspArguments b sys sys.rtspstreamname 0 args
  ⟨accesses ++ if on then span .streamName (webProfiles b sys).toNat else [], none⟩

/-- The handlers. -/
inductive Handler where
  | jpeg | avStream | dlinkMjpeg | dlinkMpeg4 | dlinkH264 | dlinkVideo | rtspurl
deriving DecidableEq, Repr

/-- A request, whose query may not be decoded. Some handlers go on without arguments then. -/
def serve (request : Option Arguments) : Handler → Served
  | .jpeg => uriJpeg (request.getD [])
  | .avStream => uriAvStream b sys (request.getD [])
  | .dlinkMjpeg => uriDlinkMjpeg sys request
  | .dlinkMpeg4 => uriDlinkMpeg4 sys request
  | .dlinkH264 => uriDlinkH264 sys request
  | .dlinkVideo => uriDlinkVideo b sys request
  | .rtspurl => uriRtspurl b sys (request.getD [])

/-! ## What is asked -/

/-- A profile exists; the encoder of some builds has one of its own. -/
def ProfileExists (profile : Int) : Prop :=
  0 ≤ profile ∧ profile < b.maxProfileNum ∧
      (b.supportProfileNumber = true → profile < sys.configMaxProfileNum) ∨
    b.supportMg1264 = true ∧ profile = 3

/-- The tables are accessed within their bounds, and a stream is started for a profile that exists
only. -/
structure Safe (served : Served) : Prop where
  /-- The accesses are inside. -/
  inside : AllInside (fun _ => b.maxProfileNum) served.accesses
  /-- The profile exists. -/
  exist : ∀ profile ∈ served.started, ProfileExists b sys profile

/-- The codec index of a profile is that of a stream. -/
def Streams (idx : Int) : Prop := 1 ≤ sys.profileCodecIdx idx ∧ sys.profileCodecIdx idx ≤ 3

/-- A profile that a handler looks up and may start a stream for. -/
def FitsTables (idx : Int) : Prop :=
  0 ≤ idx ∧ idx < b.maxProfileNum ∧ (Streams sys idx → ProfileExists b sys idx)

/-- An argument of `uri_rtspurl` that is not refused. -/
def Passes (arg : List UInt8 × List UInt8) : Prop :=
  (arg.1 = ascii "profileid" → narrow 8 (atoi arg.2 - 1) ≤ webProfiles b sys) ∧
    (arg.1 = ascii "urlentry" → arg.2.length ≤ b.maxHttpstreamnameLen)

/-- `id` behind some arguments of `uri_rtspurl`. -/
def rtspProfile (id : Nat) (args : Arguments) : Nat :=
  args.foldl (fun id arg => if arg.1 = ascii "profileid" then narrow 8 (atoi arg.2 - 1) else id) id

/-- The profile of each name that `uri_rtspurl` comes to set is within the bounds. -/
def SetsInside (id : Nat) (args : Arguments) : Prop :=
  ∀ before value after, args = before ++ (ascii "urlentry", value) :: after →
    (∀ arg ∈ before, Passes b sys arg) → value.length ≤ b.maxHttpstreamnameLen →
      rtspProfile id before < b.maxProfileNum

/-- The profiles that `uri_rtspurl` tells about when it refuses nothing are within the bounds. -/
def TellsInside (args : Arguments) : Prop :=
  (∀ arg ∈ args, Passes b sys arg) → webProfiles b sys ≤ b.maxProfileNum

/-- When a handler stays within the bounds. -/
def Meets (request : Option Arguments) : Handler → Prop
  | .jpeg =>
    jpegProfile (request.getD []) < b.maxProfileNum ∧ ProfileExists b sys (jpegProfile (request.getD []))
  | .avStream => b.supportProfileNumber = true → avProfile (request.getD []) < b.maxProfileNum →
      avProfile (request.getD []) ≤ narrow 32 (sys.entryAtMaxProfileNum - 1) →
      ProfileExists b sys (avProfile (request.getD []))
  | .dlinkMjpeg | .dlinkMpeg4 | .dlinkH264 =>
    ∀ args ∈ request, FitsTables b sys (dlinkProfile args)
  | .dlinkVideo => ∀ args ∈ request, 0 ≤ dlinkProfile args → dlinkProfile args ≤ 2 →
      sys.codecname (dlinkProfile args) ∈ [b.jpegParserName, b.mpeg4ParserName, b.h264ParserName] →
      FitsTables b sys (dlinkProfile args)
  | .rtspurl => SetsInside b sys 0 (request.getD []) ∧ TellsInside b sys (request.getD [])

end Code

section Proofs

variable {b : Build} {sys : SysInfo} {request : Option Arguments} {args : Arguments} {idx : Int}

/-- An answer without a stream is safe. -/
theorem safe_nothing : Safe b sys nothing :=
  ⟨allInside_nil _, fun profile started => absurd started (Option.not_mem_none profile)⟩

/-- The bound of `get_av_stream` is the last profile of the tables. -/
theorem narrow_maxProfileNum (b : Build) : narrow 32 (b.maxProfileNum - 1) = b.maxProfileNum - 1 := by
  have positive := b.positive
  have small := b.small
  have fits : (narrow 32 ((b.maxProfileNum : Int) - 1) : Int) = (b.maxProfileNum : Int) - 1 :=
    narrow_of_fits (by omega) (by omega)
  omega

/-- `uri_jpeg` has no bound. -/
theorem safe_uriJpeg_iff : Safe b sys (uriJpeg args) ↔
    jpegProfile args < b.maxProfileNum ∧ ProfileExists b sys (jpegProfile args) := by
  constructor
  · rintro ⟨inside, exist⟩
    have index := inside _ List.mem_cons_self
    rw [inside_natCast] at index
    exact ⟨index, exist _ rfl⟩
  · rintro ⟨index, exist⟩
    refine ⟨?_, fun profile started => ?_⟩
    · rw [uriJpeg, allInside_cons, inside_natCast]
      exact ⟨index, allInside_nil _⟩
    · rw [← Option.some.inj started]
      exact exist

/-- `get_av_stream` is within the tables; with a number of profiles that is configured it may start a
stream for a profile that does not exist. -/
theorem safe_getAvStream_iff (profile : Nat) : Safe b sys (getAvStream b sys profile) ↔
    (b.supportProfileNumber = true → profile < b.maxProfileNum →
      profile ≤ narrow 32 (sys.entryAtMaxProfileNum - 1) → ProfileExists b sys profile) := by
  have last := narrow_maxProfileNum b
  have positive := b.positive
  unfold getAvStream
  by_cases encoder : b.supportMg1264 = true ∧ profile = 3
  · rw [if_pos encoder]
    have three : ProfileExists b sys 3 := .inr ⟨encoder.1, rfl⟩
    refine iff_of_true ⟨allInside_nil _, fun other started => ?_⟩ fun _ _ _ => ?_
    · rw [← Option.some.inj started]
      exact three
    · rw [encoder.2]
      exact three
  · rw [if_neg encoder]
    by_cases above : narrow 32 (b.maxProfileNum - 1) < profile
    · rw [if_pos above]
      exact iff_of_true safe_nothing fun _ within => absurd within (by omega)
    · rw [if_neg above]
      by_cases configured :
          b.supportProfileNumber ∧ narrow 32 (sys.entryAtMaxProfileNum - 1) < profile
      · rw [if_pos configured]
        exact iff_of_true safe_nothing fun _ _ within => absurd within (by omega)
      · rw [if_neg configured]
        have within : profile < b.maxProfileNum := by omega
        have inside : AllInside (fun _ => b.maxProfileNum)
            (⟨Table.profileCodecFmt, (profile : Int)⟩ ::
              (if sys.profileCodecFmt profile = b.sendFmtJpeg then []
                else [⟨.profileCodecFmt, (profile : Int)⟩]) ++
              [⟨.profileCodecIdx, (profile : Int)⟩]) := by
          split <;> simp [within]
        constructor
        · rintro ⟨-, exist⟩ _ _ _
          exact exist _ rfl
        · intro exist
          refine ⟨inside, fun other started => ?_⟩
          rw [← Option.some.inj started]
          by_cases support : b.supportProfileNumber = true
          · have low : profile ≤ narrow 32 (sys.entryAtMaxProfileNum - 1) := by
              have not := not_and.mp configured support
              omega
            exact exist support within low
          · exact .inl ⟨by omega, by omega, fun here => absurd here support⟩

/-- The D-Link streams have a bound for the codec index only. -/
theorem safe_getDlinkStream_iff : Safe b sys (getDlinkStream sys idx) ↔ FitsTables b sys idx := by
  have started : ∀ profile, profile ∈ (getDlinkStream sys idx).started ↔
      Streams sys idx ∧ profile = idx := by
    intro profile
    unfold getDlinkStream Streams
    dsimp only
    split
    · simp only [Option.not_mem_none, false_iff, not_and]
      omega
    · rw [Option.mem_some_iff]
      constructor
      · intro same
        exact ⟨by omega, same.symm⟩
      · exact fun both => both.2.symm
  constructor
  · rintro ⟨inside, exist⟩
    have index := inside _ List.mem_cons_self
    exact ⟨index.1, index.2, fun streams => exist idx ((started idx).mpr ⟨streams, rfl⟩)⟩
  · rintro ⟨low, high, exist⟩
    refine ⟨?_, fun profile here => ?_⟩
    · rw [getDlinkStream, allInside_cons]
      exact ⟨⟨low, high⟩, allInside_nil _⟩
    · obtain ⟨streams, same⟩ := (started profile).mp here
      rw [same]
      exact exist streams

/-- The handlers of one codec. -/
theorem safe_dlinkStream_iff : Safe b sys (dlinkStream sys request) ↔
    ∀ args ∈ request, FitsTables b sys (dlinkProfile args) := by
  cases request with
  | none => exact iff_of_true safe_nothing fun args read => absurd read (Option.not_mem_none args)
  | some args =>
    rw [dlinkStream, safe_getDlinkStream_iff]
    simp only [Option.mem_some_iff, forall_eq']

/-- `uri_dlink_video` has a bound of its own. -/
theorem safe_uriDlinkVideo_iff : Safe b sys (uriDlinkVideo b sys request) ↔
    ∀ args ∈ request, 0 ≤ dlinkProfile args → dlinkProfile args ≤ 2 →
      sys.codecname (dlinkProfile args) ∈ [b.jpegParserName, b.mpeg4ParserName, b.h264ParserName] →
      FitsTables b sys (dlinkProfile args) := by
  cases request with
  | none => exact iff_of_true safe_nothing fun args read => absurd read (Option.not_mem_none args)
  | some args =>
    have codecs : uriDlinkVideo b sys (some args) =
        if dlinkProfile args < 0 ∨ 2 < dlinkProfile args then nothing
        else if sys.codecname (dlinkProfile args) ∈
          [b.jpegParserName, b.mpeg4ParserName, b.h264ParserName] then
            getDlinkStream sys (dlinkProfile args)
        else nothing := by
      simp only [uriDlinkVideo, List.mem_cons, List.not_mem_nil, or_false]
      by_cases first : sys.codecname (dlinkProfile args) = b.jpegParserName
      · simp only [first, if_true, true_or]
      · by_cases second : sys.codecname (dlinkProfile args) = b.mpeg4ParserName
        · simp only [second, if_true, ite_self, true_or, or_true]
        · simp only [first, second, if_false, false_or]
    rw [codecs]
    simp only [Option.mem_some_iff, forall_eq']
    split
    · exact iff_of_true safe_nothing fun _ _ _ => by omega
    · split
      · rename_i range known
        rw [safe_getDlinkStream_iff]
        exact ⟨fun fits _ _ _ => fits, fun fits => fits (by omega) (by omega) known⟩
      · rename_i unknown
        exact iff_of_true safe_nothing fun _ _ known => absurd known unknown

/-- The names that are set, from the first argument on. -/
theorem setsInside_cons {id : Nat} {arg : List UInt8 × List UInt8} :
    SetsInside b sys id (arg :: args) ↔
      (arg.1 = ascii "urlentry" → arg.2.length ≤ b.maxHttpstreamnameLen → id < b.maxProfileNum) ∧
      (Passes b sys arg → SetsInside b sys (rtspProfile id [arg]) args) := by
  constructor
  · refine fun inside => ⟨fun name short => ?_, fun passes before value after split all short => ?_⟩
    · have split : arg :: args = [] ++ (ascii "urlentry", arg.2) :: args := by
        rw [← name]
        rfl
      exact inside [] arg.2 args split (fun _ member => absurd member List.not_mem_nil) short
    · have whole : arg :: args = (arg :: before) ++ (ascii "urlentry", value) :: after := by
        rw [split]
        rfl
      refine inside (arg :: before) value after whole (fun other member => ?_) short
      rcases List.mem_cons.mp member with same | behind
      · exact same ▸ passes
      · exact all other behind
  · rintro ⟨first, rest⟩ before value after split all short
    cases before with
    | nil =>
      obtain ⟨same, -⟩ := List.cons.inj split
      rw [same] at first
      exact first rfl short
    | cons head before =>
      obtain ⟨same, behind⟩ := List.cons.inj split
      rw [same] at rest
      exact rest (all head List.mem_cons_self) before value after behind
        (fun other member => all other (List.mem_cons_of_mem head member)) short

/-- The arguments of `uri_rtspurl`: the accesses are within the bounds exactly when the names that
are set are, and nothing is refused exactly when every argument passes. -/
theorem rtspArguments_iff (names : Nat → List UInt8) (id : Nat) :
    (AllInside (fun _ => b.maxProfileNum) (rtspArguments b sys names id args).1 ↔
        SetsInside b sys id args) ∧
      ((rtspArguments b sys names id args).2 = true ↔ ∀ arg ∈ args, Passes b sys arg) := by
  induction args generalizing names id with
  | nil =>
    refine ⟨iff_of_true (allInside_nil _) fun before value after split => ?_,
      iff_of_true rfl fun _ member => absurd member List.not_mem_nil⟩
    cases before <;> cases split
  | cons arg rest ih =>
    obtain ⟨name, value⟩ := arg
    rw [setsInside_cons, List.forall_mem_cons]
    have apart : ascii "urlentry" ≠ ascii "profileid" := by decide
    by_cases profile : name = ascii "profileid"
    · have other : name ≠ ascii "urlentry" := fun same => apart (same.symm.trans profile)
      have next : rtspProfile id [(name, value)] = narrow 8 (atoi value - 1) := if_pos profile
      by_cases above : webProfiles b sys < narrow 8 (atoi value - 1)
      · have refused : ¬Passes b sys (name, value) := fun passes =>
          absurd (passes.1 profile) (Int.not_le.mpr above)
        simp only [rtspArguments, profile, true_and, if_true, above]
        rw [← profile]
        exact ⟨iff_of_true (allInside_nil _) ⟨fun same => absurd same other, fun passes =>
          absurd passes refused⟩, iff_of_false Bool.false_ne_true fun both => refused both.1⟩
      · have passes : Passes b sys (name, value) :=
          ⟨fun _ => Int.not_lt.mp above, fun same => absurd same other⟩
        have on : rtspArguments b sys names id ((name, value) :: rest) =
            rtspArguments b sys names (narrow 8 (atoi value - 1)) rest := by
          simp only [rtspArguments, profile, true_and, if_true, above, if_false, apart.symm]
        obtain ⟨inside, all⟩ := ih names (narrow 8 (atoi value - 1))
        rw [on, next, inside, all]
        exact ⟨⟨fun rest => ⟨fun same => absurd same other, fun _ => rest⟩,
          fun both => both.2 passes⟩, ⟨fun rest => ⟨passes, rest⟩, And.right⟩⟩
    · have next : rtspProfile id [(name, value)] = id := if_neg profile
      by_cases url : name = ascii "urlentry"
      · by_cases long : b.maxHttpstreamnameLen < value.length
        · have refused : ¬Passes b sys (name, value) := fun passes =>
            absurd (passes.2 url) (not_le.mpr long)
          have on : rtspArguments b sys names id ((name, value) :: rest) = ([], false) := by
            simp only [rtspArguments, url, apart, false_and, if_false, if_true, long]
          rw [on]
          exact ⟨iff_of_true (allInside_nil _) ⟨fun _ short => absurd short (not_le.mpr long), fun passes =>
            absurd passes refused⟩, iff_of_false Bool.false_ne_true fun both => refused both.1⟩
        · have passes : Passes b sys (name, value) :=
            ⟨fun same => absurd same profile, fun _ => not_lt.mp long⟩
          have set : AllInside (fun _ => b.maxProfileNum)
                (rtspArguments b sys names id ((name, value) :: rest)).1 ↔
                id < b.maxProfileNum ∧ SetsInside b sys id rest := by
            simp only [rtspArguments, url, apart, false_and, if_false, if_true, long]
            split
            · simp only [allInside_cons, inside_natCast, (ih _ id).1, and_self_left]
            · simp only [allInside_cons, inside_natCast, (ih _ id).1]
          have told : (rtspArguments b sys names id ((name, value) :: rest)).2 = true ↔
              ∀ arg ∈ rest, Passes b sys arg := by
            simp only [rtspArguments, url, apart, false_and, if_false, if_true, long]
            split <;> exact (ih _ id).2
          rw [set, told, next]
          exact ⟨⟨fun both => ⟨fun _ _ => both.1, fun _ => both.2⟩,
            fun both => ⟨both.1 url (not_lt.mp long), both.2 passes⟩⟩,
            ⟨fun rest => ⟨passes, rest⟩, And.right⟩⟩
      · have passes : Passes b sys (name, value) :=
          ⟨fun same => absurd same profile, fun same => absurd same url⟩
        have on : rtspArguments b sys names id ((name, value) :: rest) =
            rtspArguments b sys names id rest := by
          simp only [rtspArguments, profile, false_and, if_false, url]
        obtain ⟨inside, all⟩ := ih names id
        rw [on, next, inside, all]
        exact ⟨⟨fun rest => ⟨fun same => absurd same url, fun _ => rest⟩,
          fun both => both.2 passes⟩, ⟨fun rest => ⟨passes, rest⟩, And.right⟩⟩

/-- `uri_rtspurl` has a bound that is one too large. -/
theorem safe_uriRtspurl_iff : Safe b sys (uriRtspurl b sys args) ↔
    SetsInside b sys 0 args ∧ TellsInside b sys args := by
  obtain ⟨inside, all⟩ := @rtspArguments_iff b sys args sys.rtspstreamname 0
  have none (profile : Int) : profile ∉ (uriRtspurl b sys args).started :=
    Option.not_mem_none profile
  have told : AllInside (fun _ => b.maxProfileNum) (uriRtspurl b sys args).accesses ↔
      SetsInside b sys 0 args ∧ TellsInside b sys args := by
    rw [uriRtspurl]
    dsimp only
    rw [allInside_append, inside, TellsInside, ← all]
    refine and_congr_right fun _ => ?_
    split
    · rename_i on
      rw [allInside_span]
      simp only [on, true_implies]
      omega
    · rename_i off
      exact iff_of_true (allInside_nil _) fun on => absurd on off
  rw [← told]
  exact ⟨Safe.inside, fun inside => ⟨inside, fun profile started => absurd started (none profile)⟩⟩

/-- A handler stays within the tables and starts streams for existing profiles exactly when it meets
its condition. -/
theorem profile_numbers_iff (b : Build) (sys : SysInfo) (request : Option Arguments)
    (handler : Handler) :
    Safe b sys (serve b sys request handler) ↔ Meets b sys request handler := by
  cases handler with
  | jpeg => exact safe_uriJpeg_iff
  | avStream => exact safe_getAvStream_iff _
  | dlinkMjpeg => exact safe_dlinkStream_iff
  | dlinkMpeg4 => exact safe_dlinkStream_iff
  | dlinkH264 => exact safe_dlinkStream_iff
  | dlinkVideo => exact safe_uriDlinkVideo_iff
  | rtspurl => exact safe_uriRtspurl_iff

end Proofs

/-- A build with four profiles, three of them of the web. -/
def plainBuild : Build where
  maxProfileNum := 4
  positive := Nat.le_of_ble_eq_true rfl
  small := Nat.le_of_ble_eq_true rfl
  maxWebProfileNum := 3
  maxHttpstreamnameLen := 31
  supportProfileNumber := false
  supportMg1264 := false
  sendFmtJpeg := 0
  jpegParserName := ascii "JPEG"
  mpeg4ParserName := ascii "MPEG4"
  h264ParserName := ascii "H.264"

/-- Its configuration. -/
def plainSysInfo : SysInfo where
  profileCodecIdx _ := 1
  profileCodecFmt _ := 0
  codecname _ := ascii "JPEG"
  rtspstreamname _ := []
  configMaxProfileNum := 4
  configMaxWebProfileNum := 3
  entryAtMaxProfileNum := 0

/-- The number 0 makes `uri_jpeg` and `uri_dlink_mjpeg` read before the tables. -/
theorem profile_number_zero :
    ¬Safe plainBuild plainSysInfo
      (serve plainBuild plainSysInfo (some [(ascii "nowprofileid", ascii "0")]) .jpeg) ∧
    ¬Safe plainBuild plainSysInfo
      (serve plainBuild plainSysInfo (some [(ascii "profileid", ascii "0")]) .dlinkMjpeg) :=
  ⟨fun safe => absurd safe.inside (by decide), fun safe => absurd safe.inside (by decide)⟩

end BoaIpcam.ProfileNumbers
