import BoaIpcam.Config.ProfileSetters
import Mathlib.Data.Prod.Basic
import Mathlib.Logic.Equiv.Basic

/-!
# Copied setters

The setters of the three profiles are meant to be copies of one function: after a renaming of the
profiles the handler of the new profile does what that of the old one did. Four settings have
copies with slips, and every copy has the number of its profile as a literal; `SlipFree` is when
none of this shows.
-/
namespace BoaIpcam.Video

/-! ## Copies -/

/-- `ControlSystemData` treats the profiles alike, and a number in a short variable like the same
number in a long one. -/
structure Alike (control : Control) : Prop where
  /-- Renaming the profiles commutes with the service. -/
  profiles : ∀ (σ : Equiv.Perm Profile) (profile : Profile) (field : Field) (data : Data)
    (sys : System), control (σ profile) field data (sys.rename σ) =
      Prod.map (Whole.rename σ) id (control profile field data sys)
  /-- The size of the variable does not matter. -/
  bytes : ∀ (profile : Profile) (field : Field) (value : Int) (left right : Nat) (sys : System),
    control profile field (.number value left) sys = control profile field (.number value right) sys

/-- The values of the codec, the resolution and the bit rate that are supported. -/
def Supported (b : Build) (shared : Shared) : Setting → List UInt8 → Prop
  | .format, text => text ∈ [b.jpegParserName, b.mpeg4ParserName, b.h264ParserName]
  | .res, text => text ∈ shared.resolutionList
  | .bps, text => text ∈ shared.mp4Bitrate
  | _, _ => True

/-- For a value, the handler of one profile is the copy of that of another: the same
configuration, up to the renaming, and the same answer; an accepted value is supported; and the
answer is one line. -/
structure IsCopy (control : Control) (b : Build) (setting : Setting) (source target : Profile)
    (sys : System) (text : List UInt8) : Prop where
  /-- The two handlers do the same, up to the renaming. -/
  same : ∀ σ : Equiv.Perm Profile, σ source = target →
    handle control b setting target (sys.rename σ) text =
      Prod.map (Whole.rename σ) id (handle control b setting source sys text)
  /-- An accepted value is one that the camera supports. -/
  supported : .ok ∈ (handle control b setting source sys text).2 →
    Supported b sys.common setting text
  /-- There is one answer. -/
  one_line : (handle control b setting source sys text).2.length = 1

/-! ## One shape -/

/-- What a setter tells without a value. -/
def toldLine (b : Build) (own : ProfileEntries) : Setting → Line
  | .format => .value own.codecname
  | .res => .value own.resolution
  | .rate => .value own.framerate
  | .bps => coded b own own.cbrQuality
  | .quality => qualityLine b own
  | .qmod => coded b own (decimal own.qmode)
  | .keyframeinterval => coded b own own.mpeg4gov
  | .view => .value own.eptzWindowSize

/-- What the setter of a profile answers without a value when the profile is missing. -/
def missingLines (told : Line) : Setting → Profile → List Line
  | .bps, .three => []
  | .keyframeinterval, .three => [.ng, told]
  | _, _ => [.ng]

/-- The builds in which the codec setter of a profile refuses MPEG-4. -/
def refusesMpeg4 : Profile → Build → Bool
  | .three, b => b.tyco720pOrD2
  | _, b => b.tyco720pOrD2 || b.tycoOther

/-- What the bit rate setter of a profile looks for in the list. -/
def looksFor : Profile → List UInt8 → List UInt8 → Bool
  | .one, text, entry => text = entry
  | _, text, entry => text ≠ entry

/-- What the variable of the quality setter of a profile holds of a number. -/
def heldQuality : Profile → Int → Int
  | .one, value => value
  | _, value => narrow 8 value

/-- The bytes of that variable. -/
def qualityBytes : Profile → Nat
  | .one => 4
  | _ => 1

/-- What the setter of a profile does with a value. -/
def bodyOf : Setting → Profile → Setter
  | .format, profile => formatBody (refusesMpeg4 profile)
  | .res, _ => resBody
  | .rate, _ => rateBody
  | .bps, profile => bpsBody (looksFor profile)
  | .quality, profile => qualityBody (heldQuality profile) (qualityBytes profile)
  | .qmod, _ => qmodBody
  | .keyframeinterval, _ => keyframeintervalBody
  | .view, _ => viewBody

/-- All setters have one shape; those of the view size are not in every build. -/
theorem setter_eq (setting : Setting) (profile : Profile) (b : Build) (shared : Shared)
    (own : ProfileEntries) (text : List UInt8) :
    setter setting profile b shared own text =
      if setting = .view ∧ b.supportEptz = false then .answer [.ns]
      else guarded profile b shared text (missingLines (toldLine b own setting) setting profile)
        [toldLine b own setting] (bodyOf setting profile b shared own text) := by
  cases setting with
  | view =>
    cases eptz : b.supportEptz
    · cases profile <;> simp [setter, setProfile1view, setProfile2view, setProfile3view, setView, eptz]
    · cases profile <;> simp [setter, setProfile1view, setProfile2view, setProfile3view, setView,
        eptz, missingLines, toldLine, bodyOf]
  | _ => cases profile <;> rfl

/-! ## When no slip shows -/

/-- The handler of a setting and a profile is there in a build. -/
def Handled (b : Build) (setting : Setting) (profile : Profile) : Prop :=
  profile.number ≤ b.maxWebProfileNum ∧ (setting = .view → b.supportEptz = true)

/-- The current value is asked for and `profile_check` does not find the profile. -/
def AsksMissing (b : Build) (setting : Setting) (sys : System) (text : List UInt8)
    (profile : Profile) : Prop :=
  Handled b setting profile ∧ text = [] ∧
    profileCheck sys.common.maxProfileNum profile.number < 0

/-- A value is given, and `profile_check` finds a profile that can be set. -/
def Sets (b : Build) (setting : Setting) (sys : System) (text : List UInt8) (profile : Profile) :
    Prop :=
  Handled b setting profile ∧ text ≠ [] ∧
    1 ≤ profileCheck sys.common.maxProfileNum profile.number

/-- A setting that the codec of a profile does not have is not told. -/
def Untold (b : Build) (own : ProfileEntries) : Setting → Prop
  | .bps | .qmod | .keyframeinterval =>
    own.codecname ≠ b.mpeg4ParserName ∧ own.codecname ≠ b.h264ParserName
  | .quality => own.codecname ≠ b.mpeg4ParserName ∧ own.codecname ≠ b.h264ParserName ∧
      own.codecname ≠ b.jpegParserName
  | _ => False

/-- The setter of a profile answers with one refusal when the profile is missing. -/
def AnswersMissing (setting : Setting) (profile : Profile) : Prop :=
  setting = .bps ∨ setting = .keyframeinterval → profile ≠ .three

/-- The entry of the list that the bit rate setter of a profile looks for is there. -/
def Finds (shared : Shared) (text : List UInt8) : Profile → Prop
  | .one => text ∈ shared.mp4Bitrate
  | _ => ∃ entry ∈ shared.mp4Bitrate, text ≠ entry

/-- What the service is handed is refused without any effect. -/
def Refuses (control : Control) (profile : Profile) (field : Field) (data : Data)
    (sys : System) : Prop := control profile field data sys = (sys, false)

/-- The text is no size of the list, or one that is too large. -/
def NoSize (shared : Shared) (text : List UInt8) (tooLarge : Int × Int → Prop) : Prop :=
  ∀ size, readSize text = some size → tooLarge size ∨ text ∉ shared.resolutionList

/-- The value is one that the setter of a profile refuses without any effect, for the entries of the
first one: it is no value of the setting, or the service refuses it. -/
def Declines (control : Control) (b : Build) (source : Profile) (sys : System)
    (text : List UInt8) : Setting → Profile → Prop
  | .format, profile => text ∉ [b.jpegParserName, b.mpeg4ParserName, b.h264ParserName] ∨
      refusesMpeg4 profile b = true ∧ text = b.mpeg4ParserName
  | .res, _ =>
      NoSize sys.common text (fun size => b.useSensorCrop ∧ cropRefuses sys.common size ∨
        b.supportEptz = false ∧ (sys.part source).codecname = b.mpeg4ParserName ∧
          Exceeds size (1920, 1080)) ∨
      readSize (sys.part source).resolution = none ∧
        storeSize (sys.part source).oldRes (sys.part source).resolution = (sys.part source).oldRes
  | .rate, _ => numericCheck text = false ∨ (atoi text < 1 ∨ atoi text > 30) ∨
      (sys.part source).framerate ≠ text ∧ Refuses control source .framerate (.text text) sys
  | .bps, profile => (sys.part source).codecname = b.jpegParserName ∨
      ¬Finds sys.common text profile ∨ Refuses control source .cbr (.text text) sys
  | .quality, profile => numericCheck text = false ∨
      heldQuality profile (atoi text) > b.maxProfileQuality ∨
      Refuses control source .quality
        (.number (heldQuality profile (atoi text)) (qualityBytes profile)) sys
  | .qmod, _ => numericCheck text = false ∨ (sys.part source).codecname = b.jpegParserName ∨
      narrow 8 (atoi text) > (sys.part source).qmodeMax
  | .keyframeinterval, _ => (sys.part source).codecname = b.jpegParserName ∨
      narrow 8 (atoi text) > 30 ∨
      (sys.part source).mpeg4keyframeinterval = narrow 8 (atoi text) ∨
      Refuses control source .gov (.number (narrow 8 (atoi text)) 1) sys
  | .view, _ =>
      NoSize sys.common text (fun size => (sys.part source).codecname = b.mpeg4ParserName ∧
        Exceeds size (1920, 1080)) ∨
      readSize (sys.part source).eptzWindowSize = none ∧
        storeSize (sys.part source).oldWin (sys.part source).eptzWindowSize =
          (sys.part source).oldWin

/-- The setters of two profiles that can be set do the same with a value: MPEG-4 is not set in a
build that only profile 3 does not refuse it in; a bit rate that the service takes note of is in the
list, or it is not and no setter finds its entry; and a quality beyond a byte is refused for its low
byte as well. -/
def BodiesAgree (control : Control) (b : Build) (source target : Profile) (sys : System)
    (text : List UInt8) : Setting → Prop
  | .format => text = b.mpeg4ParserName → b.tyco720pOrD2 = false → b.tycoOther = true →
      (source = .three ↔ target = .three)
  | .bps => (sys.part source).codecname ≠ b.jpegParserName →
      ¬Refuses control source .cbr (.text text) sys →
      (Finds sys.common text source ↔ Finds sys.common text target) ∧
      (Finds sys.common text source → (control source .cbr (.text text) sys).2 = true →
        text ∈ sys.common.mp4Bitrate)
  | .quality => numericCheck text = true → 255 < atoi text →
      narrow 8 (atoi text) ≤ b.maxProfileQuality →
      ¬Refuses control source .quality (.number (narrow 8 (atoi text)) 1) sys →
      (source = .one ↔ target = .one)
  | _ => True

/-- No slip of the copies shows. The numbers of the profiles are literals of the handlers: where
`profile_check` treats them in different ways the current value is one that is not told, and a new
value one that is refused. -/
structure SlipFree (control : Control) (b : Build) (source target : Profile) (sys : System)
    (text : List UInt8) (setting : Setting) : Prop where
  /-- Both handlers are there, or none. -/
  handled : Handled b setting source ↔ Handled b setting target
  /-- The first profile is missing and the current value is asked for. -/
  missing_source : AsksMissing b setting sys text source → AnswersMissing setting source ∧
    (¬AsksMissing b setting sys text target → Untold b (sys.part source) setting)
  /-- The second one is. -/
  missing_target : AsksMissing b setting sys text target → AnswersMissing setting target ∧
    (¬AsksMissing b setting sys text source → Untold b (sys.part source) setting)
  /-- Both profiles can be set. -/
  both : Sets b setting sys text source → Sets b setting sys text target →
    BodiesAgree control b source target sys text setting
  /-- Only the first one can. -/
  only_source : Sets b setting sys text source → ¬Sets b setting sys text target →
    Declines control b source sys text setting source
  /-- Only the second one can. -/
  only_target : ¬Sets b setting sys text source → Sets b setting sys text target →
    Declines control b source sys text setting target

/-! ## Plans -/

section Plans

variable {control : Control} {profile : Profile} {sys : System} {good : Prop}

/-- Two plans with the same outcome, one line, and acceptance only of what is good. -/
def Copied (control : Control) (profile : Profile) (sys : System) (good : Prop)
    (left right : Plan) : Prop :=
  perform control profile sys right = perform control profile sys left ∧
    (.ok ∈ (perform control profile sys left).2 → good) ∧
    (perform control profile sys left).2.length = 1

/-- A plan that does nothing but refuse. -/
def Quiet (control : Control) (profile : Profile) (sys : System) (plan : Plan) : Prop :=
  perform control profile sys plan = (sys, [.ng])

/-- A plan for a renamed profile does in the renamed configuration what it did. -/
theorem perform_rename (alike : Alike control) (σ : Equiv.Perm Profile) (plan : Plan) :
    perform control (σ profile) (sys.rename σ) plan =
      Prod.map (Whole.rename σ) id (perform control profile sys plan) := by
  cases plan with
  | answer lines => rfl
  | store entries reset line =>
    simp only [perform, Prod.map, id, Whole.rename_share, Whole.rename_put, Whole.rename_common]
  | control field data =>
    simp only [perform, alike.profiles, Prod.map, id]

/-- A handler is a copy when its plan, made for the other profile, has the same outcome. -/
theorem isCopy_iff (alike : Alike control) (b : Build) (setting : Setting)
    (source target : Profile) (text : List UInt8) :
    IsCopy control b setting source target sys text ↔
      Copied control source sys (Supported b sys.common setting text)
        (setter setting source b sys.common (sys.part source) text)
        (setter setting target b sys.common (sys.part source) text) := by
  have renamed (σ : Equiv.Perm Profile) (takes : σ source = target) :
      handle control b setting target (sys.rename σ) text =
        Prod.map (Whole.rename σ) id (perform control source sys
          (setter setting target b sys.common (sys.part source) text)) := by
    subst takes
    rw [handle, Whole.rename_part, Whole.rename_common, perform_rename alike]
  constructor
  · intro copy
    refine ⟨?_, copy.supported, copy.one_line⟩
    have takes : Equiv.swap source target source = target := Equiv.swap_apply_left source target
    have same := copy.same _ takes
    rw [renamed _ takes] at same
    exact Function.Injective.prodMap (Whole.rename_injective _) Function.injective_id same
  · rintro ⟨same, supported, one⟩
    refine ⟨fun σ takes => ?_, supported, one⟩
    rw [renamed σ takes, same]
    rfl

/-- Two answers are copies when they are the same line, and no acceptance. -/
theorem copied_answer_iff {left right : List Line} (refuses : .ok ∉ left) :
    Copied control profile sys good (.answer left) (.answer right) ↔
      right = left ∧ left.length = 1 := by
  constructor
  · exact fun copied => ⟨congrArg Prod.snd copied.1, copied.2.2⟩
  · rintro ⟨rfl, one⟩
    exact ⟨rfl, fun accepted => absurd accepted refuses, one⟩

/-- A refusal. -/
theorem copied_ng : Copied control profile sys good (.answer [.ng]) (.answer [.ng]) :=
  (copied_answer_iff (show .ok ∉ [Line.ng] by decide)).mpr ⟨rfl, rfl⟩

/-- A plan is a copy of a refusal when it does nothing but refuse. -/
theorem copied_quiet_left {plan : Plan} :
    Copied control profile sys good plan (.answer [.ng]) ↔ Quiet control profile sys plan := by
  constructor
  · exact fun copied => copied.1.symm
  · intro quiet
    unfold Quiet at quiet
    refine ⟨quiet.symm, fun accepted => ?_, ?_⟩
    · rw [quiet] at accepted
      exact absurd accepted (show .ok ∉ [Line.ng] by decide)
    · rw [quiet]
      rfl

/-- A refusal is a copy of a plan that does nothing but refuse. -/
theorem copied_quiet_right {plan : Plan} :
    Copied control profile sys good (.answer [.ng]) plan ↔ Quiet control profile sys plan := by
  constructor
  · exact fun copied => copied.1
  · exact fun quiet => ⟨quiet, fun accepted => absurd accepted (show .ok ∉ [Line.ng] by decide), rfl⟩

/-- Handing on to the service answers with one line. -/
theorem copied_control {field : Field} {data : Data}
    (right : (control profile field data sys).2 = true → good) :
    Copied control profile sys good (.control field data) (.control field data) := by
  refine ⟨rfl, fun accepted => right ?_, rfl⟩
  rw [perform] at accepted
  generalize control profile field data sys = outcome at accepted
  obtain ⟨after, _ | _⟩ := outcome
  · cases List.mem_singleton.mp accepted
  · rfl

/-- Handing on is quiet when the service refuses. -/
theorem quiet_control_iff {field : Field} {data : Data} :
    Quiet control profile sys (.control field data) ↔ Refuses control profile field data sys := by
  rw [Quiet, perform, Refuses]
  generalize control profile field data sys = outcome
  obtain ⟨after, accepted⟩ := outcome
  cases accepted <;> simp

/-- A refusal is quiet. -/
theorem quiet_ng : Quiet control profile sys (.answer [.ng]) := rfl

/-- An acceptance is not. -/
theorem not_quiet_ok : ¬Quiet control profile sys (.answer [.ok]) := by
  intro quiet
  cases congrArg Prod.snd quiet

/-- Nor is one that stores. -/
theorem not_quiet_store {entries : ProfileEntries} {reset : Bool} :
    ¬Quiet control profile sys (.store entries reset .ok) := by
  intro quiet
  cases congrArg Prod.snd quiet

/-- A refusal that stores what is there is quiet. -/
theorem quiet_store_iff {entries : ProfileEntries} :
    Quiet control profile sys (.store entries false .ng) ↔ entries = sys.part profile := by
  unfold Quiet perform
  constructor
  · intro quiet
    have parts := congrArg (fun outcome : System × List Line => outcome.1.part profile) quiet
    simpa [Whole.put, Whole.share] using parts
  · rintro rfl
    simp [Whole.put, Whole.share]

/-- A plan answers with one line, and never that the setting is not supported. -/
def Plan.Answers (control : Control) (profile : Profile) (sys : System) (plan : Plan) : Prop :=
  (perform control profile sys plan).2.length = 1 ∧
    .ns ∉ (perform control profile sys plan).2

/-- A refusal is such a plan. -/
theorem answers_ng : Plan.Answers control profile sys (.answer [.ng]) :=
  ⟨rfl, show .ns ∉ [Line.ng] by decide⟩

/-- So is an acceptance. -/
theorem answers_ok : Plan.Answers control profile sys (.answer [.ok]) :=
  ⟨rfl, show .ns ∉ [Line.ok] by decide⟩

/-- So is one that stores. -/
theorem answers_store {entries : ProfileEntries} {reset : Bool} {line : Line} (other : line ≠ .ns) :
    Plan.Answers control profile sys (.store entries reset line) :=
  ⟨rfl, fun member => other (List.mem_singleton.mp member).symm⟩

/-- So is one that hands on. -/
theorem answers_control {field : Field} {data : Data} :
    Plan.Answers control profile sys (.control field data) := by
  refine ⟨rfl, fun member => ?_⟩
  rw [perform] at member
  generalize control profile field data sys = outcome at member
  obtain ⟨after, _ | _⟩ := outcome
  · cases List.mem_singleton.mp member
  · cases List.mem_singleton.mp member

/-! ## Bodies -/

variable {b : Build} {text : List UInt8}

/-- What a setter does with a value is one line. -/
theorem answers_bodyOf (setting : Setting) (handler : Profile) :
    Plan.Answers control profile sys
      (bodyOf setting handler b sys.common (sys.part profile) text) := by
  cases setting with
  | format =>
    simp only [bodyOf]
    unfold formatBody
    split_ifs
    · exact answers_ng
    · exact answers_ng
    · exact answers_store nofun
    · exact answers_ok
  | res =>
    simp only [bodyOf]
    unfold resBody
    split
    · exact answers_ng
    dsimp only
    split_ifs
    · exact answers_ng
    · exact answers_ng
    · exact answers_store nofun
    · exact answers_store nofun
    · exact answers_store nofun
    · exact answers_ng
  | rate =>
    simp only [bodyOf]
    unfold rateBody
    split_ifs
    · exact answers_ng
    · exact answers_ng
    · exact answers_control
    · exact answers_ok
  | bps =>
    simp only [bodyOf]
    unfold bpsBody
    split_ifs
    · exact answers_ng
    · exact answers_control
    · exact answers_ng
  | quality =>
    simp only [bodyOf]
    unfold qualityBody
    split_ifs
    · exact answers_ng
    · exact answers_ng
    · exact answers_control
  | qmod =>
    simp only [bodyOf]
    unfold qmodBody
    split_ifs
    · exact answers_ng
    · exact answers_ng
    · exact answers_ng
    · exact answers_store nofun
    · exact answers_ok
  | keyframeinterval =>
    simp only [bodyOf]
    unfold keyframeintervalBody
    split_ifs
    · exact answers_ng
    · exact answers_ng
    · exact answers_ng
    · exact answers_control
  | view =>
    simp only [bodyOf]
    unfold viewBody
    split
    · exact answers_ng
    dsimp only
    split_ifs
    · exact answers_ng
    · exact answers_store nofun
    · exact answers_store nofun
    · exact answers_store nofun
    · exact answers_ng

/-- The text is no size when there is none. -/
theorem noSize_of_none {shared : Shared} {tooLarge : Int × Int → Prop}
    (none : readSize text = Option.none) : NoSize shared text tooLarge :=
  fun _ found => nomatch none.symm.trans found

/-- A size that is read decides. -/
theorem noSize_iff {shared : Shared} {tooLarge : Int × Int → Prop} {size : Int × Int}
    (found : readSize text = some size) :
    NoSize shared text tooLarge ↔ tooLarge size ∨ text ∉ shared.resolutionList := by
  constructor
  · exact fun no => no size found
  · intro no other read
    rw [found] at read
    cases read
    exact no

/-- A bit rate setter finds its entry. -/
theorem any_looksFor_iff (shared : Shared) (text : List UInt8) (handler : Profile) :
    shared.mp4Bitrate.any (looksFor handler text) = true ↔ Finds shared text handler := by
  cases handler <;> simp [Finds, looksFor]

/-- A resolution setter does nothing but refuse exactly the values that it declines. -/
theorem quiet_resBody_iff (handler : Profile) :
    Quiet control profile sys (resBody b sys.common (sys.part profile) text) ↔
      Declines control b profile sys text .res handler := by
  simp only [Declines]
  unfold resBody
  cases found : readSize text with
  | none => exact iff_of_true quiet_ng (.inl (noSize_of_none found))
  | some size =>
    rw [noSize_iff found]
    dsimp only
    by_cases crop : b.useSensorCrop ∧ cropRefuses sys.common size
    · rw [if_pos crop]
      exact iff_of_true quiet_ng (.inl (.inl (.inl crop)))
    by_cases large : b.supportEptz = false ∧ (sys.part profile).codecname = b.mpeg4ParserName ∧
        Exceeds size (1920, 1080)
    · rw [if_neg crop, if_pos large]
      exact iff_of_true quiet_ng (.inl (.inl (.inr large)))
    by_cases listed : text ∈ sys.common.resolutionList
    · have fits : ¬((b.useSensorCrop ∧ cropRefuses sys.common size ∨
          b.supportEptz = false ∧ (sys.part profile).codecname = b.mpeg4ParserName ∧
            Exceeds size (1920, 1080)) ∨ text ∉ sys.common.resolutionList) := by
        rintro ((no | no) | no)
        · exact crop no
        · exact large no
        · exact no listed
      rw [if_neg crop, if_neg large, if_neg (not_not.mpr listed), or_iff_right fits]
      split_ifs with unread other
      · rw [quiet_store_iff, and_iff_right unread]
        constructor
        · exact fun same => congrArg ProfileEntries.oldRes same
        · intro same
          rw [same]
      · exact iff_of_false not_quiet_store fun no => unread no.1
      · exact iff_of_false not_quiet_store fun no => unread no.1
    · rw [if_neg crop, if_neg large, if_pos listed]
      exact iff_of_true quiet_ng (.inl (.inr listed))

/-- So does a view size setter. -/
theorem quiet_viewBody_iff (handler : Profile) :
    Quiet control profile sys (viewBody b sys.common (sys.part profile) text) ↔
      Declines control b profile sys text .view handler := by
  simp only [Declines]
  unfold viewBody
  cases found : readSize text with
  | none => exact iff_of_true quiet_ng (.inl (noSize_of_none found))
  | some size =>
    rw [noSize_iff found]
    dsimp only
    by_cases large : (sys.part profile).codecname = b.mpeg4ParserName ∧ Exceeds size (1920, 1080)
    · rw [if_pos large]
      exact iff_of_true quiet_ng (.inl (.inl large))
    by_cases listed : text ∈ sys.common.resolutionList
    · have fits : ¬(((sys.part profile).codecname = b.mpeg4ParserName ∧
          Exceeds size (1920, 1080)) ∨ text ∉ sys.common.resolutionList) := by
        rintro (no | no)
        · exact large no
        · exact no listed
      rw [if_neg large, if_neg (not_not.mpr listed), or_iff_right fits]
      split_ifs with unread other
      · rw [quiet_store_iff, and_iff_right unread]
        constructor
        · exact fun same => congrArg ProfileEntries.oldWin same
        · intro same
          rw [same]
      · exact iff_of_false not_quiet_store fun no => unread no.1
      · exact iff_of_false not_quiet_store fun no => unread no.1
    · rw [if_neg large, if_pos listed]
      exact iff_of_true quiet_ng (.inl (.inr listed))

/-- A setter does nothing but refuse exactly the values that it declines. -/
theorem quiet_bodyOf_iff (setting : Setting) (handler : Profile) :
    Quiet control profile sys (bodyOf setting handler b sys.common (sys.part profile) text) ↔
      Declines control b profile sys text setting handler := by
  cases setting with
  | format =>
    simp only [bodyOf, Declines]
    unfold formatBody
    have known : text ∉ [b.jpegParserName, b.mpeg4ParserName, b.h264ParserName] ↔
        text ≠ b.jpegParserName ∧ text ≠ b.mpeg4ParserName ∧ text ≠ b.h264ParserName := by simp
    rw [known]
    split_ifs with unknown refused other
    · exact iff_of_true quiet_ng (.inl unknown)
    · exact iff_of_true quiet_ng (.inr refused)
    · exact iff_of_false not_quiet_store fun declines => declines.elim unknown refused
    · exact iff_of_false not_quiet_ok fun declines => declines.elim unknown refused
  | res => exact quiet_resBody_iff handler
  | rate =>
    simp only [bodyOf, Declines]
    unfold rateBody
    split_ifs with words range other
    · exact iff_of_true quiet_ng (.inl words)
    · exact iff_of_true quiet_ng (.inr (.inl range))
    · rw [quiet_control_iff, or_iff_right words, or_iff_right range, and_iff_right other]
    · refine iff_of_false not_quiet_ok ?_
      rintro (no | no | no)
      · exact words no
      · exact range no
      · exact other no.1
  | bps =>
    simp only [bodyOf, Declines]
    unfold bpsBody
    rw [← any_looksFor_iff]
    split_ifs with jpeg found
    · exact iff_of_true quiet_ng (.inl jpeg)
    · rw [quiet_control_iff, or_iff_right jpeg, or_iff_right (not_not.mpr found)]
    · exact iff_of_true quiet_ng (.inr (.inl found))
  | quality =>
    simp only [bodyOf, Declines]
    unfold qualityBody
    split_ifs with words large
    · exact iff_of_true quiet_ng (.inl words)
    · exact iff_of_true quiet_ng (.inr (.inl large))
    · rw [quiet_control_iff, or_iff_right words, or_iff_right large]
  | qmod =>
    simp only [bodyOf, Declines]
    unfold qmodBody
    split_ifs with words jpeg large other
    · exact iff_of_true quiet_ng (.inl words)
    · exact iff_of_true quiet_ng (.inr (.inl jpeg))
    · exact iff_of_true quiet_ng (.inr (.inr large))
    · refine iff_of_false not_quiet_store ?_
      rintro (no | no | no)
      · exact words no
      · exact jpeg no
      · exact large no
    · refine iff_of_false not_quiet_ok ?_
      rintro (no | no | no)
      · exact words no
      · exact jpeg no
      · exact large no
  | keyframeinterval =>
    simp only [bodyOf, Declines]
    unfold keyframeintervalBody
    split_ifs with jpeg large same
    · exact iff_of_true quiet_ng (.inl jpeg)
    · exact iff_of_true quiet_ng (.inr (.inl large))
    · exact iff_of_true quiet_ng (.inr (.inr (.inl same)))
    · rw [quiet_control_iff, or_iff_right jpeg, or_iff_right large, or_iff_right same]
  | view => exact quiet_viewBody_iff handler

/-- Which of two plans is the copy does not matter. -/
theorem copied_comm {left right : Plan} :
    Copied control profile sys good left right ↔ Copied control profile sys good right left := by
  constructor
  · rintro ⟨same, supported, one⟩
    exact ⟨same.symm, same ▸ supported, same ▸ one⟩
  · rintro ⟨same, supported, one⟩
    exact ⟨same.symm, same ▸ supported, same ▸ one⟩

/-- What a text of digits holds is not negative. -/
theorem atoi_nonneg {text : List UInt8} (numeric : numericCheck text = true) : 0 ≤ atoi text := by
  rw [atoi_eq, leadingInt_of_numeric numeric, clampInt]
  omega

/-- Copies are quiet together. -/
theorem Copied.quiet_iff {left right : Plan} (copied : Copied control profile sys good left right) :
    Quiet control profile sys left ↔ Quiet control profile sys right := by
  rw [Quiet, Quiet, copied.1]

/-- A body is its own copy when what it accepts is good. -/
theorem copied_bodyOf_self (setting : Setting) (handler : Profile)
    (right : .ok ∈ (perform control profile sys
      (bodyOf setting handler b sys.common (sys.part profile) text)).2 → good) :
    Copied control profile sys good
      (bodyOf setting handler b sys.common (sys.part profile) text)
      (bodyOf setting handler b sys.common (sys.part profile) text) :=
  ⟨rfl, right, (answers_bodyOf setting handler).1⟩

/-- The codec setters accept the names of the codecs. -/
theorem supported_format (handler : Profile)
    (accepted : .ok ∈ (perform control profile sys
      (bodyOf .format handler b sys.common (sys.part profile) text)).2) :
    text ∈ [b.jpegParserName, b.mpeg4ParserName, b.h264ParserName] := by
  by_contra unknown
  have quiet := (quiet_bodyOf_iff .format handler).mpr
    (show Declines control b profile sys text .format handler from .inl unknown)
  rw [quiet] at accepted
  exact absurd accepted (show .ok ∉ [Line.ng] by decide)

/-- The resolution setters accept the resolutions of the list. -/
theorem supported_res (handler : Profile)
    (accepted : .ok ∈ (perform control profile sys
      (bodyOf .res handler b sys.common (sys.part profile) text)).2) :
    text ∈ sys.common.resolutionList := by
  by_contra unlisted
  have quiet := (quiet_bodyOf_iff .res handler).mpr
    (show Declines control b profile sys text .res handler from .inl fun _ _ => .inr unlisted)
  rw [quiet] at accepted
  exact absurd accepted (show .ok ∉ [Line.ng] by decide)

/-- Two codec setters refuse MPEG-4 in the same builds, or the build is one that only profile 3
does not refuse it in. -/
theorem refusesMpeg4_eq_iff (source target : Profile) :
    refusesMpeg4 source b = refusesMpeg4 target b ↔
      (b.tyco720pOrD2 = false → b.tycoOther = true → (source = .three ↔ target = .three)) := by
  cases d2 : b.tyco720pOrD2 <;> cases rest : b.tycoOther <;> cases source <;> cases target <;>
    simp [refusesMpeg4, d2, rest]

/-- The codec setters agree when both or neither refuse MPEG-4. -/
theorem copied_format_iff (source target : Profile) :
    Copied control profile sys (text ∈ [b.jpegParserName, b.mpeg4ParserName, b.h264ParserName])
        (bodyOf .format source b sys.common (sys.part profile) text)
        (bodyOf .format target b sys.common (sys.part profile) text) ↔
      (text = b.mpeg4ParserName → refusesMpeg4 source b = refusesMpeg4 target b) := by
  constructor
  · intro copied mpeg4
    have together := copied.quiet_iff
    rw [quiet_bodyOf_iff, quiet_bodyOf_iff] at together
    simpa [Declines, mpeg4] using together
  · intro agree
    have same : bodyOf .format target b sys.common (sys.part profile) text =
        bodyOf .format source b sys.common (sys.part profile) text := by
      simp only [bodyOf]
      unfold formatBody
      by_cases mpeg4 : text = b.mpeg4ParserName
      · rw [agree mpeg4]
      · simp only [mpeg4, and_false, if_false]
    rw [same]
    exact copied_bodyOf_self .format source (supported_format source)

/-- The bit rate setters agree when both or neither find their entry unless the service refuses;
what they accept then has to be in the list. -/
theorem copied_bps_iff (source target : Profile) :
    Copied control profile sys (text ∈ sys.common.mp4Bitrate)
        (bodyOf .bps source b sys.common (sys.part profile) text)
        (bodyOf .bps target b sys.common (sys.part profile) text) ↔
      ((sys.part profile).codecname ≠ b.jpegParserName →
        ¬Refuses control profile .cbr (.text text) sys →
        (Finds sys.common text source ↔ Finds sys.common text target) ∧
        (Finds sys.common text source → (control profile .cbr (.text text) sys).2 = true →
          text ∈ sys.common.mp4Bitrate)) := by
  rw [← any_looksFor_iff, ← any_looksFor_iff]
  simp only [bodyOf]
  unfold bpsBody
  by_cases jpeg : (sys.part profile).codecname = b.jpegParserName
  · rw [if_pos jpeg, if_pos jpeg]
    exact iff_of_true copied_ng fun other => absurd jpeg other
  rw [if_neg jpeg, if_neg jpeg]
  simp only [ne_eq, jpeg, not_false_eq_true, forall_const]
  generalize sys.common.mp4Bitrate.any (looksFor source text) = finds
  generalize sys.common.mp4Bitrate.any (looksFor target text) = finds'
  by_cases refuses : Refuses control profile .cbr (.text text) sys
  · have quiet : perform control profile sys (.control .cbr (.text text)) = (sys, [.ng]) :=
      quiet_control_iff.mpr refuses
    have quiet_ng : perform control profile sys (.answer [.ng]) = (sys, [.ng]) := rfl
    refine iff_of_true ⟨?_, ?_, ?_⟩ fun takes => absurd refuses takes
    · cases finds <;> cases finds' <;> simp [quiet, quiet_ng]
    · cases finds <;> simp [quiet, quiet_ng]
    · cases finds <;> simp [quiet, quiet_ng]
  · have shows := mt quiet_control_iff.mp refuses
    simp only [refuses, not_false_eq_true, forall_const]
    cases finds <;> cases finds'
    · exact iff_of_true copied_ng ⟨Iff.rfl, nofun⟩
    · exact iff_of_false (fun copied => shows (copied_quiet_right.mp copied))
        fun both => nomatch both.1.mpr rfl
    · exact iff_of_false (fun copied => shows (copied_quiet_left.mp copied))
        fun both => nomatch both.1.mp rfl
    · simp only [if_pos, true_and, forall_const]
      refine ⟨fun copied accepted => copied.2.1 ?_, copied_control⟩
      simp [perform, accepted]

/-- A quality setter with an `int` and one with a byte agree on a quality that fits a byte, and on
others when the low byte is refused too. -/
theorem copied_qualityBody (alike : Alike control) :
    Copied control profile sys True
        (qualityBody id 4 b sys.common (sys.part profile) text)
        (qualityBody (fun value => narrow 8 value) 1 b sys.common (sys.part profile) text) ↔
      (numericCheck text = true → 255 < atoi text →
        narrow 8 (atoi text) ≤ b.maxProfileQuality →
        Refuses control profile .quality (.number (narrow 8 (atoi text)) 1) sys) := by
  unfold qualityBody
  by_cases numeric : numericCheck text = true
  · have words : ¬numericCheck text = false := by simp [numeric]
    rw [if_neg words, if_neg words]
    simp only [numeric, forall_const, id]
    have positive := atoi_nonneg numeric
    by_cases large : 255 < atoi text
    · have beyond : atoi text > b.maxProfileQuality := by
        have small := b.small
        omega
      rw [if_pos beyond]
      by_cases low : narrow 8 (atoi text) ≤ b.maxProfileQuality
      · have fits : ¬(narrow 8 (atoi text) : Int) > b.maxProfileQuality := by omega
        rw [if_neg fits]
        simp only [large, low, forall_const]
        rw [copied_quiet_right, quiet_control_iff]
      · have refused : (narrow 8 (atoi text) : Int) > b.maxProfileQuality := by omega
        rw [if_pos refused]
        exact iff_of_true copied_ng fun _ fits => absurd fits low
    · have fits : (narrow 8 (atoi text) : Int) = atoi text :=
        narrow_of_fits positive (by omega)
      simp only [fits]
      refine iff_of_true ?_ fun beyond => absurd beyond large
      split
      · exact copied_ng
      · refine ⟨?_, fun _ => trivial, rfl⟩
        simp only [perform, alike.bytes profile .quality (atoi text) 1 4]
  · have words : numericCheck text = false := by simpa using numeric
    rw [if_pos words, if_pos words]
    exact iff_of_true copied_ng fun digits => absurd digits numeric

/-- The quality setters of profiles 2 and 3 are the same. -/
theorem bodyOf_quality {handler : Profile} (other : handler ≠ .one) :
    bodyOf .quality handler = qualityBody (fun value => narrow 8 value) 1 := by
  cases handler with
  | one => exact absurd rfl other
  | two => rfl
  | three => rfl

/-- The quality setters agree when both or neither are that of profile 1, and where the service
refuses the low byte. -/
theorem copied_quality_iff (alike : Alike control) (source target : Profile) :
    Copied control profile sys True
        (bodyOf .quality source b sys.common (sys.part profile) text)
        (bodyOf .quality target b sys.common (sys.part profile) text) ↔
      (numericCheck text = true → 255 < atoi text →
        narrow 8 (atoi text) ≤ b.maxProfileQuality →
        ¬Refuses control profile .quality (.number (narrow 8 (atoi text)) 1) sys →
        (source = .one ↔ target = .one)) := by
  by_cases first : source = .one <;> by_cases second : target = .one
  · subst first second
    exact iff_of_true (copied_bodyOf_self .quality .one fun _ => trivial) fun _ _ _ _ => Iff.rfl
  · subst first
    rw [bodyOf_quality second]
    simp only [second, iff_false, not_true_eq_false, imp_false, not_not]
    exact copied_qualityBody alike
  · subst second
    rw [bodyOf_quality first, copied_comm]
    simp only [first, false_iff, not_true_eq_false, imp_false, not_not]
    exact copied_qualityBody alike
  · have same : bodyOf .quality target = bodyOf .quality source := by
      rw [bodyOf_quality first, bodyOf_quality second]
    rw [same]
    exact iff_of_true (copied_bodyOf_self .quality source fun _ => trivial)
      fun _ _ _ _ => iff_of_false first second

/-- What the setters of two profiles do with a value that both set is copied when the bodies
agree. -/
theorem copied_bodyOf_iff (alike : Alike control) (setting : Setting) (target : Profile) :
    Copied control profile sys (Supported b sys.common setting text)
        (bodyOf setting profile b sys.common (sys.part profile) text)
        (bodyOf setting target b sys.common (sys.part profile) text) ↔
      BodiesAgree control b profile target sys text setting := by
  cases setting with
  | format =>
    refine (copied_format_iff profile target).trans ?_
    rw [refusesMpeg4_eq_iff]
    rfl
  | bps => exact copied_bps_iff profile target
  | quality => exact copied_quality_iff alike profile target
  | res => exact iff_of_true (copied_bodyOf_self .res profile (supported_res profile)) trivial
  | rate => exact iff_of_true (copied_bodyOf_self .rate profile fun _ => trivial) trivial
  | qmod => exact iff_of_true (copied_bodyOf_self .qmod profile fun _ => trivial) trivial
  | keyframeinterval =>
    exact iff_of_true (copied_bodyOf_self .keyframeinterval profile fun _ => trivial) trivial
  | view => exact iff_of_true (copied_bodyOf_self .view profile fun _ => trivial) trivial

/-! ## What is told -/

/-- What is told is neither an acceptance nor that the setting is not supported. -/
theorem toldLine_ne (own : ProfileEntries) (setting : Setting) :
    toldLine b own setting ≠ .ok ∧ toldLine b own setting ≠ .ns := by
  have coded_ne (text : List UInt8) : coded b own text ≠ .ok ∧ coded b own text ≠ .ns := by
    unfold coded
    split_ifs
    · exact ⟨nofun, nofun⟩
    · exact ⟨nofun, nofun⟩
  cases setting with
  | format => exact ⟨nofun, nofun⟩
  | res => exact ⟨nofun, nofun⟩
  | rate => exact ⟨nofun, nofun⟩
  | view => exact ⟨nofun, nofun⟩
  | bps => exact coded_ne own.cbrQuality
  | qmod => exact coded_ne (decimal own.qmode)
  | keyframeinterval => exact coded_ne own.mpeg4gov
  | quality =>
    show qualityLine b own ≠ .ok ∧ qualityLine b own ≠ .ns
    unfold qualityLine
    split_ifs
    · exact ⟨nofun, nofun⟩
    · exact ⟨nofun, nofun⟩
    · exact ⟨nofun, nofun⟩

/-- A refusal is told exactly when the codec does not have the setting. -/
theorem toldLine_eq_ng_iff (own : ProfileEntries) (setting : Setting) :
    toldLine b own setting = .ng ↔ Untold b own setting := by
  have coded_iff (text : List UInt8) : coded b own text = .ng ↔
      own.codecname ≠ b.mpeg4ParserName ∧ own.codecname ≠ b.h264ParserName := by
    unfold coded
    rw [← not_or]
    split_ifs with has
    · exact iff_of_false nofun (not_not.mpr has)
    · exact iff_of_true rfl has
  cases setting with
  | format => exact iff_of_false nofun id
  | res => exact iff_of_false nofun id
  | rate => exact iff_of_false nofun id
  | view => exact iff_of_false nofun id
  | bps => exact coded_iff own.cbrQuality
  | qmod => exact coded_iff (decimal own.qmode)
  | keyframeinterval => exact coded_iff own.mpeg4gov
  | quality =>
    show qualityLine b own = .ng ↔ _ ∧ _ ∧ _
    unfold qualityLine
    rw [← and_assoc, ← not_or]
    split_ifs with has jpeg
    · exact iff_of_false nofun fun both => both.1 has
    · exact iff_of_false nofun fun both => both.2 jpeg
    · exact iff_of_true rfl ⟨has, jpeg⟩

/-- The answer for a missing profile is one refusal, or the setting is one of the two whose copy for
profile 3 returns or goes on. -/
theorem missingLines_eq_iff {told line : Line} (setting : Setting) (handler : Profile) :
    missingLines told setting handler = [line] ↔
      AnswersMissing setting handler ∧ line = .ng := by
  cases setting <;> cases handler <;> simp [missingLines, AnswersMissing, eq_comm]

/-- The answer for a missing profile is no acceptance. -/
theorem ok_notMem_missingLines {told : Line} (other : told ≠ .ok) (setting : Setting)
    (handler : Profile) : .ok ∉ missingLines told setting handler := by
  cases setting <;> cases handler <;> simp [missingLines, other.symm]

/-- Nor does it say that the setting is not supported. -/
theorem ns_notMem_missingLines {told : Line} (other : told ≠ .ns) (setting : Setting)
    (handler : Profile) : .ns ∉ missingLines told setting handler := by
  cases setting <;> cases handler <;> simp [missingLines, other.symm]

/-! ## What a setter comes to -/

variable {setting : Setting}

/-- A handler that is not there says so. -/
theorem setter_unhandled {handler : Profile} (not : ¬Handled b setting handler) :
    setter setting handler b sys.common (sys.part profile) text = .answer [.ns] := by
  rw [setter_eq]
  split_ifs with view
  · rfl
  · have beyond : handler.number > b.maxWebProfileNum := by
      by_contra within
      have fits : handler.number ≤ b.maxWebProfileNum := by omega
      refine not ⟨fits, fun is => ?_⟩
      by_contra without
      exact view ⟨is, by simpa using without⟩
    rw [guarded, if_pos beyond]

/-- One that is there begins with the value. -/
theorem setter_handled {handler : Profile} (handled : Handled b setting handler) :
    setter setting handler b sys.common (sys.part profile) text =
      if text = [] then
        .answer (if profileCheck sys.common.maxProfileNum handler.number < 0 then
          missingLines (toldLine b (sys.part profile) setting) setting handler
          else [toldLine b (sys.part profile) setting])
      else if profileCheck sys.common.maxProfileNum handler.number < 1 then .answer [.ng]
      else bodyOf setting handler b sys.common (sys.part profile) text := by
  have view : ¬(setting = .view ∧ b.supportEptz = false) := by
    rintro ⟨is, without⟩
    simp [handled.2 is] at without
  have within : ¬handler.number > b.maxWebProfileNum := by
    have fits := handled.1
    omega
  rw [setter_eq, if_neg view, guarded, if_neg within]

/-- Without a value a missing profile is answered. -/
theorem setter_missing {handler : Profile} (asks : AsksMissing b setting sys text handler) :
    setter setting handler b sys.common (sys.part profile) text =
      .answer (missingLines (toldLine b (sys.part profile) setting) setting handler) := by
  rw [setter_handled asks.1, if_pos asks.2.1, if_pos asks.2.2]

/-- Without a value the current one is told otherwise. -/
theorem setter_tells {handler : Profile} (handled : Handled b setting handler) (empty : text = [])
    (found : ¬AsksMissing b setting sys text handler) :
    setter setting handler b sys.common (sys.part profile) text =
      .answer [toldLine b (sys.part profile) setting] := by
  rw [setter_handled handled, if_pos empty, if_neg fun missed => found ⟨handled, empty, missed⟩]

/-- A value for a profile that can be set goes to the body. -/
theorem setter_sets {handler : Profile} (sets : Sets b setting sys text handler) :
    setter setting handler b sys.common (sys.part profile) text =
      bodyOf setting handler b sys.common (sys.part profile) text := by
  have present : ¬profileCheck sys.common.maxProfileNum handler.number < 1 := by
    have checked := sets.2.2
    omega
  rw [setter_handled sets.1, if_neg sets.2.1, if_neg present]

/-- A value for any other profile is refused. -/
theorem setter_refuses {handler : Profile} (handled : Handled b setting handler) (given : text ≠ [])
    (not : ¬Sets b setting sys text handler) :
    setter setting handler b sys.common (sys.part profile) text = .answer [.ng] := by
  have special : profileCheck sys.common.maxProfileNum handler.number < 1 := by
    by_contra present
    exact not ⟨handled, given, by omega⟩
  rw [setter_handled handled, if_neg given, if_pos special]

/-- A handler that is there never says that it is not. -/
theorem ns_notMem_setter {handler : Profile} (handled : Handled b setting handler) :
    .ns ∉ (perform control profile sys
      (setter setting handler b sys.common (sys.part profile) text)).2 := by
  have told := (toldLine_ne (b := b) (sys.part profile) setting).2
  rw [setter_handled handled]
  split_ifs
  · exact ns_notMem_missingLines told setting handler
  · exact fun member => told (List.mem_singleton.mp member).symm
  · exact fun member => nomatch List.mem_singleton.mp member
  · exact (answers_bodyOf setting handler).2

/-- Where only one of the handlers is there, they are no copies. -/
theorem not_copied_setter {source target : Profile}
    (one : ¬(Handled b setting source ↔ Handled b setting target)) :
    ¬Copied control profile sys good
      (setter setting source b sys.common (sys.part profile) text)
      (setter setting target b sys.common (sys.part profile) text) := by
  intro copied
  have said {handler : Profile} : .ns ∈ (perform control profile sys
      (setter setting handler b sys.common (sys.part profile) text)).2 ↔
        ¬Handled b setting handler := by
    constructor
    · exact fun unsupported handled => ns_notMem_setter handled unsupported
    · intro not
      rw [setter_unhandled not]
      exact List.mem_singleton.mpr rfl
  have same : ¬Handled b setting target ↔ ¬Handled b setting source := by
    rw [← said, ← said, copied.1]
  exact one (not_iff_not.mp same).symm

/-- Without a value the handlers are copies when the answers are. -/
theorem copied_setter_empty {source target : Profile} (left : Handled b setting source)
    (right : Handled b setting target) (empty : text = []) :
    Copied control profile sys good
        (setter setting source b sys.common (sys.part profile) text)
        (setter setting target b sys.common (sys.part profile) text) ↔
      (AsksMissing b setting sys text source → AnswersMissing setting source ∧
        (¬AsksMissing b setting sys text target → Untold b (sys.part profile) setting)) ∧
      (AsksMissing b setting sys text target → AnswersMissing setting target ∧
        (¬AsksMissing b setting sys text source → Untold b (sys.part profile) setting)) := by
  have told := (toldLine_ne (b := b) (sys.part profile) setting).1
  have ok (handler : Profile) := ok_notMem_missingLines told setting handler
  have told_ok : .ok ∉ [toldLine b (sys.part profile) setting] :=
    fun member => told (List.mem_singleton.mp member).symm
  by_cases first : AsksMissing b setting sys text source <;>
    by_cases second : AsksMissing b setting sys text target
  · rw [setter_missing first, setter_missing second, copied_answer_iff (ok source)]
    simp only [first, second, forall_const, not_true_eq_false, false_imp_iff, and_true]
    constructor
    · rintro ⟨same, one⟩
      obtain ⟨line, is⟩ := List.length_eq_one_iff.mp one
      exact ⟨((missingLines_eq_iff _ _).mp is).1, ((missingLines_eq_iff _ _).mp (same.trans is)).1⟩
    · rintro ⟨answers, answers'⟩
      rw [(missingLines_eq_iff _ _).mpr ⟨answers, rfl⟩, (missingLines_eq_iff _ _).mpr ⟨answers', rfl⟩]
      exact ⟨rfl, rfl⟩
  · rw [setter_missing first, setter_tells right empty second, copied_answer_iff (ok source),
      eq_comm, ← toldLine_eq_ng_iff]
    simp only [first, second, not_false_eq_true, forall_const, false_imp_iff, and_true]
    constructor
    · exact fun both => (missingLines_eq_iff _ _).mp both.1
    · intro both
      have is : missingLines (toldLine b (sys.part profile) setting) setting source =
          [toldLine b (sys.part profile) setting] := (missingLines_eq_iff _ _).mpr both
      rw [is]
      exact ⟨rfl, rfl⟩
  · rw [setter_tells left empty first, setter_missing second, copied_answer_iff told_ok,
      ← toldLine_eq_ng_iff]
    simp only [first, second, not_false_eq_true, forall_const, false_imp_iff, true_and]
    constructor
    · exact fun both => (missingLines_eq_iff _ _).mp both.1
    · exact fun both => ⟨(missingLines_eq_iff _ _).mpr both, rfl⟩
  · rw [setter_tells left empty first, setter_tells right empty second, copied_answer_iff told_ok]
    exact iff_of_true ⟨rfl, rfl⟩ ⟨fun asks => absurd asks first, fun asks => absurd asks second⟩

/-- With a value the handlers are copies when the bodies agree, or the only one that goes to its
body declines. -/
theorem copied_setter_given (alike : Alike control) {target : Profile}
    (left : Handled b setting profile) (right : Handled b setting target) (given : text ≠ []) :
    Copied control profile sys (Supported b sys.common setting text)
        (setter setting profile b sys.common (sys.part profile) text)
        (setter setting target b sys.common (sys.part profile) text) ↔
      (Sets b setting sys text profile → Sets b setting sys text target →
        BodiesAgree control b profile target sys text setting) ∧
      (Sets b setting sys text profile → ¬Sets b setting sys text target →
        Declines control b profile sys text setting profile) ∧
      (¬Sets b setting sys text profile → Sets b setting sys text target →
        Declines control b profile sys text setting target) := by
  by_cases first : Sets b setting sys text profile <;>
    by_cases second : Sets b setting sys text target
  · rw [setter_sets first, setter_sets second, copied_bodyOf_iff alike]
    simp only [first, second, forall_const, not_true_eq_false, false_imp_iff, and_true]
  · rw [setter_sets first, setter_refuses right given second, copied_quiet_left, quiet_bodyOf_iff]
    simp only [first, second, forall_const, not_true_eq_false, false_imp_iff, and_true, true_and,
      not_false_eq_true]
  · rw [setter_refuses left given first, setter_sets second, copied_quiet_right, quiet_bodyOf_iff]
    simp only [first, second, forall_const, false_imp_iff, true_and, not_false_eq_true]
  · rw [setter_refuses left given first, setter_refuses right given second]
    exact iff_of_true copied_ng ⟨fun sets => absurd sets first, fun sets => absurd sets first,
      fun _ sets => absurd sets second⟩

end Plans

/-! ## The exact condition -/

/-- The handlers of a setting and two profiles are copies of each other for a value exactly when no
slip shows. -/
theorem copies_iff_slipFree {control : Control} (alike : Alike control) (b : Build)
    (setting : Setting) (source target : Profile) (sys : System) (text : List UInt8) :
    IsCopy control b setting source target sys text ↔
      SlipFree control b source target sys text setting := by
  rw [isCopy_iff alike]
  by_cases handled : Handled b setting source ↔ Handled b setting target
  · by_cases left : Handled b setting source
    · have right := handled.mp left
      by_cases empty : text = []
      · rw [copied_setter_empty left right empty]
        exact ⟨fun both => ⟨handled, both.1, both.2, fun sets => absurd empty sets.2.1,
          fun sets => absurd empty sets.2.1, fun _ sets => absurd empty sets.2.1⟩,
          fun free => ⟨free.missing_source, free.missing_target⟩⟩
      · rw [copied_setter_given alike left right empty]
        exact ⟨fun all => ⟨handled, fun asks => absurd asks.2.1 empty,
          fun asks => absurd asks.2.1 empty, all.1, all.2.1, all.2.2⟩,
          fun free => ⟨free.both, free.only_source, free.only_target⟩⟩
    · have right := mt handled.mpr left
      rw [setter_unhandled left, setter_unhandled right,
        copied_answer_iff (show .ok ∉ [Line.ns] by decide)]
      exact iff_of_true ⟨rfl, rfl⟩ ⟨handled, fun asks => absurd asks.1 left,
        fun asks => absurd asks.1 right, fun sets => absurd sets.1 left,
        fun sets => absurd sets.1 left, fun _ sets => absurd sets.1 right⟩
  · exact iff_of_false (not_copied_setter handled) fun free => handled free.handled

/-- A service that keeps what it is handed. -/
def recording : Control := fun profile field data sys =>
  match field, data with
  | .framerate, .text text =>
    (sys.put profile { sys.part profile with framerate := text }, true)
  | .cbr, .text text => (sys.put profile { sys.part profile with cbrQuality := text }, true)
  | .quality, .number value _ =>
    (sys.put profile { sys.part profile with fixedQuality := narrow 8 value }, true)
  | .gov, .number value _ =>
    (sys.put profile { sys.part profile with mpeg4keyframeinterval := narrow 8 value }, true)
  | _, _ => (sys, false)

/-- It treats the profiles alike. -/
theorem alike_recording : Alike recording where
  profiles σ profile field data sys := by
    cases field <;> cases data <;>
      simp only [recording, Whole.rename_part, Prod.map, id, Whole.rename_put]
  bytes profile field value left right sys := by cases field <;> rfl

/-- A build of no special camera. -/
def plainBuild : Build where
  maxWebProfileNum := 3
  jpegParserName := ascii "JPEG"
  mpeg4ParserName := ascii "MPEG4"
  h264ParserName := ascii "H.264"
  maxProfileQuality := 100
  small := Nat.le_of_ble_eq_true rfl
  tyco720pOrD2 := false
  tycoOther := false
  useSensorCrop := false
  supportEptz := false

/-- Its configuration, with H.264 in every profile. -/
def plainSystem : System where
  common := ⟨4, [ascii "640x480"], [ascii "1M", ascii "2M"], [], false⟩
  part _ :=
    { codecname := ascii "H.264", resolution := ascii "640x480", framerate := ascii "30"
      cbrQuality := ascii "1M", fixedQuality := 70, jpegQuality := 70, qmode := 0, qmodeMax := 1
      mpeg4gov := ascii "30", mpeg4keyframeinterval := 30, eptzWindowSize := ascii "640x480"
      profilesize := (640, 480), oldProfileSize := (640, 480), oldRes := (640, 480)
      oldWin := (640, 480), resChange := false }

/-- The quality 80 fits a byte. -/
theorem copies_iff_slipFree_quality :
    IsCopy recording plainBuild .quality .one .two plainSystem (ascii "80") :=
  (copies_iff_slipFree alike_recording plainBuild .quality .one .two plainSystem (ascii "80")).mpr
    { handled := iff_of_true ⟨by decide, nofun⟩ ⟨by decide, nofun⟩
      missing_source := fun asks => nomatch asks.2.1
      missing_target := fun asks => nomatch asks.2.1
      both := fun _ _ _ large => absurd large (by decide)
      only_source := fun _ other => absurd ⟨⟨by decide, nofun⟩, nofun, by decide⟩ other
      only_target := fun other _ => absurd ⟨⟨by decide, nofun⟩, nofun, by decide⟩ other }

/-- The bit rate `abc`, which is not in the list, is accepted for profile 2. -/
theorem setPrf2bps_accepts_unlisted :
    ¬∀ control : Control, Alike control → ∀ (b : Build) (setting : Setting)
      (source target : Profile) (sys : System) (text : List UInt8),
      IsCopy control b setting source target sys text := by
  intro copies
  have copy := copies recording alike_recording plainBuild .bps .two .one plainSystem (ascii "abc")
  have accepted : .ok ∈ (handle recording plainBuild .bps .two plainSystem (ascii "abc")).2 := by
    decide
  have unlisted : ascii "abc" ∉ plainSystem.common.mp4Bitrate := by decide
  exact unlisted (copy.supported accepted)

end BoaIpcam.Video
