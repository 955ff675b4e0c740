import BoaIpcam.Numeral

/-!
# Relative moves of the camera

`uri_ptz_move_rel` and `uri_manual_focus` of `request.c` move an axis by a displacement, keep it
between its limits, and print the displacement that is left, divided by the step of the axis. The
steps are set by `uri_ptz_step`. The arithmetic is that of `int`, and a result that does not fit
wraps.
-/
namespace BoaIpcam.Relative

/-! ## Arithmetic of `int` -/

/-- The `int` with the lowest 32 bits of a number. -/
def int32 (value : Int) : Int := (value + 2147483648) % 4294967296 - 2147483648

/-- `abs`. -/
def abs32 (value : Int) : Int := if value < 0 then int32 (-value) else value

/-- The quotient that is printed; a division by zero has none. -/
def quotient (move step : Int) : Option Int :=
  if step = 0 then none else some (int32 (move.tdiv step))

/-- The result is an `int`. -/
theorem isInt_int32 (value : Int) : IsInt (int32 value) := by
  unfold IsInt int32
  omega

/-! ## The handlers -/

/-- The step and the limits of an axis. -/
structure Axis where
  /-- The step. -/
  step : Int
  /-- The least position. -/
  min : Int
  /-- The greatest position. -/
  max : Int
  /-- The limits are of type `int`. -/
  bounds : IsInt min ∧ IsInt max

/-- `nipca_ptz`. -/
structure NipcaPtz where
  /-- The pan axis. -/
  pan : Axis
  /-- The tilt axis. -/
  tilt : Axis
  /-- The zoom axis. -/
  zoom : Axis

/-- The arguments of a request. -/
abbrev Arguments := List (List UInt8 × List UInt8)

/-- The loop over the arguments for a name: the last value counts. -/
def lastInt (name : List UInt8) (args : Arguments) (start : Int) : Int :=
  args.foldl (fun value arg => if arg.1 = name then atoi arg.2 else value) start

/-- A position and the displacement that leads to it. -/
structure Moved where
  /-- The new position. -/
  position : Int
  /-- The displacement. -/
  move : Int
deriving DecidableEq, Repr

/-- The answer with the quotients, and the axes. -/
structure MoveRel where
  /-- The move of the pan axis. -/
  pan : Moved
  /-- The move of the tilt axis. -/
  tilt : Moved
  /-- The move of the zoom axis. -/
  zoom : Moved
  /-- The quotients, unless a step is zero. -/
  printed : Option (Int × Int × Int)
deriving DecidableEq, Repr

/-- The three `sprintf` of `uri_ptz_move_rel`. -/
def printMoves (ptz : NipcaPtz) (pan tilt zoom : Int) : Option (Int × Int × Int) := do
  let p ← quotient pan ptz.pan.step
  let t ← quotient tilt ptz.tilt.step
  let z ← quotient zoom ptz.zoom.step
  some (p, t, z)

/-- The displacements that are asked for, multiplied by the steps. -/
def asked (axis : Axis) (name : List UInt8) (args : Arguments) : Int :=
  int32 (lastInt name args 0 * axis.step)

section Visca

/-- Four bits of a word. -/
def nibble (word : UInt32) (shift : Nat) : Int := (word.toNat / 2 ^ shift % 16 : Nat)

/-- The position in a word of the answer to `CAM_PAN_TILT_POS_INQ`. -/
def panTiltPosition (info : UInt32) : Int :=
  nibble info 24 * 4096 + nibble info 16 * 256 + nibble info 8 * 16 + nibble info 0

/-- The position in the words of the answer to `CAM_ZOOM_POS_INQ`. -/
def zoomPosition (value extend : UInt32) : Int :=
  nibble value 8 * 4096 + nibble value 0 * 256 + nibble extend 24 * 16 + nibble extend 16

/-- The displacements of pan and tilt are at most 32. -/
def limit32 (move : Int) : Int := if 32 < move then 32 else if move < -32 then -32 else move

/-- An axis moves to its limits at most; `excess` is the displacement that is left when the upper
limit is passed. -/
def moveAxis (excess : Int) (axis : Axis) (position move : Int) : Moved :=
  if axis.max < int32 (position + move) then ⟨axis.max, excess⟩
  else if int32 (position + move) < axis.min then ⟨axis.min, int32 (axis.min - position)⟩
  else ⟨int32 (position + move), move⟩

/-- The tilt of the VISCA build. -/
def moveTilt (axis : Axis) (position move : Int) : Moved :=
  moveAxis (int32 (axis.max - position)) axis position move

/-- The zoom of the VISCA build, where the upper limit less the displacement is left. -/
def moveZoom (axis : Axis) (position move : Int) : Moved :=
  moveAxis (int32 (axis.max - move)) axis position move

/-- The words of the answers of the camera. -/
structure Inquiry where
  /-- The pan. -/
  pan : UInt32
  /-- The tilt. -/
  tilt : UInt32
  /-- The zoom. -/
  zoomValue : UInt32
  /-- The digital zoom. -/
  zoomExtend : UInt32

/-- `uri_ptz_move_rel` of the VISCA build. The position of the pan stays as the camera told it. -/
def uriPtzMoveRelVisca (ptz : NipcaPtz) (info : Inquiry) (args : Arguments) : MoveRel :=
  let pmove := limit32 (asked ptz.pan (ascii "p") args)
  let tmove := limit32 (asked ptz.tilt (ascii "t") args)
  let zmove := asked ptz.zoom (ascii "z") args
  let pan : Moved := ⟨panTiltPosition info.pan, pmove⟩
  let tilt := moveTilt ptz.tilt (panTiltPosition info.tilt) tmove
  let zoom := moveZoom ptz.zoom (zoomPosition info.zoomValue info.zoomExtend) zmove
  ⟨pan, tilt, zoom, printMoves ptz pan.move tilt.move zoom.move⟩

end Visca

section AutoFocus

-- `MAX_AF_ZOOM` or `MAX_AF_FOCUS`.
variable (most : Int)

/-- The zoom of the AF build. -/
def moveAfZoom (position move : Int) : Moved :=
  let pos := int32 (position + move)
  if pos < 0 then ⟨0, int32 (-1 * int32 (abs32 move - abs32 pos))⟩
  else if most < pos then ⟨most, int32 (1 * int32 (abs32 move - int32 (pos - most)))⟩
  else ⟨pos, move⟩

/-- `uri_ptz_move_rel` of the AF build, which has no pan and no tilt. -/
def uriPtzMoveRelAf (ptz : NipcaPtz) (position : Int) (args : Arguments) :
    Moved × Option (Int × Int × Int) :=
  let zoom := moveAfZoom most position (asked ptz.zoom (ascii "z") args)
  (zoom, printMoves ptz 0 0 zoom.move)

/-- The focus: a positive displacement goes to lower positions. -/
def moveFocus (position move : Int) : Moved :=
  let pos := int32 (position - move)
  if pos < 0 then ⟨0, int32 (1 * int32 (abs32 move - abs32 pos))⟩
  else if most < pos then ⟨most, int32 (-1 * int32 (abs32 move - int32 (pos - most)))⟩
  else ⟨pos, move⟩

/-- `AF_AUTO`, `AF_MANUAL` and what else the mode may be. -/
inductive FocusMode where
  | auto
  | manual
  | other
deriving DecidableEq, Repr

/-- The loop over the arguments of `uri_manual_focus`. -/
def focusStep (args : Arguments) : Option Int :=
  args.foldlM (fun value arg =>
    if arg.1 = ascii "step" then
      if 32 < abs32 (atoi arg.2) then none else some (atoi arg.2)
    else some value) 0

/-- `uri_manual_focus`: the position and the displacement that is printed; none when it
refuses. -/
def uriManualFocus (mode : FocusMode) (position : Int) (args : Arguments) : Option Moved := do
  let move ← focusStep args
  match mode with
  | .auto => some ⟨position, 0⟩
  | .manual => some (moveFocus most position move)
  | .other => none

end AutoFocus

/-! ### The steps -/

/-- The step of an axis of the VISCA build is between 1 and 8. -/
def viscaStep (step : Int) : Int := if 8 < step then 8 else if step < 1 then 1 else step

/-- The axis with another step. -/
def Axis.withStep (axis : Axis) (step : Int) : Axis := { axis with step }

/-- `uri_ptz_step` of the VISCA build. -/
def uriPtzStepVisca (ptz : NipcaPtz) (args : Arguments) : NipcaPtz where
  pan := ptz.pan.withStep (viscaStep (lastInt (ascii "pstep") args ptz.pan.step))
  tilt := ptz.tilt.withStep (viscaStep (lastInt (ascii "tstep") args ptz.tilt.step))
  zoom := ptz.zoom.withStep (viscaStep (lastInt (ascii "zstep") args ptz.zoom.step))

/-- `uri_ptz_step` of the AF build, with the entry `LENS_SPEED`. -/
def uriPtzStepAf (maxLensSpeed : Int) (ptz : NipcaPtz) (lensSpeed : Int) (args : Arguments) :
    NipcaPtz × Int :=
  let step := lastInt (ascii "zstep") args lensSpeed
  let speed := if maxLensSpeed < step then maxLensSpeed else if step < 1 then lensSpeed else step
  let zoom := if maxLensSpeed < step then step else if step < 1 then 1 else speed
  (⟨ptz.pan.withStep 0, ptz.tilt.withStep 0, ptz.zoom.withStep zoom⟩, speed)

/-! ## What the answers report -/

/-- The axis is within its limits, its position is the old one and the displacement, and the
quotient that is printed is that of the new position less the old one. -/
structure Reported (least most step old : Int) (moved : Moved) (printed : Option Int) : Prop where
  /-- The position is within the limits. -/
  inside : least ≤ moved.position ∧ moved.position ≤ most
  /-- The displacement leads to it. -/
  exactly : moved.position = old + moved.move
  /-- The quotient is printed. -/
  divided : step ≠ 0 ∧ printed = some (int32 ((moved.position - old).tdiv step))

/-- A position between the limits of an axis. -/
def Axis.Holds (axis : Axis) (position : Int) : Prop := axis.min ≤ position ∧ position ≤ axis.max

instance (axis : Axis) (position : Int) : Decidable (axis.Holds position) :=
  inferInstanceAs (Decidable (_ ∧ _))

/-- The answer of the VISCA build reports the moves of its three axes. -/
def ViscaReported (ptz : NipcaPtz) (info : Inquiry) (args : Arguments) : Prop :=
  let done := uriPtzMoveRelVisca ptz info args
  Reported ptz.pan.min ptz.pan.max ptz.pan.step (panTiltPosition info.pan) done.pan
    (done.printed.map (·.1)) ∧
  Reported ptz.tilt.min ptz.tilt.max ptz.tilt.step (panTiltPosition info.tilt) done.tilt
    (done.printed.map (·.2.1)) ∧
  Reported ptz.zoom.min ptz.zoom.max ptz.zoom.step
    (zoomPosition info.zoomValue info.zoomExtend) done.zoom (done.printed.map (·.2.2))

/-- The answer of the AF build reports the move of the zoom and no move of the others. -/
def AfReported (most : Int) (ptz : NipcaPtz) (position : Int) (args : Arguments) : Prop :=
  let done := uriPtzMoveRelAf most ptz position args
  ptz.pan.step ≠ 0 ∧ done.2.map (·.1) = some 0 ∧
  ptz.tilt.step ≠ 0 ∧ done.2.map (·.2.1) = some 0 ∧
  Reported 0 most ptz.zoom.step position done.1 (done.2.map (·.2.2))

/-- An answer about the focus reports its move, with the sign that lowers the position. -/
def FocusReported (most : Int) (mode : FocusMode) (position : Int) (args : Arguments) : Prop :=
  ∀ moved, uriManualFocus most mode position args = some moved →
    0 ≤ moved.position ∧ moved.position ≤ most ∧ moved.move = position - moved.position

/-! ### The moves -/

/-- A position of the camera has 16 bits. -/
theorem panTiltPosition_range (info : UInt32) :
    0 ≤ panTiltPosition info ∧ panTiltPosition info ≤ 65535 := by
  unfold panTiltPosition nibble
  omega

/-- A position of the zoom has 16 bits. -/
theorem zoomPosition_range (value extend : UInt32) :
    0 ≤ zoomPosition value extend ∧ zoomPosition value extend ≤ 65535 := by
  unfold zoomPosition nibble
  omega

/-- The move of an axis ends within its limits. -/
theorem moveAxis_inside {excess : Int} {axis : Axis} {position move : Int}
    (held : axis.Holds position) :
    axis.min ≤ (moveAxis excess axis position move).position ∧
      (moveAxis excess axis position move).position ≤ axis.max := by
  unfold Axis.Holds at held
  unfold moveAxis
  split
  · dsimp only
    omega
  split
  · dsimp only
    omega
  · dsimp only
    omega

/-- The tilt moves by the displacement that is left. -/
theorem moveTilt_exactly {axis : Axis} {position move : Int} (held : axis.Holds position)
    (range : 0 ≤ position ∧ position ≤ 65535) :
    (moveTilt axis position (limit32 move)).position =
      position + (moveTilt axis position (limit32 move)).move := by
  have bounds := axis.bounds
  have small : -32 ≤ limit32 move ∧ limit32 move ≤ 32 := by
    unfold limit32
    omega
  unfold Axis.Holds at held
  unfold IsInt at bounds
  unfold moveTilt moveAxis int32
  generalize limit32 move = left at small ⊢
  split
  · dsimp only
    omega
  split
  · dsimp only
    omega
  · dsimp only
    omega

/-- When the zoom moves by the displacement that is left. A sum over the greatest `int` goes to
the lower limit; over the upper limit the displacement must be the position itself. -/
def ZoomExact (axis : Axis) (position move : Int) : Prop :=
  (2147483647 < position + move → position - 2147483648 ≤ axis.min) ∧
  (position + move ≤ 2147483647 → axis.max < position + move → move = position)

instance (axis : Axis) (position move : Int) : Decidable (ZoomExact axis position move) :=
  inferInstanceAs (Decidable (_ ∧ _))

/-- The zoom moves by the displacement that is left under this condition only. -/
theorem moveZoom_exactly {axis : Axis} {position move : Int} (held : axis.Holds position)
    (range : 0 ≤ position ∧ position ≤ 65535) (int : IsInt move) :
    (moveZoom axis position move).position = position + (moveZoom axis position move).move ↔
      ZoomExact axis position move := by
  have bounds := axis.bounds
  unfold Axis.Holds at held
  unfold IsInt at bounds int
  unfold ZoomExact moveZoom moveAxis int32
  split
  · dsimp only
    omega
  split
  · dsimp only
    omega
  · dsimp only
    omega

/-- The zoom of the AF build moves by the displacement that is left, within its limits, exactly
when the sum fits an `int`. -/
theorem moveAfZoom_exactly {most position move : Int} (held : 0 ≤ position ∧ position ≤ most)
    (limit : most ≤ 2147483647) (int : IsInt move) :
    (moveAfZoom most position move).position =
        position + (moveAfZoom most position move).move ↔
      position + move ≤ 2147483647 := by
  unfold IsInt at int
  unfold moveAfZoom abs32 int32
  dsimp only
  split
  · dsimp only
    split <;> omega
  split
  · dsimp only
    split <;> omega
  · dsimp only
    omega

/-- A position that is limited on both sides is within the limits. -/
theorem limited_inside {most pos below above move : Int} (ordered : 0 ≤ most) :
    let moved : Moved :=
      if pos < 0 then ⟨0, below⟩ else if most < pos then ⟨most, above⟩ else ⟨pos, move⟩
    0 ≤ moved.position ∧ moved.position ≤ most := by
  dsimp only
  split
  · dsimp only
    omega
  split
  · dsimp only
    omega
  · dsimp only
    omega

/-- The zoom of the AF build ends within its limits. -/
theorem moveAfZoom_inside {most position move : Int} (held : 0 ≤ position ∧ position ≤ most) :
    0 ≤ (moveAfZoom most position move).position ∧
      (moveAfZoom most position move).position ≤ most :=
  limited_inside (Int.le_trans held.1 held.2)

/-- The focus ends within its limits. -/
theorem moveFocus_inside {most position : Int} (move : Int)
    (held : 0 ≤ position ∧ position ≤ most) :
    0 ≤ (moveFocus most position move).position ∧
      (moveFocus most position move).position ≤ most :=
  limited_inside (Int.le_trans held.1 held.2)

/-- The focus moves by the displacement that is left exactly when the difference fits an `int` or
the displacement is the least one. -/
theorem moveFocus_exactly {most position move : Int} (held : 0 ≤ position ∧ position ≤ most)
    (limit : most ≤ 2147483647) (int : IsInt move) :
    (moveFocus most position move).move =
        position - (moveFocus most position move).position ↔
      position - move ≤ 2147483647 ∨ move = -2147483648 := by
  unfold IsInt at int
  unfold moveFocus abs32 int32
  dsimp only
  split
  · dsimp only
    split <;> omega
  split
  · dsimp only
    split <;> omega
  · dsimp only
    omega

/-! ### The answers -/

section Answers

variable {ptz : NipcaPtz} {args : Arguments}

/-- No step of an axis is zero. -/
def NipcaPtz.Stepped (ptz : NipcaPtz) : Prop :=
  ptz.pan.step ≠ 0 ∧ ptz.tilt.step ≠ 0 ∧ ptz.zoom.step ≠ 0

instance (ptz : NipcaPtz) : Decidable ptz.Stepped := inferInstanceAs (Decidable (_ ∧ _ ∧ _))

/-- The quotients that are printed. -/
theorem printMoves_eq (stepped : ptz.Stepped) (pan tilt zoom : Int) :
    printMoves ptz pan tilt zoom = some (int32 (pan.tdiv ptz.pan.step),
      int32 (tilt.tdiv ptz.tilt.step), int32 (zoom.tdiv ptz.zoom.step)) := by
  obtain ⟨panStep, tiltStep, zoomStep⟩ := stepped
  simp [printMoves, quotient, panStep, tiltStep, zoomStep]

/-- A step of zero leaves no answer. -/
theorem printMoves_none (zero : ¬ptz.Stepped) (pan tilt zoom : Int) :
    printMoves ptz pan tilt zoom = none := by
  unfold printMoves quotient
  by_cases panStep : ptz.pan.step = 0
  · simp [panStep]
  by_cases tiltStep : ptz.tilt.step = 0
  · simp [panStep, tiltStep]
  by_cases zoomStep : ptz.zoom.step = 0
  · simp [panStep, tiltStep, zoomStep]
  · exact absurd ⟨panStep, tiltStep, zoomStep⟩ zero

/-- The quotient of the displacement that is left is that of the positions. -/
theorem Reported.of_exactly {least most step old : Int} {moved : Moved}
    (inside : least ≤ moved.position ∧ moved.position ≤ most)
    (exactly : moved.position = old + moved.move) (nonzero : step ≠ 0) :
    Reported least most step old moved (some (int32 (moved.move.tdiv step))) := by
  have left : moved.position - old = moved.move := by omega
  exact ⟨inside, exactly, nonzero, by rw [left]⟩

/-- A displacement that is limited is zero only when it was before. -/
theorem limit32_eq_zero (move : Int) : limit32 move = 0 ↔ move = 0 := by
  unfold limit32
  omega

/-- When the answer of the VISCA build reports its moves. -/
theorem viscaReported_iff {info : Inquiry} (panHeld : ptz.pan.Holds (panTiltPosition info.pan))
    (tiltHeld : ptz.tilt.Holds (panTiltPosition info.tilt))
    (zoomHeld : ptz.zoom.Holds (zoomPosition info.zoomValue info.zoomExtend)) :
    ViscaReported ptz info args ↔ ptz.Stepped ∧ asked ptz.pan (ascii "p") args = 0 ∧
      ZoomExact ptz.zoom (zoomPosition info.zoomValue info.zoomExtend)
        (asked ptz.zoom (ascii "z") args) := by
  have zoomExactly := moveZoom_exactly zoomHeld (zoomPosition_range _ _)
    (isInt_int32 (lastInt (ascii "z") args 0 * ptz.zoom.step))
  constructor
  · rintro ⟨pan, tilt, zoom⟩
    refine ⟨⟨pan.divided.1, tilt.divided.1, zoom.divided.1⟩, ?_, zoomExactly.mp zoom.exactly⟩
    have still : panTiltPosition info.pan =
        panTiltPosition info.pan + limit32 (asked ptz.pan (ascii "p") args) := pan.exactly
    rw [← limit32_eq_zero]
    omega
  · rintro ⟨stepped, still, exact⟩
    unfold ViscaReported uriPtzMoveRelVisca
    simp only [printMoves_eq stepped, Option.map_some]
    refine ⟨.of_exactly panHeld ?_ stepped.1, .of_exactly (moveAxis_inside tiltHeld)
      (moveTilt_exactly tiltHeld (panTiltPosition_range _)) stepped.2.1,
      .of_exactly (moveAxis_inside zoomHeld) (zoomExactly.mpr exact) stepped.2.2⟩
    rw [still, (limit32_eq_zero 0).mpr rfl, Int.add_zero]

/-- When the answer of the AF build reports its moves. -/
theorem afReported_iff {most position : Int} (limit : IsInt most)
    (held : 0 ≤ position ∧ position ≤ most) :
    AfReported most ptz position args ↔
      ptz.Stepped ∧ position + asked ptz.zoom (ascii "z") args ≤ 2147483647 := by
  have zoomExactly := moveAfZoom_exactly held limit.2
    (isInt_int32 (lastInt (ascii "z") args 0 * ptz.zoom.step))
  constructor
  · rintro ⟨panStep, -, tiltStep, -, zoom⟩
    exact ⟨⟨panStep, tiltStep, zoom.divided.1⟩, zoomExactly.mp zoom.exactly⟩
  · rintro ⟨stepped, fits⟩
    unfold AfReported uriPtzMoveRelAf
    simp only [printMoves_eq stepped, Option.map_some]
    have nothing (step : Int) : some (int32 (Int.tdiv 0 step)) = some 0 := by
      rw [Int.zero_tdiv]
      rfl
    exact ⟨stepped.1, nothing _, stepped.2.1, nothing _,
      .of_exactly (moveAfZoom_inside held) (zoomExactly.mpr fits) stepped.2.2⟩

/-- The displacement of the focus is an `int`. -/
theorem isInt_focusStep {move : Int} (read : focusStep args = some move) : IsInt move := by
  have general : ∀ args : Arguments, ∀ start : Int, IsInt start →
      args.foldlM (fun value arg =>
        if arg.1 = ascii "step" then
          if 32 < abs32 (atoi arg.2) then none else some (atoi arg.2)
        else some value) start = some move → IsInt move := by
    intro args
    induction args with
    | nil =>
      intro start int read
      cases read
      exact int
    | cons arg args ih =>
      intro start int read
      rw [List.foldlM_cons] at read
      obtain ⟨next, step, rest⟩ := Option.bind_eq_some_iff.mp read
      refine ih next ?_ rest
      split at step
      · split at step
        · cases step
        · cases step
          exact isInt_atoi _
      · cases step
        exact int
  exact general args 0 (by unfold IsInt; omega) read

/-- When the answer about the focus reports its move. -/
theorem focusReported_iff {most position : Int} {mode : FocusMode} (limit : IsInt most)
    (held : 0 ≤ position ∧ position ≤ most) :
    FocusReported most mode position args ↔
      (mode = .manual → ∀ move, focusStep args = some move →
        position - move ≤ 2147483647 ∨ move = -2147483648) := by
  unfold FocusReported uriManualFocus
  cases read : focusStep args with
  | none => simp
  | some move =>
    cases mode with
    | auto => simp [held]
    | other => simp
    | manual =>
      have exactly := moveFocus_exactly held limit.2 (isInt_focusStep read)
      have inside := moveFocus_inside move held
      simp only [Option.bind_eq_bind, Option.bind_some, Option.some_inj, forall_eq', forall_const,
        inside, true_and, exactly]

/-- The answers report the moves exactly when no step is zero, nothing is asked of the pan of the
VISCA build, its zoom stays below its upper limit or moves by its own position, and no sum is over
the greatest `int`, but for one that leads to the lower limit. After a request for the steps, those
of the VISCA build are not zero, and those of the AF build leave no answer at all. -/
theorem relative_moves_reported (args : Arguments) :
    (∀ ptz info, ptz.pan.Holds (panTiltPosition info.pan) →
      ptz.tilt.Holds (panTiltPosition info.tilt) →
      ptz.zoom.Holds (zoomPosition info.zoomValue info.zoomExtend) →
      (ViscaReported ptz info args ↔ ptz.Stepped ∧ asked ptz.pan (ascii "p") args = 0 ∧
        ZoomExact ptz.zoom (zoomPosition info.zoomValue info.zoomExtend)
          (asked ptz.zoom (ascii "z") args))) ∧
    (∀ most ptz position, IsInt most → 0 ≤ position ∧ position ≤ most →
      (AfReported most ptz position args ↔
        ptz.Stepped ∧ position + asked ptz.zoom (ascii "z") args ≤ 2147483647)) ∧
    (∀ most mode position, IsInt most → 0 ≤ position ∧ position ≤ most →
      (FocusReported most mode position args ↔
        (mode = .manual → ∀ move, focusStep args = some move →
          position - move ≤ 2147483647 ∨ move = -2147483648))) ∧
    (∀ ptz, (uriPtzStepVisca ptz args).Stepped) ∧
    ∀ maxLensSpeed ptz lensSpeed most position moves,
      (uriPtzMoveRelAf most (uriPtzStepAf maxLensSpeed ptz lensSpeed args).1 position moves).2 =
        none := by
  refine ⟨fun _ _ pan tilt zoom => viscaReported_iff pan tilt zoom,
    fun _ _ _ limit held => afReported_iff limit held,
    fun _ _ _ limit held => focusReported_iff limit held, ?_, ?_⟩
  · have nonzero (step : Int) : viscaStep step ≠ 0 := by
      unfold viscaStep
      omega
    exact fun ptz => ⟨nonzero _, nonzero _, nonzero _⟩
  · intro maxLensSpeed ptz lensSpeed most position moves
    exact printMoves_none (fun stepped => stepped.1 rfl) _ _ _

end Answers

/-- The limits of the sixteen bits of a position. -/
theorem isInt_sixteen : IsInt 0 ∧ IsInt 16384 := by
  unfold IsInt
  omega

/-- An axis from zero to 16384 with a step of one. -/
def Axis.unit : Axis := ⟨1, 0, 16384, isInt_sixteen⟩

/-- A zoom to a position below the upper limit. -/
theorem relative_moves_reported_zoom :
    ViscaReported ⟨.unit, .unit, .unit⟩ ⟨0, 0, 0x300, 0⟩ [(ascii "z", ascii "100")] :=
  ((relative_moves_reported _).1 _ _ (by decide) (by decide) (by decide)).mpr (by decide)

/-- A zoom from 12288 by 8000 ends at 16384 and prints 8384. -/
theorem visca_zoom_over :
    Axis.unit.Holds (panTiltPosition 0) ∧ Axis.unit.Holds (zoomPosition 0x300 0) ∧
    ¬ViscaReported ⟨.unit, .unit, .unit⟩ ⟨0, 0, 0x300, 0⟩ [(ascii "z", ascii "8000")] := by
  refine ⟨by decide, by decide, fun reported => ?_⟩
  have exactly := reported.2.2.exactly
  exact absurd exactly (by decide)

end BoaIpcam.Relative
