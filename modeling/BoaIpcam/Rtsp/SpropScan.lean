import BoaIpcam.CString
import BoaIpcam.Lib.Rfc4648

/-!
# The parameter sets of an H.264 stream

`GetSpropParameterSets` of `ApproH264VideoServerMediaSubsession.cpp` copies the first bytes of one
I-frame after the other to a buffer and goes over them, until it has seen an SPS and a PPS. It keeps
where they begin when the next frame is copied over them. Their lengths are known when a start code
follows. `GetAVData` is not part of the source; the frames are what it returns.
-/
namespace BoaIpcam.Sprop

/-! ## The function -/

/-- `MAX_H264_HEADER`. -/
def maxH264Header : Nat := 200

/-- The bytes of a frame that are copied. -/
def copied (frame : List UInt8) : List UInt8 := frame.take maxH264Header

/-- `pSPS` and `SPSlen`, or `pPPS` and `PPSlen`. The pointer is an offset of `tempBuff`. -/
structure Mark where
  /-- The pointer. -/
  place : Option Nat
  /-- The length. -/
  length : Int
deriving DecidableEq, Repr

/-- Nothing is seen yet. -/
def Mark.none : Mark := ⟨.none, 0⟩

/-- `if ( pSPS && ( ! SPSlen ) ) SPSlen = ptr - pSPS`. -/
def Mark.close (mark : Mark) (ptr : Nat) : Mark :=
  match mark.place with
  | some place => if mark.length = 0 then { mark with length := ptr - place } else mark
  | .none => mark

/-- A case of the `switch`: the first set of its type begins here. -/
def Mark.enter (mark : Mark) (isType : Bool) (ptr : Nat) : Mark :=
  if isType ∧ mark.place = .none then ⟨some ptr, 0⟩ else mark

/-- The variables of the scan. -/
structure Sets where
  /-- The SPS. -/
  sps : Mark
  /-- The PPS. -/
  pps : Mark
deriving DecidableEq, Repr

/-- The type of an SPS in the head of a NAL unit. -/
def isSps (nal : UInt8) : Bool := nal &&& 0x1f = 7

/-- The type of a PPS in the head of a NAL unit. -/
def isPps (nal : UInt8) : Bool := nal &&& 0x1f = 8

/-- A start code at one position leads to a NAL unit at another. -/
def Sets.meet (sets : Sets) (begin nal : Nat) (head : UInt8) : Sets :=
  ⟨(sets.sps.close begin).enter (isSps head) nal, (sets.pps.close begin).enter (isPps head) nal⟩

/-- `pSPS && pPPS && ( ! SPSlen ) && ( ! PPSlen )`. -/
def Sets.Stops (sets : Sets) : Prop :=
  sets.sps.place ≠ .none ∧ sets.pps.place ≠ .none ∧ sets.sps.length = 0 ∧ sets.pps.length = 0

instance (sets : Sets) : Decidable sets.Stops := inferInstanceAs (Decidable (_ ∧ _))

/-- How many zeros there are from a position on. -/
def zerosAt (header : List UInt8) (ptr : Nat) : Nat :=
  ((header.drop ptr).takeWhile fun c => c = 0).length

/-- What the scan finds at a position: nothing up to another one, a NAL unit behind a start code, or
the end of the bytes that were copied. -/
inductive Look where
  | skip (next : Nat)
  | code (nal : Nat) (head : UInt8)
  | outside
deriving DecidableEq, Repr

/-- The body of the loop up to the `switch`. -/
def lookAt (header : List UInt8) (ptr : Nat) : Look :=
  let cnt := zerosAt header ptr
  if cnt < 3 then .skip (ptr + cnt + 1)
  else
    match header[ptr + cnt]? with
    | .none => .outside
    | some c =>
      if c ≠ 1 then .skip (ptr + cnt + 1)
      else
        match header[ptr + cnt + 1]? with
        | .none => .outside
        | some head => .code (ptr + cnt + 1) head

/-- Where the scan goes on from the head of a NAL unit. -/
def behind (nal : Nat) (head : UInt8) : Nat := if isSps head ∨ isPps head then nal else nal + 1

/-- The scan goes on from there or from the next position. -/
theorem le_behind (nal : Nat) (head : UInt8) : nal ≤ behind nal head := by
  rw [behind]
  split_ifs
  · exact Nat.le_refl nal
  · exact Nat.le_succ nal

/-- A position that is skipped is in front of the next. -/
theorem lt_of_skip {header : List UInt8} {ptr next : Nat} (skipped : lookAt header ptr = .skip next) :
    ptr < next := by
  unfold lookAt at skipped
  grind

/-- A start code is in front of its NAL unit. -/
theorem lt_of_code {header : List UInt8} {ptr nal : Nat} {head : UInt8}
    (code : lookAt header ptr = .code nal head) : ptr < nal := by
  unfold lookAt at code
  grind

/-- The scan of the bytes that were copied, from a position on. None when it reads behind them. -/
def scan (header : List UInt8) (ptr : Nat) (sets : Sets) : Option Sets :=
  if ptr + 4 < header.length then
    match _found : lookAt header ptr with
    | .skip next => scan header next sets
    | .outside => .none
    | .code nal head =>
      if (sets.meet ptr nal head).Stops then some (sets.meet ptr nal head)
      else scan header (behind nal head) (sets.meet ptr nal head)
  else some sets
termination_by header.length - ptr
decreasing_by
  · have further := lt_of_skip _found
    omega
  · have further := lt_of_code _found
    have more := le_behind nal head
    omega

/-- What is handed to `base64Encode`, the three bytes behind the head of the SPS and
`profile_level_id`. -/
structure Answer where
  /-- The bytes of the SPS. -/
  sps : List UInt8
  /-- The bytes of the PPS. -/
  pps : List UInt8
  /-- The three bytes behind its head. -/
  levelBytes : List UInt8
  /-- `profile_level_id`. -/
  profileLevelId : Nat
deriving DecidableEq, Repr

/-- The text at `pBuff`. `base64Encode` is that of the library. -/
def Answer.text (answer : Answer) : List UInt8 :=
  Rfc4648.encode answer.sps ++ ascii "," ++ Rfc4648.encode answer.pps ++ ascii ";"

/-- So many bytes from a position on, if they are there. -/
def bytesFrom (header : List UInt8) (place : Nat) (length : Int) : Option (List UInt8) :=
  if 0 ≤ length ∧ place + length ≤ header.length then
    some ((header.drop place).take length.toNat)
  else .none

/-- A `char`, which has a sign or not. -/
def charValue (signedChar : Bool) (c : UInt8) : Int :=
  if signedChar ∧ 128 ≤ c.toNat then (c.toNat : Int) - 256 else c.toNat

/-- `( pSPS[1] << 16 ) + ( pSPS[2] << 8 ) + pSPS[3]` in an `unsigned`. -/
def levelId (signedChar : Bool) (levelBytes : List UInt8) : Nat :=
  ((charValue signedChar (levelBytes.getD 0 0) * 65536 +
    charValue signedChar (levelBytes.getD 1 0) * 256 +
    charValue signedChar (levelBytes.getD 2 0)) % 4294967296).toNat

/-- The lines behind the loop. None when they read behind the bytes that were copied. -/
def finish (signedChar : Bool) (header : List UInt8) (spsPlace ppsPlace : Nat) (sets : Sets) :
    Option Answer :=
  (bytesFrom header (spsPlace + 1) 3).bind fun levelBytes =>
  (bytesFrom header spsPlace sets.sps.length).bind fun sps =>
  (bytesFrom header ppsPlace sets.pps.length).map fun pps =>
    ⟨sps, pps, levelBytes, levelId signedChar levelBytes⟩

/-- What some frames lead to: the function asks for another one, has read behind the bytes that were
copied, or returns after the frames that it has taken. -/
inductive Outcome where
  | waiting
  | outside
  | returned (answer : Answer) (frames : List (List UInt8))
deriving DecidableEq, Repr

/-- The function returns with an answer, or reading one leaves the bytes that were copied. -/
def Outcome.ofAnswer (frames : List (List UInt8)) : Option Answer → Outcome
  | .none => .outside
  | some answer => .returned answer frames

/-- `GetSpropParameterSets` on the frames that are still to come, behind those that it has taken. -/
def getSpropParameterSets (signedChar : Bool) :
    List (List UInt8) → Sets → List (List UInt8) → Outcome
  | _, _, [] => .waiting
  | taken, sets, frame :: later =>
    match scan (copied frame) 0 sets with
    | .none => .outside
    | some sets =>
      match sets.sps.place, sets.pps.place with
      | some spsPlace, some ppsPlace =>
        .ofAnswer (taken ++ [frame]) (finish signedChar (copied frame) spsPlace ppsPlace sets)
      | _, _ => getSpropParameterSets signedChar (taken ++ [frame]) sets later

/-- The call. -/
def spropParameterSets (signedChar : Bool) (frames : List (List UInt8)) : Outcome :=
  getSpropParameterSets signedChar [] ⟨.none, .none⟩ frames

end BoaIpcam.Sprop
