import BoaIpcam.Numeral
import BoaIpcam.Lib.Tables
import Mathlib.Logic.Function.Basic

/-!
# Presets of the digital camera

The request `uri_eptzpreset` of `request.c` keeps for each stream a table of presets, a sequence of
presets and the times of the sequence. All are entries of the configuration: the tables of a stream
start at a page of 20 entries. A preset is a text with six numbers and a name, which is written
with `sprintf` and read again with `sscanf` whenever the table is looked at.
-/
namespace BoaIpcam.Eptz

/-! ## Texts of presets -/

/-- `EPTZPRESET`. -/
structure Preset where
  /-- The stream. -/
  streamid : Int
  /-- The number of the preset. -/
  index : Int
  /-- The time in a sequence. -/
  seqTime : Int
  /-- The zoom. -/
  zoom : Int
  /-- The focus. -/
  focus : Int
  /-- The position. -/
  position : Int
  /-- The name. -/
  name : List UInt8
deriving DecidableEq, Repr

/-- The text of a preset, with the format `%d:%d:%d:%d:%d:%08d:%s`. -/
def Preset.text (preset : Preset) : List UInt8 :=
  intText preset.streamid ++ 58 :: (intText preset.index ++ 58 :: (intText preset.seqTime ++
    58 :: (intText preset.zoom ++ 58 :: (intText preset.focus ++ 58 :: (intText8 preset.position ++
      58 :: preset.name)))))

/-- What `sscanf` reads of numbers that are each followed by a colon, and of the name behind them:
it stops at the first part that is missing. -/
def scanFields : Nat → List UInt8 → List Int × List UInt8
  | 0, text => ([], (scanWord text).getD [])
  | count + 1, text =>
    match scanInt text with
    | none => ([], [])
    | some (value, rest) =>
      match scanChar 58 rest with
      | none => ([value], [])
      | some rest =>
        let (values, name) := scanFields count rest
        (value :: values, name)

/-- The variables after `sscanf`; the name is emptied before. -/
def Preset.scan (text : List UInt8) (before : Preset) : Preset :=
  let (values, name) := scanFields 6 text
  { streamid := values.getD 0 before.streamid
    index := values.getD 1 before.index
    seqTime := values.getD 2 before.seqTime
    zoom := values.getD 3 before.zoom
    focus := values.getD 4 before.focus
    position := values.getD 5 before.position
    name := name }

/-- A preset without a name, as `eptzpreset_del` writes it. -/
def Preset.cleared : Preset := ⟨0, 0, 10, 0, 0, 0, []⟩

/-- The text has no name, and the index that is read of it, if any, is zero. -/
def Nameless (text : List UInt8) : Prop :=
  (scanFields 6 text).2 = [] ∧ ∀ index ∈ (scanFields 6 text).1[1]?, index = 0

instance (text : List UInt8) : Decidable (Nameless text) :=
  inferInstanceAs (Decidable (_ ∧ _))

/-! ## The entries -/

/-- The entries of the configuration, counted from the first of each table of stream 1, and
`EPTZ_STREAMID`. -/
structure Entries where
  /-- The texts of the presets. -/
  id : Int → List UInt8
  /-- The sequences. -/
  seq : Int → Int
  /-- Their times. -/
  time : Int → Int
  /-- `EPTZ_STREAMID`. -/
  streamid : Int

/-- The limits of the build and the text of a preset that is not set. -/
structure Limits where
  /-- `MAX_EPTZPRESET`. -/
  maxEptzpreset : Nat
  /-- `MAX_SEQUENCE`. -/
  maxSequence : Nat
  /-- `MAX_WEB_PROFILE_NUM`. -/
  maxWebProfileNum : Nat
  /-- The least time. -/
  minSeqTime : Int
  /-- The greatest time. -/
  maxSeqTime : Int
  /-- `MAX_EPTZPRESETNAME_LEN`. -/
  maxEptzpresetnameLen : Nat
  /-- The default time. -/
  seqTimeDef : Int
  /-- The text of a preset that is not set. -/
  eptzpresetDefault : List UInt8
  /-- The presets fit a page. -/
  presets_le : maxEptzpreset ≤ 20
  /-- The sequence fits a page. -/
  sequence_le : maxSequence ≤ 20
  /-- The default text has no name. -/
  nameless : Nameless eptzpresetDefault

/-- The first entry of a stream in each table. -/
def pageOf (streamid : Int) : Int := (streamid - 1) * 20

/-- The text in a slot of a page. -/
def Entries.preset (entries : Entries) (page : Int) (i : Nat) : List UInt8 := entries.id (page + i)

/-- The loop over the presets that stops at a name, with the variables that were read last. -/
def search (read : Nat → List UInt8) (name : List UInt8) :
    Preset → List Nat → Option Nat × Preset
  | now, [] => (none, now)
  | now, i :: rest =>
    let now := now.scan (read i)
    if now.name = name then (some i, now) else search read name now rest

section Operations

variable (limits : Limits)

/-- `eptzpreset_add`. -/
def add (entries : Entries) (preset : Preset) : Entries :=
  let page := pageOf preset.streamid
  let slots := List.range limits.maxEptzpreset
  match (search (entries.preset page) preset.name .cleared slots).1 with
  | some _ => entries
  | none =>
    match (search (entries.preset page) [] .cleared slots).1 with
    | none => entries
    | some i =>
      let added := { preset with index := (i : Int) + 1 }
      { entries with id := Function.update entries.id (page + i) added.text }

/-- An entry of the sequence and its time take over those of the next entry. -/
def shiftEntry (page : Int) (j : Nat) (entries : Entries) : Entries :=
  { entries with
    seq := Function.update entries.seq (page + j) (entries.seq (page + (j + 1 : Nat)))
    time := Function.update entries.time (page + j) (entries.time (page + (j + 1 : Nat))) }

/-- An entry of the sequence and its time are cleared. -/
def clearEntry (page : Int) (i : Int) (entries : Entries) : Entries :=
  { entries with
    seq := Function.update entries.seq (page + i) 0
    time := Function.update entries.time (page + i) limits.seqTimeDef }

/-- The first loop of `eptzpreset_del` over the sequence takes out the preset. -/
def dropEntry (page index : Int) (i : Nat) (entries : Entries) : Entries :=
  if index = entries.seq (page + i) then
    Tables.loop i limits.maxSequence (shiftEntry page) (clearEntry limits page i entries)
  else entries

/-- The second loop of `eptzpreset_del` over the sequence counts down the presets behind it. -/
def lowerEntry (page index : Int) (i : Nat) (entries : Entries) : Entries :=
  if index < entries.seq (page + i) then
    { entries with seq := Function.update entries.seq (page + i) (entries.seq (page + i) - 1) }
  else entries

/-- The last loop of `eptzpreset_del` moves a preset to the slot before it. A name is only read
behind all six numbers. -/
def moveDown (page : Int) (i : Nat) : Entries × Nat → Entries × Nat
  | (entries, delBufIdx) =>
    let preset := Preset.cleared.scan (entries.preset page i)
    if preset.name ≠ [] then
      let lowered := { preset with index := preset.index - 1 }
      let id := Function.update entries.id (page + delBufIdx) lowered.text
      ({ entries with id := Function.update id (page + i) limits.eptzpresetDefault }, delBufIdx + 1)
    else (entries, delBufIdx)

/-- `eptzpreset_del`. Its variable `index` is not set at first; it is read with any name. -/
def del (entries : Entries) (preset : Preset) : Entries :=
  let page := pageOf preset.streamid
  match search (entries.preset page) preset.name .cleared (List.range limits.maxEptzpreset) with
  | (none, _) => entries
  | (some i, found) =>
    let cleared :=
      { entries with id := Function.update entries.id (page + i) Preset.cleared.text }
    let dropped := Tables.loop 0 limits.maxSequence (dropEntry limits page found.index) cleared
    let lowered := Tables.loop 0 limits.maxSequence (lowerEntry page found.index) dropped
    (Tables.loop (i + 1) limits.maxEptzpreset (moveDown limits page) (lowered, i)).1

/-- The action `modify` with the variables of the request. -/
def modify (entries : Entries) (start : Preset) (name rename : List UInt8) : Entries :=
  let page := pageOf entries.streamid
  match search (entries.preset page) name start (List.range limits.maxEptzpreset) with
  | (none, _) => entries
  | (some i, found) =>
    let renamed := { found with name := rename }
    { entries with id := Function.update entries.id (page + i) renamed.text }

/-- The variable `index` of the action `seq_add` when the presets were searched. -/
def seqAddIndex (entries : Entries) (name : List UInt8) : Int :=
  let page := pageOf entries.streamid
  match search (entries.preset page) name .cleared (List.range limits.maxSequence) with
  | (none, last) => last.index
  | (some i, _) => i + 1

/-- The action `seq_add`. -/
def seqAdd (entries : Entries) (name : List UInt8) (seqTime : Int) : Entries :=
  let page := pageOf entries.streamid
  let index := seqAddIndex limits entries name
  match (List.range limits.maxSequence).find? (fun i : Nat => entries.seq (page + i) = 0) with
  | none => entries
  | some i =>
    { entries with
      seq := Function.update entries.seq (page + i) index
      time := Function.update entries.time (page + i) seqTime }

/-- The loop of the action `seq_del` moves an entry to the slot before it. The start of the loop
may be negative, so it counts from there. -/
def closeGap (page seqIdx : Int) (k : Nat) (entries : Entries) : Entries :=
  let i := seqIdx + 1 + k
  if entries.seq (page + i) ≠ 0 then
    let moved :=
      { entries with
        seq := Function.update entries.seq (page + (i - 1)) (entries.seq (page + i))
        time := Function.update entries.time (page + (i - 1)) (entries.time (page + i)) }
    clearEntry limits page i moved
  else entries

/-- The action `seq_del`. -/
def seqDel (entries : Entries) (seqIdx : Int) : Entries :=
  let page := pageOf entries.streamid
  Tables.loop 0 (limits.maxSequence - (seqIdx + 1)).toNat (closeGap limits page seqIdx)
    (clearEntry limits page seqIdx entries)

/-- The action `seq_update`. -/
def seqUpdate (entries : Entries) (seqIdx seqTime : Int) : Entries :=
  let page := pageOf entries.streamid
  { entries with time := Function.update entries.time (page + seqIdx) seqTime }

/-- Two entries of the sequence and their times are exchanged. -/
def exchange (entries : Entries) (i j : Int) : Entries :=
  { entries with
    seq := Function.update (Function.update entries.seq i (entries.seq j)) j (entries.seq i)
    time := Function.update (Function.update entries.time i (entries.time j)) j (entries.time i) }

/-- The value of the parameter `direction`. -/
inductive Direction where
  | up | down | other
deriving DecidableEq, Repr

/-- The action `seq_modify`. -/
def seqModify (entries : Entries) (seqIdx : Int) : Direction → Entries
  | .up =>
    let page := pageOf entries.streamid
    if seqIdx = 0 then entries else exchange entries (page + seqIdx) (page + (seqIdx - 1))
  | .down =>
    let page := pageOf entries.streamid
    if entries.seq (page + (seqIdx + 1)) = 0 then entries
    else exchange entries (page + seqIdx) (page + (seqIdx + 1))
  | .other => entries

end Operations

/-! ## Requests -/

/-- The value of the parameter `action`; the others do not change the tables. -/
inductive Action where
  | add | del | modify | seqAdd | seqDel | seqUpdate | seqModify | other
deriving DecidableEq, Repr

/-- The parameters of a request and what the configuration says of zoom, focus and position. A
name that does not fit its array of 32 bytes is not modelled; a parameter that is missing leaves
whatever the array holds. The parameter `cleanseq` is left out. -/
structure EptzRequest where
  /-- What is asked for. -/
  action : Action
  /-- The parameter `streamid`. -/
  streamid : Option (List UInt8)
  /-- The parameter `index`. -/
  index : Option (List UInt8)
  /-- The parameter `time`. -/
  time : Option (List UInt8)
  /-- The parameter `name`. -/
  name : List UInt8
  /-- The new name. -/
  rename : List UInt8
  /-- Where a member moves to. -/
  direction : Direction
  /-- The zoom of the configuration. -/
  zoom : Int
  /-- The focus of it. -/
  focus : Int
  /-- The position of it. -/
  position : Int
  /-- The name has no white space. -/
  nameSolid : Solid name
  /-- The new name has none. -/
  renameSolid : Solid rename
  /-- The name fits its array. -/
  nameFits : name.length < 32
  /-- The new name fits its array. -/
  renameFits : rename.length < 32
  /-- The zoom is an `int`. -/
  zoomInt : IsInt zoom
  /-- The focus is an `int`. -/
  focusInt : IsInt focus
  /-- The position is an `int`. -/
  positionInt : IsInt position

namespace EptzRequest

variable (req : EptzRequest)

/-- The variable `streamid`. -/
def streamidValue : Int := (req.streamid.map atoi).getD 0

/-- The variable `seq_idx`. -/
def seqIdx : Int := (req.index.map atoi).getD 0

/-- The variable `seq_time`. -/
def seqTime : Int := (req.time.map atoi).getD 10

/-- The variable `eptzpreset`. -/
def preset : Preset :=
  ⟨req.streamidValue, req.seqIdx, req.seqTime, req.zoom, req.focus, req.position, req.name⟩

/-- The parameter `streamid` is stored at once. -/
def select (entries : Entries) : Entries :=
  match req.streamid with
  | none => entries
  | some text => { entries with streamid := atoi text }

/-- The range checks. -/
def inRange (limits : Limits) : Prop :=
  req.streamidValue ≤ limits.maxWebProfileNum ∧ req.seqIdx + 1 ≤ limits.maxSequence ∧
    (limits.minSeqTime ≤ req.seqTime ∧ req.seqTime ≤ limits.maxSeqTime) ∧
    req.name.length ≤ limits.maxEptzpresetnameLen ∧ req.rename.length ≤ limits.maxEptzpresetnameLen

instance (limits : Limits) : Decidable (req.inRange limits) :=
  inferInstanceAs (Decidable (_ ∧ _))

/-- What the action does. -/
def perform (limits : Limits) (entries : Entries) : Entries :=
  match req.action with
  | .add => add limits entries req.preset
  | .del => del limits entries req.preset
  | .modify =>
    modify limits entries { req.preset with streamid := entries.streamid, index := 0 } req.name
      req.rename
  | .seqAdd => seqAdd limits entries req.name req.seqTime
  | .seqDel => seqDel limits entries req.seqIdx
  | .seqUpdate => seqUpdate entries req.seqIdx req.seqTime
  | .seqModify => seqModify entries req.seqIdx req.direction
  | .other => entries

/-- `uri_eptzpreset`. -/
def run (limits : Limits) (entries : Entries) : Entries :=
  if req.inRange limits then req.perform limits (req.select entries) else req.select entries

end EptzRequest

end BoaIpcam.Eptz
