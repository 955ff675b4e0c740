import BoaIpcam.Tunnel.Records

/-!
# One record

What the steps of the thread do to the fields of one `RTSP_DATA`. The flag of a socket is set
exactly when the record has the request, and the record is active only with both; every step
keeps this, and changes neither the links nor the session id.
-/
namespace BoaIpcam

open LinkedList

/-- The requests of a record. -/
def RtspData.attached (d : RtspData) : List ReqAddr := d.inreq.toList ++ d.outreq.toList

/-- The flags of a record agree with its requests, and it is active only with both of them. -/
structure RtspData.Consistent (d : RtspData) : Prop where
  /-- `FLAGS_IN_OK` tells that there is a POST. -/
  into : d.flags.inOk = d.inreq.isSome
  /-- `FLAGS_OUT_OK` tells that there is a GET. -/
  out : d.flags.outOk = d.outreq.isSome
  /-- An active record has both. -/
  active : d.status = .active → d.inreq ≠ none ∧ d.outreq ≠ none

/-- A record was written without its links and its session id, and stays consistent. -/
structure RtspData.Edited (d d' : RtspData) : Prop where
  /-- The link stays. -/
  next : d'.next = d.next
  /-- The link back stays. -/
  prev : d'.prev = d.prev
  /-- The session stays. -/
  sessionid : d'.sessionid = d.sessionid
  /-- A consistent record stays so. -/
  consistent : d.Consistent → d'.Consistent

namespace RtspData

variable {d d' : RtspData}

/-- A record that was cleared is consistent. -/
theorem Consistent.cleared (next : Option RecordAddr) (sessionid : List UInt8) :
    ({ zeroed with next, sessionid } : RtspData).Consistent where
  into := rfl
  out := rfl
  active status := by cases status

/-- Without sockets a consistent record has no requests. -/
theorem Consistent.attached_nil (consistent : d.Consistent) (alone : d.flags.connectOk = false) :
    d.attached = [] := by
  simp only [RecordFlags.connectOk, Bool.or_eq_false_iff] at alone
  have into : d.inreq = none := by simpa [alone.1] using consistent.into
  have out : d.outreq = none := by simpa [alone.2] using consistent.out
  simp [attached, into, out]

/-- A record that is not written is edited. -/
theorem Edited.refl (d : RtspData) : d.Edited d := ⟨rfl, rfl, rfl, id⟩

/-- Two edits are one. -/
theorem Edited.trans {d'' : RtspData} (first : d.Edited d') (second : d'.Edited d'') :
    d.Edited d'' where
  next := second.next.trans first.next
  prev := second.prev.trans first.prev
  sessionid := second.sessionid.trans first.sessionid
  consistent := second.consistent ∘ first.consistent

/-- Opening a session edits its record. -/
theorem Edited.addClientConnection (d : RtspData) : d.Edited d.addClientConnection := by
  unfold RtspData.addClientConnection
  split
  · exact .refl d
  · exact ⟨rfl, rfl, rfl, fun consistent => ⟨consistent.into, consistent.out, consistent.active⟩⟩

/-- Taking a slot edits the record. -/
theorem Edited.plug (d : RtspData) (direction : Direction) (req : ReqAddr) (new : Bool) :
    d.Edited (d.plug direction req new) := by
  unfold RtspData.plug
  cases direction with
  | out =>
    dsimp only
    split
    · have taken : d.Edited { d with
          outreq := some req, flags := { d.flags with outOk := true } } := by
        refine ⟨rfl, rfl, rfl, fun consistent => ⟨consistent.into, rfl, fun status => ?_⟩⟩
        exact ⟨(consistent.active status).1, by simp⟩
      split
      · exact taken.trans (.addClientConnection _)
      · exact taken
    · exact .refl d
  | into =>
    dsimp only
    split
    · have taken : d.Edited { d with
          inreq := some req, flags := { d.flags with inOk := true } } := by
        refine ⟨rfl, rfl, rfl, fun consistent => ⟨rfl, consistent.out, fun status => ?_⟩⟩
        exact ⟨by simp, (consistent.active status).2⟩
      split
      · exact taken.trans (.addClientConnection _)
      · exact taken
    · exact .refl d

/-- The end of an insertion edits the record. -/
theorem Edited.settle (d : RtspData) : d.Edited d.settle := by
  refine ⟨rfl, rfl, rfl, fun consistent => ⟨consistent.into, consistent.out, fun status => ?_⟩⟩
  simp only [RtspData.settle] at status
  split at status
  · rename_i both
    rw [consistent.into, consistent.out, Bool.and_eq_true] at both
    exact ⟨Option.isSome_iff_ne_none.mp both.1, Option.isSome_iff_ne_none.mp both.2⟩
  · cases status

/-- A command of the session edits its record. -/
theorem Edited.command (d : RtspData) (command : SessionCommand) : d.Edited (d.command command) := by
  cases command with
  | play => exact ⟨rfl, rfl, rfl, fun consistent => ⟨consistent.into, consistent.out, consistent.active⟩⟩
  | pause => exact ⟨rfl, rfl, rfl, fun consistent => ⟨consistent.into, consistent.out, consistent.active⟩⟩
  | other => exact .refl d

/-- The commands of a call edit the record. -/
theorem Edited.commands (d : RtspData) (commands : List SessionCommand) :
    d.Edited (commands.foldl RtspData.command d) := by
  induction commands generalizing d with
  | nil => exact .refl d
  | cons command commands ih => exact (Edited.command d command).trans (ih _)

/-- The end of a session edits its record. -/
theorem Edited.endSession (d : RtspData) : d.Edited d.endSession := by
  refine ⟨rfl, rfl, rfl, fun consistent => ⟨consistent.into, consistent.out, fun status => ?_⟩⟩
  simp only [RtspData.endSession] at status
  split at status
  · cases status
  · cases status

/-- `incomingRequestHandler1` edits the record of its session. -/
theorem Edited.handle (d : RtspData) (run : HandlerRun) : d.Edited (d.handle run) := by
  unfold RtspData.handle
  split
  · split
    · exact .refl d
    · exact .endSession d
  · dsimp only
    have commands := Edited.commands d run.commands
    split
    · exact commands
    · split
      · exact commands.trans (.endSession _)
      · exact commands

/-- The commands of a call leave the requests alone. -/
theorem commands_requests (d : RtspData) (commands : List SessionCommand) :
    (commands.foldl RtspData.command d).inreq = d.inreq ∧
      (commands.foldl RtspData.command d).outreq = d.outreq := by
  induction commands generalizing d with
  | nil => exact ⟨rfl, rfl⟩
  | cons command commands ih =>
    rw [List.foldl_cons, (ih _).1, (ih _).2]
    cases command <;> exact ⟨rfl, rfl⟩

/-- `incomingRequestHandler1` leaves the requests of the record alone. -/
theorem handle_attached (d : RtspData) (run : HandlerRun) : (d.handle run).attached = d.attached := by
  obtain ⟨into, out⟩ := d.commands_requests run.commands
  unfold RtspData.handle
  split
  · split <;> rfl
  · dsimp only
    split
    · rw [attached, into, out, attached]
    · split
      · rw [attached, endSession, into, out, attached]
      · rw [attached, into, out, attached]

/-- Without sockets the session ends, and no flag is left. -/
theorem handle_alone (consistent : d.Consistent) (alone : d.flags.connectOk = false)
    (run : HandlerRun) : (d.handle run).flags = .zero := by
  have sockets := alone
  simp only [RecordFlags.connectOk, Bool.or_eq_false_iff] at sockets
  have into : d.inreq = none := by simpa [sockets.1] using consistent.into
  rw [RtspData.handle, if_pos into, if_neg (by simp [alone]), endSession]
  simp [RecordFlags.zero, sockets.1, sockets.2]

/-! ### Reading the sockets of a record -/

/-- The record after the first half of a round of the loop over the sockets. -/
def dropIn (reads : ReqAddr → ReadResult) (d : RtspData) : RtspData :=
  if d.inreq.any fun req => reads req = .closed then d.closeIn else d

/-- The record after the second half of a round of the loop over the sockets. -/
def dropOut (reads : ReqAddr → ReadResult) (d : RtspData) : RtspData :=
  if d.outreq.any fun req => reads req = .closed then d.closeOut else d

/-- The record after a round of the loop over the sockets. -/
def served (reads : ReqAddr → ReadResult) (d : RtspData) : RtspData :=
  let closedIn := d.inreq.any fun req => reads req = .closed
  let closedOut := d.outreq.any fun req => reads req = .closed
  let d := (d.dropIn reads).dropOut reads
  if closedIn || closedOut then d.settleClosed else d

/-- The requests whose sockets a round of the loop finds closed, the last one first. -/
def returned (reads : ReqAddr → ReadResult) (d : RtspData) : List ReqAddr :=
  (d.outreq.filter fun req => reads req = .closed).toList ++
    (d.inreq.filter fun req => reads req = .closed).toList

/-- A record one of whose sockets was closed is not active. -/
theorem settleClosed_status (d : RtspData) : d.settleClosed.status ≠ .active := by
  unfold settleClosed
  split
  · rename_i status
    simp [status]
  · dsimp only
    split <;> simp

/-- The first half of a round leaves the other request alone. -/
theorem dropIn_outreq (reads : ReqAddr → ReadResult) (d : RtspData) :
    (d.dropIn reads).outreq = d.outreq := by
  unfold dropIn
  split <;> rfl

/-- A round of the loop over the sockets edits the record. -/
theorem Edited.served (reads : ReqAddr → ReadResult) (d : RtspData) :
    d.Edited (d.served reads) := by
  have settled : ∀ d : RtspData, d.settleClosed.next = d.next ∧ d.settleClosed.prev = d.prev ∧
      d.settleClosed.sessionid = d.sessionid ∧ d.settleClosed.inreq = d.inreq ∧
      d.settleClosed.outreq = d.outreq ∧ d.settleClosed.flags = d.flags := by
    intro d
    unfold settleClosed
    split <;> exact ⟨rfl, rfl, rfl, rfl, rfl, rfl⟩
  -- Whatever was closed, the flags follow the requests, and the record is not active.
  have close : ∀ d' : RtspData, d'.next = d.next → d'.prev = d.prev → d'.sessionid = d.sessionid →
      (d.Consistent → d'.flags.inOk = d'.inreq.isSome ∧ d'.flags.outOk = d'.outreq.isSome) →
      d.Edited d'.settleClosed := by
    intro d' next prev sessionid flags
    obtain ⟨next', prev', sessionid', into, out, flags'⟩ := settled d'
    refine ⟨next'.trans next, prev'.trans prev, sessionid'.trans sessionid, fun consistent => ?_⟩
    refine ⟨?_, ?_, fun status => absurd status (settleClosed_status d')⟩
    · rw [flags', into]
      exact (flags consistent).1
    · rw [flags', out]
      exact (flags consistent).2
  unfold RtspData.served
  have second : (d.dropIn reads).dropOut reads =
      if d.outreq.any fun req => reads req = .closed then (d.dropIn reads).closeOut
      else d.dropIn reads := by
    rw [dropOut, dropIn_outreq]
  rw [second, dropIn]
  by_cases closedIn : d.inreq.any fun req => reads req = .closed
  · by_cases closedOut : d.outreq.any fun req => reads req = .closed
    · simp only [closedIn, closedOut, if_true, Bool.or_self]
      exact close _ rfl rfl rfl fun _ => ⟨rfl, rfl⟩
    · simp only [closedIn, closedOut, if_true, Bool.or_false, Bool.false_eq_true, if_false]
      exact close _ rfl rfl rfl fun consistent => ⟨rfl, consistent.out⟩
  · by_cases closedOut : d.outreq.any fun req => reads req = .closed
    · simp only [closedIn, closedOut, if_true, Bool.or_true, Bool.false_eq_true, if_false]
      exact close _ rfl rfl rfl fun consistent => ⟨consistent.into, rfl⟩
    · simp only [closedIn, closedOut, Bool.or_self, Bool.false_eq_true, if_false]
      exact .refl d

/-- The end of a round leaves the requests alone. -/
theorem settleClosed_requests (d : RtspData) :
    d.settleClosed.inreq = d.inreq ∧ d.settleClosed.outreq = d.outreq := by
  unfold settleClosed
  split <;> exact ⟨rfl, rfl⟩

/-- The requests a round of the loop over the sockets leaves. -/
theorem served_requests (reads : ReqAddr → ReadResult) (d : RtspData) :
    (d.served reads).inreq = d.inreq.filter (fun req => reads req ≠ .closed) ∧
      (d.served reads).outreq = d.outreq.filter (fun req => reads req ≠ .closed) := by
  have kept : ∀ slot : Option ReqAddr,
      (if slot.any fun req => reads req = .closed then none else slot) =
        slot.filter (fun req => reads req ≠ .closed) := by
    intro slot
    cases slot with
    | none => rfl
    | some req =>
      by_cases closed : reads req = .closed
      · simp [closed, Option.filter]
      · simp [closed, Option.filter]
  have settled : (d.served reads).inreq = ((d.dropIn reads).dropOut reads).inreq ∧
      (d.served reads).outreq = ((d.dropIn reads).dropOut reads).outreq := by
    unfold served
    dsimp only
    split
    · exact settleClosed_requests _
    · exact ⟨rfl, rfl⟩
  rw [settled.1, settled.2, ← kept, ← kept]
  constructor
  · have second : ((d.dropIn reads).dropOut reads).inreq = (d.dropIn reads).inreq := by
      rw [dropOut]
      split <;> rfl
    rw [second, dropIn]
    split <;> rfl
  · rw [dropOut, dropIn_outreq]
    split
    · rfl
    · exact dropIn_outreq reads d

/-- A round of the loop over the sockets moves the requests that were closed to `return_list`. -/
theorem served_attached (reads : ReqAddr → ReadResult) (d : RtspData) :
    ((d.served reads).attached ++ d.returned reads).Perm d.attached := by
  obtain ⟨into, out⟩ := d.served_requests reads
  rw [attached, into, out, returned, attached]
  have split : ∀ slot : Option ReqAddr, slot.toList =
      (slot.filter fun req => reads req ≠ .closed).toList ++
        (slot.filter fun req => reads req = .closed).toList := by
    intro slot
    cases slot with
    | none => rfl
    | some req =>
      by_cases closed : reads req = .closed
      · simp [closed, Option.filter]
      · simp [closed, Option.filter]
  rw [split d.inreq, split d.outreq]
  grind

end RtspData

end BoaIpcam
