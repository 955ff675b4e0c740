import BoaIpcam.Tunnel.System
import Mathlib.Data.List.Pairwise

/-!
# Where the requests are

A request that `rtsp_o_http_insert_req` took off `request_ready` should be found again: in a slot
of a record of `used_list`, or on `return_list`. That is so as long as the thread accepts every
request it is handed.
-/
namespace BoaIpcam

open LinkedList TransitionSystem

/-- A record of `used_list` has the request in the slot of a direction. -/
def Worker.Holds (w : Worker) (r : ReqAddr) (place : RecordAddr × Direction) : Prop :=
  Reaches w.next w.usedList place.1 ∧ (w.records place.1).slot place.2 = some r

/-- The requests of a record are those in its slots. -/
theorem RtspData.mem_attached {d : RtspData} {r : ReqAddr} :
    r ∈ d.attached ↔ ∃ direction, d.slot direction = some r := by
  simp only [RtspData.attached, List.mem_append, Option.mem_toList]
  constructor
  · rintro (into | out)
    · exact ⟨.into, into⟩
    · exact ⟨.out, out⟩
  · rintro ⟨direction, taken⟩
    cases direction with
    | into => exact .inl taken
    | out => exact .inr taken

section
variable {w : Worker} {used free : List RecordAddr} {r : ReqAddr}

/-- The requests of the records are those that some record holds. -/
theorem RecordsValid.mem_attachments (valid : RecordsValid w used free) :
    r ∈ w.attachments used ↔ ∃ place, w.Holds r place := by
  rw [Worker.attachments, List.mem_flatMap]
  constructor
  · rintro ⟨a, member, inside⟩
    obtain ⟨direction, taken⟩ := RtspData.mem_attached.mp inside
    exact ⟨(a, direction), (valid.reaches_iff a).mpr member, taken⟩
  · rintro ⟨⟨a, direction⟩, reached, taken⟩
    exact ⟨a, (valid.reaches_iff a).mp reached, RtspData.mem_attached.mpr ⟨direction, taken⟩⟩

/-- When the requests of the records are all different, each is in one slot of one record. -/
theorem RecordsValid.holds_unique (valid : RecordsValid w used free)
    (fresh : (w.attachments used).Nodup) {place place' : RecordAddr × Direction}
    (holds : w.Holds r place) (holds' : w.Holds r place') : place = place' := by
  obtain ⟨a, direction⟩ := place
  obtain ⟨a', direction'⟩ := place'
  have member := (valid.reaches_iff a).mp holds.1
  have member' := (valid.reaches_iff a').mp holds'.1
  have inside : r ∈ (w.records a).attached := RtspData.mem_attached.mpr ⟨direction, holds.2⟩
  have inside' : r ∈ (w.records a').attached := RtspData.mem_attached.mpr ⟨direction', holds'.2⟩
  obtain ⟨each, apart⟩ := List.nodup_flatMap.mp fresh
  have same : a = a' := by
    by_contra other
    have symmetric : Std.Symm (Function.onFun List.Disjoint fun a => (w.records a).attached) :=
      ⟨fun _ _ disjoint => disjoint.symm⟩
    exact apart.forall member member' other inside inside'
  subst same
  have both := each a member
  cases direction with
  | into =>
    cases direction' with
    | into => rfl
    | out =>
      have into : (w.records a).inreq = some r := holds.2
      have out : (w.records a).outreq = some r := holds'.2
      simp [RtspData.attached, into, out] at both
  | out =>
    cases direction' with
    | out => rfl
    | into =>
      have into : (w.records a).inreq = some r := holds'.2
      have out : (w.records a).outreq = some r := holds.2
      simp [RtspData.attached, into, out] at both

end

/-- A request that was handed over is in exactly one slot of one record of `used_list`, or on
`return_list`. -/
def Tunnel.Kept (t : Tunnel) : Prop :=
  ∀ r ∈ t.removed, (∃! place, t.worker.Holds r place) ∨ r ∈ t.worker.returnList

/-- The thread accepts the requests it is handed. -/
def Accepted (t : Tunnel) : TunnelAct → Prop
  | .insert r malloc => t.worker.Accepts r malloc
  | _ => True

/-- The requests that were handed over are those of the records, of `return_list` and the lost ones,
each of them once, and none of them is on `request_ready`. -/
structure Tunnel.Accounted (t : Tunnel) (used free : List RecordAddr) (lost : List ReqAddr) :
    Prop where
  /-- The records are valid. -/
  valid : RecordsValid t.worker used free
  /-- A request that was handed over is in one place. -/
  whole : t.removed.Perm (t.worker.attachments used ++ t.worker.returnList ++ lost)
  /-- It is not ready as well. -/
  fresh : (t.removed ++ t.ready).Nodup

/-- Before the first request there is nothing to account for. -/
theorem Tunnel.Accounted.start (requests : ReqAddr → TunnelRequest) :
    (Tunnel.start requests).Accounted [] [] [] where
  valid := .start requests
  whole := List.Perm.refl []
  fresh := List.nodup_nil

/-- A request on `request_ready` is attached to no record. -/
theorem Tunnel.Accounted.ready {t : Tunnel} {used free : List RecordAddr} {lost : List ReqAddr}
    (accounted : t.Accounted used free lost) {r : ReqAddr} (member : r ∈ t.ready) :
    ¬∃ place, t.worker.Holds r place := by
  intro held
  have attached := accounted.valid.mem_attachments.mpr held
  have handed : r ∈ t.removed := by
    rw [accounted.whole.mem_iff]
    exact List.mem_append_left _ (List.mem_append_left _ attached)
  exact (List.nodup_append.mp accounted.fresh).2.2 r handed r member rfl

/-- An action keeps account of all requests, and loses none when it hands over an accepted one, or
none. -/
theorem Tunnel.Accounted.step {t t' : Tunnel} {act : TunnelAct} {used free : List RecordAddr}
    {lost : List ReqAddr} (accounted : t.Accounted used free lost) (step : t.Step act t') :
    ∃ used' free' lost', t'.Accounted used' free' lost' ∧ (Accepted t act → lost' = lost) := by
  obtain ⟨valid, whole, fresh⟩ := accounted
  cases step.effect with
  | accept new =>
    refine ⟨used, free, lost, ⟨valid.frame _ _, whole, ?_⟩, fun _ => rfl⟩
    rw [List.nodup_append_comm, List.cons_append, List.nodup_cons, List.nodup_append_comm]
    refine ⟨fun member => new ?_, fresh⟩
    exact List.mem_append.mp member
  | release member =>
    refine ⟨used, free, lost, ⟨valid, whole, fresh.sublist ?_⟩, fun _ => rfl⟩
    exact List.Sublist.append (List.Sublist.refl _) List.erase_sublist
  | @insert r malloc rounds worker member inserted =>
    obtain ⟨used', free', valid', returnList, -, -, attached, refused⟩ := valid.insert inserted
    -- The request moves from `request_ready` to the others.
    have moved : (t.removed ++ t.ready).Perm (r :: t.removed ++ t.ready.erase r) := by
      refine (List.Perm.append_left _ (List.perm_cons_erase member)).trans ?_
      exact List.perm_middle
    have fresh' := moved.nodup_iff.mp fresh
    by_cases accepted : t.worker.Accepts r malloc
    · refine ⟨used', free', lost, ⟨valid', ?_, fresh'⟩, fun _ => rfl⟩
      dsimp only
      rw [returnList]
      refine (whole.cons r).trans ?_
      exact ((attached accepted).symm.append_right _).append_right _
    · refine ⟨used', free', r :: lost, ⟨valid', ?_, fresh'⟩, fun met => absurd met accepted⟩
      dsimp only
      rw [returnList]
      refine (whole.cons r).trans (List.perm_middle.symm.trans ?_)
      exact ((refused accepted).symm.append_right _).append_right _
  | serve served =>
    obtain ⟨valid', moved, -, -⟩ :=
      RecordsValid.serveFrom [] valid valid.lists.usedChain.chain served
    exact ⟨used, free, lost, ⟨valid', whole.trans (moved.symm.append_right _), fresh⟩, fun _ => rfl⟩
  | update updated =>
    obtain ⟨used', free', valid', moved, returnList, -, -⟩ :=
      RecordsValid.updateFrom [] valid valid.lists.usedChain.chain updated
    refine ⟨used', free', lost, ⟨valid', ?_, fresh⟩, fun _ => rfl⟩
    dsimp only
    rw [returnList]
    exact whole.trans ((moved.symm.append_right _).append_right _)
  | @collect r rest first =>
    have member : r ∈ t.removed := by
      rw [whole.mem_iff, first]
      simp
    refine ⟨used, free, lost, ⟨valid.frame _ _, ?_, ?_⟩, fun _ => rfl⟩
    · have without := whole.erase r
      rw [first] at without
      refine without.trans ?_
      have moved : (t.worker.attachments used ++ r :: rest ++ lost).Perm
          (r :: (t.worker.attachments used ++ rest ++ lost)) :=
        (List.perm_middle.append_right lost)
      have erased := moved.erase r
      rwa [List.erase_cons_head] at erased
    · have moved : (t.removed ++ t.ready).Perm (t.removed.erase r ++ r :: t.ready) := by
        refine ((List.perm_cons_erase member).append_right _).trans ?_
        exact List.perm_middle.symm
      exact moved.nodup_iff.mp fresh

/-- In every run in which the thread accepts the requests it is handed, no request is lost: each
one that was taken off `request_ready` is attached to one record of `used_list`, or it is on
`return_list`. -/
theorem handed_requests_kept {requests : ReqAddr → TunnelRequest} {acts : List TunnelAct}
    {t : Tunnel} (run : Run Tunnel.Step Accepted (Tunnel.start requests) acts t) : t.Kept := by
  obtain ⟨used, free, valid, whole, fresh⟩ := Run.invariant
    (fun t : Tunnel => ∃ used free, t.Accounted used free [])
    (fun s act next ⟨used, free, accounted⟩ accepted step => by
      obtain ⟨used', free', lost', accounted', none_⟩ := accounted.step step
      exact ⟨used', free', none_ accepted ▸ accounted'⟩)
    run ⟨[], [], .start requests⟩
  rw [List.append_nil] at whole
  intro r member
  have inside := whole.mem_iff.mp member
  have different := (List.nodup_append.mp (whole.nodup_iff.mp (List.nodup_append.mp fresh).1)).1
  rcases List.mem_append.mp inside with inside | inside
  · obtain ⟨place, holds⟩ := valid.mem_attachments.mp inside
    exact .inl ⟨place, holds, fun other holds' => valid.holds_unique different holds' holds⟩
  · exact .inr inside

/-- The two requests of a session are attached to its record. -/
theorem handed_requests_kept_session : ∃ t,
    Run Tunnel.Step Accepted idleTunnel (oneSession.take 4) t ∧ t.removed = [1, 0] ∧ t.Kept := by
  have run : ∃ t, Run Tunnel.Step Accepted idleTunnel (oneSession.take 4) t ∧
      t.removed = [1, 0] := by
    refine ⟨_, .go trivial ⟨1, rfl⟩ (.go ⟨?_, ?_⟩ ⟨1, rfl⟩ (.go trivial ⟨1, rfl⟩
      (.go ⟨?_, ?_⟩ ⟨1, rfl⟩ (.stop _)))), rfl⟩
    · intro a reached
      cases reached
    · exact fun _ => .inr rfl
    · intro a reached _
      rw [show a = 0 from reached.single ⟨rfl, rfl⟩]
      exact ⟨by decide, rfl⟩
    · exact fun _ => .inr rfl
  obtain ⟨t, run, handed⟩ := run
  exact ⟨t, run, handed, handed_requests_kept run⟩

/-- A second GET with the session id of a record that has one is taken off `request_ready` and
attached to nothing. -/
theorem second_get_is_lost : ∃ t,
    Run Tunnel.Step (fun _ _ => True) idleTunnel
      [.accept 0 (streamRequest .out 97), .insert 0 true,
        .accept 1 (streamRequest .out 97), .insert 1 true] t ∧ ¬t.Kept := by
  refine ⟨_, .go trivial ⟨1, rfl⟩ (.go trivial ⟨1, rfl⟩ (.go trivial ⟨1, rfl⟩
    (.go trivial ⟨1, rfl⟩ (.stop _)))), fun kept => ?_⟩
  rcases kept 1 (by decide) with ⟨⟨a, direction⟩, holds, -⟩ | returned
  · obtain rfl : a = 0 := holds.1.single ⟨rfl, rfl⟩
    cases direction with
    | into => exact absurd holds.2 (by decide)
    | out => exact absurd holds.2 (by decide)
  · exact absurd returned (by decide)

end BoaIpcam
