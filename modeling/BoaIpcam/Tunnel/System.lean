import BoaIpcam.Tunnel.Rounds

/-!
# The main thread and the thread of RTSP over HTTP

`rtsp_o_http_insert_req` hands a request of `request_ready` to the thread and takes it off that
list; `rtsp_o_http_get_return_req` puts one of `return_list` back. An insertion is one action
here, from the post in `insert_req` until the main thread is woken. The other actions of the
thread are a pass of the loop over the sockets and a pass of `update_record`; `removed` is the
requests that `rtsp_o_http_insert_req` has taken off `request_ready` and that were not put back.
-/
namespace BoaIpcam

open LinkedList TransitionSystem

/-- The thread, the list `request_ready`, and the requests that were handed over. -/
structure Tunnel where
  /-- The thread. -/
  worker : Worker
  /-- `request_ready`. -/
  ready : List ReqAddr
  /-- The requests that were handed over. -/
  removed : List ReqAddr

/-- What the two threads do next. -/
inductive TunnelAct where
  /-- A request for the stream arrives. -/
  | accept (r : ReqAddr) (request : TunnelRequest)
  /-- The main thread is done with a request: it blocks, or it is freed. -/
  | release (r : ReqAddr)
  /-- `rtsp_o_http_insert_req` for a request that the thread then takes. -/
  | insert (r : ReqAddr) (malloc : Bool)
  | serve (reads : ReqAddr → ReadResult)
  | update (handler : RecordAddr → HandlerRun)
  /-- `rtsp_o_http_get_return_req` and the `enqueue` after it. -/
  | collect

namespace Tunnel

/-- The two threads before the first request. -/
def start (requests : ReqAddr → TunnelRequest) : Tunnel := ⟨.start requests, [], []⟩

/-- One action, if it is possible and its loops are over after the given number of rounds. -/
def exec (rounds : Nat) (t : Tunnel) : TunnelAct → Option Tunnel
  | .accept r request =>
    if r ∈ t.ready ∨ r ∈ t.removed then none
    else some { t with
      worker := { t.worker with requests := Function.update t.worker.requests r request }
      ready := r :: t.ready }
  | .release r => if r ∈ t.ready then some { t with ready := t.ready.erase r } else none
  | .insert r malloc =>
    if r ∈ t.ready then
      (t.worker.insert rounds r malloc).map fun worker =>
        ⟨worker, t.ready.erase r, r :: t.removed⟩
    else none
  | .serve reads =>
    (Worker.serveFrom reads rounds t.worker.usedList t.worker).map fun worker => { t with worker }
  | .update handler =>
    (Worker.updateFrom handler rounds t.worker.usedList t.worker).map fun worker => { t with worker }
  | .collect =>
    match t.worker.returnList with
    | [] => none
    | r :: rest => some
      ⟨{ t.worker with returnList := rest }, r :: t.ready, t.removed.erase r⟩

/-- One action that returns. -/
def Step (t : Tunnel) (act : TunnelAct) (t' : Tunnel) : Prop := ∃ rounds, t.exec rounds act = some t'

/-- The actions that are possible, and where they lead. -/
inductive Effect (t : Tunnel) : TunnelAct → Tunnel → Prop
  | accept {r : ReqAddr} {request : TunnelRequest} (new : ¬(r ∈ t.ready ∨ r ∈ t.removed)) :
      Effect t (.accept r request)
        { t with
          worker := { t.worker with requests := Function.update t.worker.requests r request }
          ready := r :: t.ready }
  | release {r : ReqAddr} (member : r ∈ t.ready) :
      Effect t (.release r) { t with ready := t.ready.erase r }
  | insert {r : ReqAddr} {malloc : Bool} {rounds : Nat} {worker : Worker} (member : r ∈ t.ready)
      (inserted : t.worker.insert rounds r malloc = some worker) :
      Effect t (.insert r malloc) ⟨worker, t.ready.erase r, r :: t.removed⟩
  | serve {reads : ReqAddr → ReadResult} {rounds : Nat} {worker : Worker}
      (served : Worker.serveFrom reads rounds t.worker.usedList t.worker = some worker) :
      Effect t (.serve reads) { t with worker }
  | update {handler : RecordAddr → HandlerRun} {rounds : Nat} {worker : Worker}
      (updated : Worker.updateFrom handler rounds t.worker.usedList t.worker = some worker) :
      Effect t (.update handler) { t with worker }
  | collect {r : ReqAddr} {rest : List ReqAddr} (first : t.worker.returnList = r :: rest) :
      Effect t .collect ⟨{ t.worker with returnList := rest }, r :: t.ready, t.removed.erase r⟩

/-- An action that returns is possible. -/
theorem Step.effect {t t' : Tunnel} {act : TunnelAct} (step : t.Step act t') : t.Effect act t' := by
  obtain ⟨rounds, done⟩ := step
  cases act with
  | accept r request =>
    simp only [exec] at done
    split at done
    · cases done
    · rename_i new
      cases done
      exact .accept new
  | release r =>
    simp only [exec] at done
    split at done
    · rename_i member
      cases done
      exact .release member
    · cases done
  | insert r malloc =>
    simp only [exec] at done
    split at done
    · rename_i member
      obtain ⟨worker, inserted, same⟩ := Option.map_eq_some_iff.mp done
      cases same
      exact .insert member inserted
    · cases done
  | serve reads =>
    obtain ⟨worker, served, same⟩ := Option.map_eq_some_iff.mp done
    cases same
    exact .serve served
  | update handler =>
    obtain ⟨worker, updated, same⟩ := Option.map_eq_some_iff.mp done
    cases same
    exact .update updated
  | collect =>
    simp only [exec] at done
    split at done
    · cases done
    · rename_i r rest first
      cases done
      exact .collect first

end Tunnel

/-! ## The records -/

/-- What the records are in a sound state: the two lists are doubly linked and disjoint, so they
have an end, the flags of a record of `used_list` tell its sockets, an active one has both, no
two have the same session id, and a round of `update_record` reads through no null pointer. -/
structure Worker.Sound (w : Worker) (used free : List RecordAddr) : Prop where
  /-- `used_list` is doubly linked. -/
  usedChain : DChain w.next w.prev none w.usedList used
  /-- So is `free_list`. -/
  freeChain : DChain w.next w.prev none w.freeList free
  /-- No record is on both. -/
  disjoint : ∀ a ∈ used, a ∉ free
  /-- `FLAGS_IN_OK` tells that there is a POST. -/
  into : ∀ a ∈ used, (w.records a).flags.inOk = true ↔ (w.records a).inreq ≠ none
  /-- `FLAGS_OUT_OK` tells that there is a GET. -/
  out : ∀ a ∈ used, (w.records a).flags.outOk = true ↔ (w.records a).outreq ≠ none
  /-- An active record has both. -/
  active : ∀ a ∈ used, (w.records a).status = .active →
    (w.records a).inreq ≠ none ∧ (w.records a).outreq ≠ none
  /-- Two used records have different sessions. -/
  sessions : (used.map fun a => (w.records a).sessionid).Nodup
  /-- A round reads through no null pointer. -/
  updates : ∀ a ∈ used, ∀ handler, w.update handler a ≠ none

/-- A pass of `update_record` recycles at most one record, and only while `free_list` is empty. -/
def RecyclesOne (t : Tunnel) : TunnelAct → Prop
  | .update _ => ∀ a, Reaches t.worker.next t.worker.usedList a → t.worker.Recyclable a →
      t.worker.freeList = none ∧
        ∀ b, Reaches t.worker.next t.worker.usedList b → t.worker.Recyclable b → b = a
  | _ => True

/-- Valid records with a doubly linked `free_list` are sound. -/
theorem RecordsValid.sound {w : Worker} {used free : List RecordAddr}
    (valid : RecordsValid w used free) (linked : FreeLinked w free) : w.Sound used free where
  usedChain := valid.lists.usedChain
  freeChain := linked
  disjoint := valid.lists.disjoint
  into a member := by rw [(valid.consistent a member).into, Option.isSome_iff_ne_none]
  out a member := by rw [(valid.consistent a member).out, Option.isSome_iff_ne_none]
  active a member := (valid.consistent a member).active
  sessions := valid.sessions
  updates a member handler := by
    have active := (valid.consistent a member).active
    unfold Worker.update
    split
    · rename_i status
      intro missing
      exact (active status).1 (Option.map_eq_none_iff.mp missing)
    · dsimp only
      split <;> split <;> simp
    · simp
    · simp

/-- What an action keeps in every state. -/
theorem Tunnel.Step.valid {t t' : Tunnel} {act : TunnelAct} {used free : List RecordAddr}
    (valid : RecordsValid t.worker used free) (step : t.Step act t') :
    ∃ used' free', RecordsValid t'.worker used' free' ∧
      (FreeLinked t.worker free → RecyclesOne t act → FreeLinked t'.worker free') := by
  cases step.effect with
  | accept new => exact ⟨used, free, valid.frame _ _, fun linked _ => linked⟩
  | release member => exact ⟨used, free, valid, fun linked _ => linked⟩
  | insert member inserted =>
    obtain ⟨used', free', valid', -, -, linked', -⟩ := valid.insert inserted
    exact ⟨used', free', valid', fun linked _ => linked' linked⟩
  | serve served =>
    obtain ⟨valid', -, linked', -⟩ :=
      RecordsValid.serveFrom [] valid valid.lists.usedChain.chain served
    exact ⟨used, free, valid', fun linked _ => linked' linked⟩
  | update updated =>
    obtain ⟨used', free', valid', -, -, -, linked'⟩ :=
      RecordsValid.updateFrom [] valid valid.lists.usedChain.chain updated
    refine ⟨used', free', valid', fun linked one => linked' linked fun a member recyclable => ?_⟩
    obtain ⟨empty, only⟩ := one a ((valid.reaches_iff a).mpr member) recyclable
    constructor
    · exact Chain.unique valid.lists.freeChain empty
    · exact fun b inside => only b ((valid.reaches_iff b).mpr inside)
  | collect first => exact ⟨used, free, valid.frame _ _, fun linked _ => linked⟩

/-- In every run whose passes of `update_record` recycle at most one record, and only while
`free_list` is empty, the records are sound in every state. -/
theorem records_sound {requests : ReqAddr → TunnelRequest} {acts : List TunnelAct} {t : Tunnel}
    (run : Run Tunnel.Step RecyclesOne (Tunnel.start requests) acts t) :
    ∃ used free, t.worker.Sound used free := by
  have invariant := Run.invariant
    (fun t : Tunnel => ∃ used free, RecordsValid t.worker used free ∧ FreeLinked t.worker free)
    (fun s act next ⟨used, free, valid, linked⟩ one step => by
      obtain ⟨used', free', valid', linked'⟩ := Tunnel.Step.valid valid step
      exact ⟨used', free', valid', linked' linked one⟩)
    run ⟨[], [], .start requests, rfl⟩
  obtain ⟨used, free, valid, linked⟩ := invariant
  exact ⟨used, free, valid.sound linked⟩

/-- A request of a session whose id is one byte. -/
def streamRequest (direction : Direction) (session : UInt8) : TunnelRequest :=
  ⟨direction, [session], 0, 0, by simp⟩

/-- The two threads before the first request, for examples. -/
def idleTunnel : Tunnel := .start fun _ => streamRequest .out 0

/-- A session with both sockets, which the client then closes. -/
def oneSession : List TunnelAct :=
  [.accept 0 (streamRequest .out 97), .insert 0 true,
    .accept 1 (streamRequest .into 97), .insert 1 true,
    .serve fun _ => .closed, .update fun _ => ⟨[], true, true⟩]

/-- The record of a session whose sockets were closed is recycled. -/
theorem records_sound_one_session : ∃ t, Run Tunnel.Step RecyclesOne idleTunnel oneSession t ∧
    t.worker.freeList = some 0 ∧ ∃ used free, t.worker.Sound used free := by
  have run : ∃ t, Run Tunnel.Step RecyclesOne idleTunnel oneSession t ∧
      t.worker.freeList = some 0 := by
    refine ⟨_, .go trivial ⟨1, rfl⟩ (.go trivial ⟨1, rfl⟩ (.go trivial ⟨1, rfl⟩
      (.go trivial ⟨1, rfl⟩ (.go trivial ⟨1, rfl⟩ (.go ?_ ⟨1, rfl⟩ (.stop _)))))), rfl⟩
    -- The pass finds one record, and `free_list` is empty.
    intro a reached _
    have first : a = 0 := reached.single ⟨rfl, rfl⟩
    refine ⟨rfl, fun b reached' _ => ?_⟩
    have second : b = 0 := reached'.single ⟨rfl, rfl⟩
    exact second.trans first.symm
  obtain ⟨t, run, recycled⟩ := run
  exact ⟨t, run, recycled, records_sound run⟩

/-- Two players, each with a GET for its answers, which both close. -/
def twoPlayers : List TunnelAct :=
  [.accept 0 (streamRequest .out 97), .insert 0 true,
    .accept 1 (streamRequest .out 98), .insert 1 true,
    .serve fun _ => .closed, .update fun _ => ⟨[], true, true⟩]

/-- When two records are recycled, the back pointer of the first one stays null although another
record is before it. -/
theorem free_list_misses_back_pointer : ∃ t,
    Run Tunnel.Step (fun _ _ => True) idleTunnel twoPlayers t ∧
      ¬∃ used free, t.worker.Sound used free := by
  refine ⟨_, .go trivial ⟨1, rfl⟩ (.go trivial ⟨1, rfl⟩ (.go trivial ⟨2, rfl⟩
    (.go trivial ⟨2, rfl⟩ (.go trivial ⟨2, rfl⟩ (.go trivial ⟨2, rfl⟩ (.stop _)))))), ?_⟩
  rintro ⟨used, free, sound⟩
  have whole : free = [0, 1] := sound.freeChain.chain.unique ⟨rfl, rfl, rfl⟩
  have linked := sound.freeChain
  rw [whole] at linked
  have back := linked.2.2.2.1
  cases back

end BoaIpcam
