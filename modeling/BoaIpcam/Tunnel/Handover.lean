import BoaIpcam.Tunnel.Requests

/-!
# Handing a request over

`rtsp_o_http_insert_req` in its single steps. It unlocks `insert_mutex`, which the call before may
have left locked, locks it again, writes the request to `insert_req` and waits for three seconds.
When it is woken it takes the request off `request_ready`. When the time is over it returns null:
the mutex stays locked, and the request stays in `insert_req` and on `request_ready`.

The thread takes the request of `insert_req` while it holds the mutex, and signals the main
thread; that is one action. A wait can be over without the main thread having got the mutex yet,
so that the signal comes too late. The main thread does nothing else while it waits.
-/
namespace BoaIpcam

open LinkedList TransitionSystem

/-- Where the main thread is in `rtsp_o_http_insert_req`. -/
inductive MainThread where
  /-- It is not in there. -/
  | idle
  /-- It has unlocked the mutex. -/
  | entering (r : ReqAddr)
  | waiting (r : ReqAddr)
  /-- The time is over. -/
  | expired (r : ReqAddr)
  /-- It was signalled in time. -/
  | woken (r : ReqAddr)
deriving DecidableEq, Repr

/-- `pthread_cond_signal`. -/
def MainThread.signal : MainThread → MainThread
  | .waiting r => .woken r
  | main => main

/-- The request of the call the main thread is in. -/
def MainThread.request : MainThread → Option ReqAddr
  | .idle => none
  | .entering r => some r
  | .waiting r => some r
  | .expired r => some r
  | .woken r => some r

/-- The two threads and what they share. `mutexHeld` says that the main thread has returned with
the mutex locked; `late` is the requests that the thread took after the main thread had given
them up. -/
structure Handover extends Tunnel where
  /-- What the main thread is doing. -/
  main : MainThread
  /-- `insert_req`. -/
  insertReq : Option ReqAddr
  /-- Whether the mutex stays locked. -/
  mutexHeld : Bool
  /-- The requests that were taken too late. -/
  late : List ReqAddr

/-- What the two threads do next. -/
inductive HandoverAct where
  /-- An action outside of the hand-over. -/
  | outside (act : TunnelAct)
  /-- `rtsp_o_http_insert_req` up to the first `pthread_mutex_trylock`. -/
  | enter (r : ReqAddr)
  /-- The mutex could not be locked. -/
  | fail
  /-- The mutex is locked, `insert_req` is written, and the wait begins. -/
  | post
  | expire
  | giveUp
  | wake
  /-- The thread finds `insert_req`. -/
  | take (malloc : Bool)

/-- The main thread does its other actions while it is not in `rtsp_o_http_insert_req`; the thread
does its own at any time. The insertion is what the steps here are about. -/
def TunnelAct.possible (main : MainThread) : TunnelAct → Bool
  | .insert _ _ => false
  | .serve _ => true
  | .update _ => true
  | _ => main = .idle

namespace Handover

/-- The two threads before the first request. -/
def start (requests : ReqAddr → TunnelRequest) : Handover :=
  { Tunnel.start requests with main := .idle, insertReq := none, mutexHeld := false, late := [] }

/-- One action, if it is possible and its loops are over after the given number of rounds. -/
def exec (rounds : Nat) (s : Handover) : HandoverAct → Option Handover
  | .outside act =>
    if act.possible s.main then
      (s.toTunnel.exec rounds act).map fun t => { s with toTunnel := t }
    else none
  | .enter r =>
    if s.main = .idle ∧ r ∈ s.ready then some { s with main := .entering r, mutexHeld := false }
    else none
  | .fail =>
    match s.main with
    | .entering _ => some { s with main := .idle }
    | _ => none
  | .post =>
    match s.main with
    | .entering r => some { s with main := .waiting r, insertReq := some r }
    | _ => none
  | .expire =>
    match s.main with
    | .waiting r => some { s with main := .expired r }
    | _ => none
  | .giveUp =>
    match s.main with
    | .expired _ => some { s with main := .idle, mutexHeld := true }
    | _ => none
  | .wake =>
    match s.main with
    | .woken r =>
      some { s with main := .idle, ready := s.ready.erase r, removed := r :: s.removed }
    | _ => none
  | .take malloc =>
    match s.insertReq with
    | none => none
    | some r =>
      if s.mutexHeld then none
      else (s.worker.insert rounds r malloc).map fun worker => { s with
        worker
        insertReq := none
        main := s.main.signal
        late := if s.main = .waiting r ∨ s.main = .expired r then s.late else r :: s.late }

/-- One action that returns. -/
def Step (s : Handover) (act : HandoverAct) (s' : Handover) : Prop :=
  ∃ rounds, s.exec rounds act = some s'

/-- No request is on `request_ready` and attached to a record at the same time, and the thread has
taken no request that the main thread had given up. -/
def Exclusive (s : Handover) : Prop :=
  (∀ r ∈ s.ready, ¬∃ place, s.worker.Holds r place) ∧ s.late = []

/-- What the actions do. -/
inductive Moves (s : Handover) : HandoverAct → Handover → Prop
  | outside {act : TunnelAct} {t : Tunnel} (possible : act.possible s.main = true)
      (step : s.toTunnel.Step act t) : s.Moves (.outside act) { s with toTunnel := t }
  | enter {r : ReqAddr} (idle : s.main = .idle) (member : r ∈ s.ready) :
      s.Moves (.enter r) { s with main := .entering r, mutexHeld := false }
  | fail {r : ReqAddr} (main : s.main = .entering r) : s.Moves .fail { s with main := .idle }
  | post {r : ReqAddr} (main : s.main = .entering r) :
      s.Moves .post { s with main := .waiting r, insertReq := some r }
  | expire {r : ReqAddr} (main : s.main = .waiting r) :
      s.Moves .expire { s with main := .expired r }
  | giveUp {r : ReqAddr} (main : s.main = .expired r) :
      s.Moves .giveUp { s with main := .idle, mutexHeld := true }
  | wake {r : ReqAddr} (main : s.main = .woken r) :
      s.Moves .wake { s with main := .idle, ready := s.ready.erase r, removed := r :: s.removed }
  | take {r : ReqAddr} {malloc : Bool} {rounds : Nat} {worker : Worker}
      (posted : s.insertReq = some r) (free : s.mutexHeld = false)
      (inserted : s.worker.insert rounds r malloc = some worker) :
      s.Moves (.take malloc) { s with
        worker
        insertReq := none
        main := s.main.signal
        late := if s.main = .waiting r ∨ s.main = .expired r then s.late else r :: s.late }

/-- An action that returns is one of those. -/
theorem Step.moves {s s' : Handover} {act : HandoverAct} (step : s.Step act s') :
    s.Moves act s' := by
  obtain ⟨rounds, done⟩ := step
  cases act with
  | outside act =>
    simp only [exec] at done
    split at done
    · rename_i possible
      obtain ⟨t, moved, same⟩ := Option.map_eq_some_iff.mp done
      exact same ▸ .outside possible ⟨rounds, moved⟩
    · cases done
  | enter r =>
    simp only [exec] at done
    split at done
    · rename_i free
      cases done
      exact .enter free.1 free.2
    · cases done
  | take malloc =>
    simp only [exec] at done
    split at done
    · cases done
    · rename_i r posted
      split at done
      · cases done
      · rename_i locked
        obtain ⟨worker, inserted, same⟩ := Option.map_eq_some_iff.mp done
        exact same ▸ .take posted (Bool.eq_false_iff.mpr locked) inserted
  | fail =>
    simp only [exec] at done
    split at done
    · rename_i r main
      cases done
      exact .fail main
    · cases done
  | post =>
    simp only [exec] at done
    split at done
    · rename_i r main
      cases done
      exact .post main
    · cases done
  | expire =>
    simp only [exec] at done
    split at done
    · rename_i r main
      cases done
      exact .expire main
    · cases done
  | giveUp =>
    simp only [exec] at done
    split at done
    · rename_i r main
      cases done
      exact .giveUp main
    · cases done
  | wake =>
    simp only [exec] at done
    split at done
    · rename_i r main
      cases done
      exact .wake main
    · cases done

/-! ## In time -/

/-- The two threads as if a call that was signalled had returned. -/
def settled (s : Handover) : Tunnel :=
  match s.main with
  | .woken r => ⟨s.worker, s.ready.erase r, r :: s.removed⟩
  | _ => s.toTunnel

/-- A call that was not signalled has not returned. -/
theorem settled_eq {s : Handover} (other : ∀ r, s.main ≠ .woken r) : s.settled = s.toTunnel := by
  unfold settled
  split
  · rename_i r woken
    exact absurd woken (other r)
  · rfl

/-- No wait of `rtsp_o_http_insert_req` comes to its time-out. -/
def NoExpiry (_ : Handover) : HandoverAct → Prop
  | .expire => False
  | _ => True

/-- What holds as long as no wait comes to its time-out: a request in `insert_req` is being waited
for, and the request of a call is on `request_ready`. -/
structure Punctual (s : Handover) : Prop where
  /-- A request that is handed over is waited for. -/
  posted : ∀ r, s.insertReq = some r → s.main = .waiting r
  /-- The request of a call is ready. -/
  listed : ∀ r, s.main.request = some r → r ∈ s.ready
  /-- No wait has come to its time-out. -/
  expired : ∀ r, s.main ≠ .expired r
  /-- No request was taken too late. -/
  late : s.late = []

/-- In time, nothing is posted while the main thread does not wait. -/
theorem Punctual.vacant {s : Handover} (punctual : s.Punctual) (elsewhere : ∀ r, s.main ≠ .waiting r)
    (r : ReqAddr) : s.insertReq ≠ some r := by
  intro posted
  exact elsewhere r (punctual.posted r posted)

/-- The actions of the thread alone depend on the thread alone. -/
theorem worker_step {t t' : Tunnel} {act : TunnelAct} {main : MainThread}
    (possible : act.possible main = true) (busy : main ≠ .idle) (step : t.Step act t') :
    ∃ worker, t' = { t with worker } ∧ ∀ ready removed,
      Tunnel.Step ⟨t.worker, ready, removed⟩ act ⟨worker, ready, removed⟩ := by
  obtain ⟨rounds, done⟩ := step
  cases act with
  | serve reads =>
    obtain ⟨worker, served, same⟩ := Option.map_eq_some_iff.mp done
    exact ⟨worker, same.symm, fun ready removed => ⟨rounds, by simp [Tunnel.exec, served]⟩⟩
  | update handler =>
    obtain ⟨worker, updated, same⟩ := Option.map_eq_some_iff.mp done
    exact ⟨worker, same.symm, fun ready removed => ⟨rounds, by simp [Tunnel.exec, updated]⟩⟩
  | insert r malloc => cases possible
  | accept r request => exact absurd (of_decide_eq_true possible) busy
  | release r => exact absurd (of_decide_eq_true possible) busy
  | collect => exact absurd (of_decide_eq_true possible) busy

/-- In time, every action is one of `Tunnel`, or it changes nothing there: the thread takes a
request, and the main thread gets to know of it. -/
theorem Punctual.step {s s' : Handover} {act : HandoverAct} (punctual : s.Punctual)
    (intime : NoExpiry s act) (moves : s.Moves act s') :
    s'.Punctual ∧ (s'.settled = s.settled ∨ ∃ tact, s.settled.Step tact s'.settled) := by
  cases moves with
  | @outside act t possible step =>
    by_cases idle : s.main = .idle
    · have settled : ∀ t : Tunnel, ({ s with toTunnel := t } : Handover).settled = t := by
        intro t
        simp only [Handover.settled, idle]
      refine ⟨⟨punctual.posted, ?_, punctual.expired, punctual.late⟩, .inr ⟨act, ?_⟩⟩
      · intro r request
        dsimp only at request
        rw [idle] at request
        cases request
      · have here := settled s.toTunnel
        rw [settled t]
        exact here ▸ step
    · obtain ⟨worker, rfl, anywhere⟩ := worker_step possible idle step
      refine ⟨⟨punctual.posted, punctual.listed, punctual.expired, punctual.late⟩, .inr ⟨act, ?_⟩⟩
      unfold Handover.settled
      dsimp only
      split
      · exact anywhere _ _
      · exact step
  | @enter r idle member =>
    have vacant := punctual.vacant (by simp [idle])
    refine ⟨⟨fun r posted => absurd posted (vacant r), ?_, by simp, punctual.late⟩, .inl ?_⟩
    · rintro x ⟨⟩
      exact member
    · rw [settled_eq (by simp), settled_eq (by simp [idle])]
  | @fail r main =>
    have vacant := punctual.vacant (by simp [main])
    refine ⟨⟨fun r posted => absurd posted (vacant r), by simp [MainThread.request], by simp,
      punctual.late⟩, .inl ?_⟩
    rw [settled_eq (by simp), settled_eq (by simp [main])]
  | @post r main =>
    refine ⟨⟨?_, ?_, by simp, punctual.late⟩, .inl ?_⟩
    · rintro x ⟨⟩
      rfl
    · rintro x ⟨⟩
      exact punctual.listed r (by rw [main]; rfl)
    · rw [settled_eq (by simp), settled_eq (by simp [main])]
  | expire main => exact absurd intime id
  | giveUp main => exact absurd main (punctual.expired _)
  | @wake r main =>
    have vacant := punctual.vacant (by simp [main])
    refine ⟨⟨fun r posted => absurd posted (vacant r), by simp [MainThread.request], by simp,
      punctual.late⟩, .inl ?_⟩
    rw [settled_eq (by simp)]
    simp only [settled, main]
  | @take r malloc rounds worker posted free inserted =>
    have waiting := punctual.posted r posted
    have member : r ∈ s.ready := punctual.listed r (by rw [waiting]; rfl)
    refine ⟨⟨by simp, ?_, by simp [waiting, MainThread.signal], ?_⟩, .inr ⟨.insert r malloc, ?_⟩⟩
    · dsimp only
      rw [waiting]
      rintro x ⟨⟩
      exact member
    · dsimp only
      rw [if_pos (.inl waiting)]
      exact punctual.late
    · refine ⟨rounds, ?_⟩
      rw [settled_eq (by simp [waiting])]
      simp only [Tunnel.exec, if_pos member, inserted, settled, waiting, MainThread.signal]
      rfl

/-- In time, the two threads do what `Tunnel` does with the insertions made at once. -/
theorem Punctual.run {requests : ReqAddr → TunnelRequest} {acts : List HandoverAct} {s : Handover}
    (run : Run Step NoExpiry (start requests) acts s) :
    s.Punctual ∧ ∃ tacts, Run Tunnel.Step (fun _ _ => True) (Tunnel.start requests) tacts s.settled := by
  refine Run.invariant (fun s => s.Punctual ∧ ∃ tacts,
    Run Tunnel.Step (fun _ _ => True) (Tunnel.start requests) tacts s.settled) ?_ run ?_
  · rintro s act s' ⟨punctual, tacts, earlier⟩ intime step
    obtain ⟨punctual', same | ⟨tact, moved⟩⟩ := punctual.step intime step.moves
    · exact ⟨punctual', tacts, same ▸ earlier⟩
    · exact ⟨punctual', tacts ++ [tact], earlier.snoc trivial moved⟩
  · refine ⟨⟨by simp [start], by simp [start, MainThread.request], by simp [start], rfl⟩, [], ?_⟩
    exact .stop _

/-- In time, a request that is on `request_ready` and attached to a record is the one the main
thread is about to take off the list. -/
theorem Punctual.ready {requests : ReqAddr → TunnelRequest} {acts : List HandoverAct} {s : Handover}
    (run : Run Step NoExpiry (start requests) acts s) {r : ReqAddr} (member : r ∈ s.ready)
    (held : ∃ place, s.worker.Holds r place) : s.main = .woken r := by
  obtain ⟨-, tacts, settled⟩ := Punctual.run run
  obtain ⟨used, free, lost, accounted⟩ := Run.invariant
    (fun t : Tunnel => ∃ used free lost, t.Accounted used free lost)
    (fun s act next ⟨used, free, lost, accounted⟩ _ step => by
      obtain ⟨used', free', lost', accounted', -⟩ := accounted.step step
      exact ⟨used', free', lost', accounted'⟩)
    settled ⟨[], [], [], .start requests⟩
  unfold Handover.settled at accounted
  split at accounted
  · rename_i x woken
    by_cases same : r = x
    · rw [woken, same]
    · exact absurd held (accounted.ready ((List.mem_erase_of_ne same).mpr member))
  · exact absurd held (accounted.ready member)

/-! ## In every state -/

/-- The thread attaches none of the requests it takes, and takes only what the main thread is
waiting for. -/
def TakesNothing (s : Handover) : HandoverAct → Prop
  | .take malloc => ∀ r, s.insertReq = some r →
      ¬s.worker.Accepts r malloc ∧ (s.main = .waiting r ∨ s.main = .expired r)
  | _ => True

/-- Nothing is attached to a record or on `return_list`. -/
structure Untouched (s : Handover) (used free : List RecordAddr) : Prop where
  /-- The records are valid. -/
  valid : RecordsValid s.worker used free
  /-- Nothing is attached or given back. -/
  nothing : s.worker.attachments used ++ s.worker.returnList = []
  /-- The request of a call is ready. -/
  listed : ∀ r, s.main.request = some r → r ∈ s.ready
  /-- No request was taken too late. -/
  late : s.late = []

/-- When nothing is attached, the threads do not share a request. -/
theorem Untouched.exclusive {s : Handover} {used free : List RecordAddr}
    (untouched : s.Untouched used free) : s.Exclusive := by
  refine ⟨fun r _ held => ?_, untouched.late⟩
  have attached := untouched.valid.mem_attachments.mpr held
  have nothing := (List.append_eq_nil_iff.mp untouched.nothing).1
  rw [nothing] at attached
  cases attached

/-- The actions outside of the hand-over attach nothing. -/
theorem outside_step {t t' : Tunnel} {act : TunnelAct} {main : MainThread}
    {used free : List RecordAddr} (valid : RecordsValid t.worker used free)
    (nothing : t.worker.attachments used ++ t.worker.returnList = [])
    (possible : act.possible main = true) (step : t.Step act t') :
    ∃ used' free', RecordsValid t'.worker used' free' ∧
      t'.worker.attachments used' ++ t'.worker.returnList = [] := by
  cases step.effect with
  | insert member inserted => cases possible
  | accept new => exact ⟨used, free, valid.frame _ _, nothing⟩
  | release member => exact ⟨used, free, valid, nothing⟩
  | serve served =>
    obtain ⟨valid', moved, -, -⟩ :=
      RecordsValid.serveFrom [] valid valid.lists.usedChain.chain served
    rw [List.nil_append, nothing] at moved
    exact ⟨used, free, valid', moved.eq_nil⟩
  | update updated =>
    obtain ⟨used', free', valid', moved, returnList, -, -⟩ :=
      RecordsValid.updateFrom [] valid valid.lists.usedChain.chain updated
    refine ⟨used', free', valid', ?_⟩
    obtain ⟨first, second⟩ := List.append_eq_nil_iff.mp nothing
    rw [List.nil_append, first] at moved
    dsimp only
    rw [moved.eq_nil, returnList, second]
    rfl
  | collect first =>
    have empty := (List.append_eq_nil_iff.mp nothing).2
    rw [empty] at first
    cases first

/-- As long as the thread takes nothing, it has nothing. -/
theorem Untouched.step {s s' : Handover} {act : HandoverAct} {used free : List RecordAddr}
    (untouched : s.Untouched used free) (met : TakesNothing s act) (moves : s.Moves act s') :
    ∃ used' free', s'.Untouched used' free' := by
  obtain ⟨valid, nothing, listed, late⟩ := untouched
  cases moves with
  | @outside act t possible step =>
    obtain ⟨used', free', valid', nothing'⟩ := outside_step valid nothing possible step
    refine ⟨used', free', valid', nothing', fun r request => ?_, late⟩
    by_cases idle : s.main = .idle
    · dsimp only at request
      rw [idle] at request
      cases request
    · obtain ⟨worker, rfl, -⟩ := worker_step possible idle step
      exact listed r request
  | @enter r idle member =>
    refine ⟨used, free, valid, nothing, ?_, late⟩
    rintro x ⟨⟩
    exact member
  | fail main => exact ⟨used, free, valid, nothing, by simp [MainThread.request], late⟩
  | @post r main =>
    refine ⟨used, free, valid, nothing, ?_, late⟩
    rintro x ⟨⟩
    exact listed r (by rw [main]; rfl)
  | @expire r main =>
    refine ⟨used, free, valid, nothing, ?_, late⟩
    rintro x ⟨⟩
    exact listed r (by rw [main]; rfl)
  | giveUp main => exact ⟨used, free, valid, nothing, by simp [MainThread.request], late⟩
  | wake main => exact ⟨used, free, valid, nothing, by simp [MainThread.request], late⟩
  | @take r malloc rounds worker posted unlocked inserted =>
    obtain ⟨refuses, awaited⟩ := met r posted
    obtain ⟨used', free', valid', returnList, -, -, -, refused⟩ := valid.insert inserted
    obtain ⟨first, second⟩ := List.append_eq_nil_iff.mp nothing
    refine ⟨used', free', valid', ?_, ?_, ?_⟩
    · have attached := refused refuses
      rw [first] at attached
      dsimp only
      rw [attached.eq_nil, returnList, second]
      rfl
    · intro x request
      apply listed x
      rcases awaited with main | main
      · rw [main] at request ⊢
        exact request
      · rw [main] at request ⊢
        exact request
    · dsimp only
      rw [if_pos awaited]
      exact late

/-- When the thread takes something, the threads share a request, or it was given up. -/
theorem Untouched.taken {s s' : Handover} {act : HandoverAct} {used free : List RecordAddr}
    (untouched : s.Untouched used free) (moves : s.Moves act s') (taken : ¬TakesNothing s act) :
    ¬s'.Exclusive := by
  cases moves with
  | outside possible step => exact absurd trivial taken
  | enter idle member => exact absurd trivial taken
  | fail main => exact absurd trivial taken
  | post main => exact absurd trivial taken
  | expire main => exact absurd trivial taken
  | giveUp main => exact absurd trivial taken
  | wake main => exact absurd trivial taken
  | @take r malloc rounds worker posted unlocked inserted =>
    rintro ⟨apart, intime⟩
    by_cases awaited : s.main = .waiting r ∨ s.main = .expired r
    · have accepts : s.worker.Accepts r malloc := by
        by_contra refuses
        refine taken fun x posted' => ?_
        rw [posted] at posted'
        cases posted'
        exact ⟨refuses, awaited⟩
      obtain ⟨used', free', valid', -, -, -, attached, -⟩ := untouched.valid.insert inserted
      have inside : r ∈ worker.attachments used' := by
        rw [(attached accepts).mem_iff]
        exact List.mem_cons_self
      refine apart r (untouched.listed r ?_) (valid'.mem_attachments.mp inside)
      rcases awaited with main | main
      · rw [main]
        rfl
      · rw [main]
        rfl
    · dsimp only at intime
      rw [if_neg awaited] at intime
      cases intime

end Handover

open Handover in
/-- The threads share no request, and the thread takes no request that was given up, exactly as
long as it attaches none of the requests it takes and takes only what is waited for. When no wait
comes to its time-out, a request is shared only between the moment the thread signals it and the
moment the main thread, which waits for that, takes it off `request_ready`. -/
theorem handover_exclusive (requests : ReqAddr → TunnelRequest) :
    (∀ acts s, Run Handover.Step TakesNothing (Handover.start requests) acts s →
      s.Exclusive ∧ ∀ act s', s.Step act s' → (s'.Exclusive ↔ TakesNothing s act)) ∧
    (∀ acts s, Run Handover.Step NoExpiry (Handover.start requests) acts s →
      (∀ r ∈ s.ready, (∃ place, s.worker.Holds r place) → s.main = .woken r) ∧ s.late = []) := by
  constructor
  · intro acts s run
    obtain ⟨used, free, untouched⟩ := Run.invariant
      (fun s : Handover => ∃ used free, s.Untouched used free)
      (fun s act next ⟨used, free, untouched⟩ met step => untouched.step met step.moves)
      run ⟨[], [], .start requests, rfl, by simp [Handover.start, MainThread.request], rfl⟩
    refine ⟨untouched.exclusive, fun act s' step => ?_⟩
    constructor
    · intro exclusive
      by_contra taken
      exact untouched.taken step.moves taken exclusive
    · intro met
      obtain ⟨used', free', untouched'⟩ := untouched.step met step.moves
      exact untouched'.exclusive
  · intro acts s run
    exact ⟨fun r member held => Punctual.ready run member held, (Punctual.run run).1.late⟩

open Handover in
/-- A request that the thread has no memory for, and one that it takes. -/
theorem handover_exclusive_once :
    (∃ s, Run Handover.Step TakesNothing (Handover.start idleTunnel.worker.requests)
        [.outside (.accept 0 (streamRequest .out 97)), .enter 0, .post, .take false] s ∧
      s.main = .woken 0 ∧ s.Exclusive) ∧
    ∃ s, Run Handover.Step NoExpiry (Handover.start idleTunnel.worker.requests)
        [.outside (.accept 0 (streamRequest .out 97)), .enter 0, .post, .take true, .wake] s ∧
      s.removed = [0] ∧ s.late = [] := by
  have refused : ∃ s, Run Handover.Step TakesNothing (Handover.start idleTunnel.worker.requests)
      [.outside (.accept 0 (streamRequest .out 97)), .enter 0, .post, .take false] s ∧
      s.main = .woken 0 := by
    refine ⟨_, .go trivial ⟨1, rfl⟩ (.go trivial ⟨1, rfl⟩ (.go trivial ⟨1, rfl⟩
      (.go ?_ ⟨1, rfl⟩ (.stop _)))), rfl⟩
    rintro r ⟨⟩
    refine ⟨fun accepts => ?_, .inl rfl⟩
    have missing : ∀ a, Reaches (Worker.start idleTunnel.worker.requests).next none a → False := by
      intro a reached
      cases reached
    rcases accepts.2 fun a reached => (missing a reached).elim with memory | memory
    · exact memory rfl
    · cases memory
  have taken : ∃ s, Run Handover.Step NoExpiry (Handover.start idleTunnel.worker.requests)
      [.outside (.accept 0 (streamRequest .out 97)), .enter 0, .post, .take true, .wake] s ∧
      s.removed = [0] :=
    ⟨_, .go trivial ⟨1, rfl⟩ (.go trivial ⟨1, rfl⟩ (.go trivial ⟨1, rfl⟩ (.go trivial ⟨1, rfl⟩
      (.go trivial ⟨1, rfl⟩ (.stop _))))), rfl⟩
  obtain ⟨first, second⟩ := handover_exclusive idleTunnel.worker.requests
  obtain ⟨s, run, woken⟩ := refused
  obtain ⟨s', run', handed⟩ := taken
  exact ⟨⟨s, run, woken, (first _ s run).1⟩, s', run', handed, (second _ s' run').2⟩

open Handover in
/-- The wait for a request comes to its time-out before the thread has looked. When the main thread
inserts the next request it unlocks the mutex, and the thread takes the first one, which is still
on `request_ready`. -/
theorem given_up_request_is_taken : ∃ s,
    Run Handover.Step (fun _ _ => True) (Handover.start idleTunnel.worker.requests)
      [.outside (.accept 0 (streamRequest .out 97)), .outside (.accept 1 (streamRequest .out 98)),
        .enter 0, .post, .expire, .giveUp, .enter 1, .take true] s ∧
      0 ∈ s.ready ∧ s.worker.Holds 0 (0, .out) ∧ s.late = [0] ∧ ¬s.Exclusive := by
  refine ⟨_, .go trivial ⟨1, rfl⟩ (.go trivial ⟨1, rfl⟩ (.go trivial ⟨1, rfl⟩ (.go trivial ⟨1, rfl⟩
    (.go trivial ⟨1, rfl⟩ (.go trivial ⟨1, rfl⟩ (.go trivial ⟨1, rfl⟩ (.go trivial ⟨1, rfl⟩
    (.stop _)))))))), by decide, ⟨.here 0, rfl⟩, rfl, ?_⟩
  rintro ⟨-, intime⟩
  cases intime

end BoaIpcam
