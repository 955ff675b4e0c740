import BoaIpcam.Tunnel.Invariant

/-!
# The loops over the records

The loop over the sockets and `update_record` walk along `used_list` and work on one record in each
round. The first one moves requests to `return_list`; the second one moves records to `free_list`,
and loses no request.
-/
namespace BoaIpcam

open LinkedList

section
variable {w w' : Worker} {used free rest : List RecordAddr} {a : RecordAddr} {rounds : Nat}
  {cursor : Option RecordAddr} {reads : ReqAddr → ReadResult} {handler : RecordAddr → HandlerRun}

/-- Requests that differ in how far they were read only. -/
def SameRequests (requests requests' : ReqAddr → TunnelRequest) : Prop :=
  ∀ r, (requests' r).direction = (requests r).direction ∧
    (requests' r).sessionid = (requests r).sessionid

/-- A request is the same as itself. -/
theorem SameRequests.refl (requests : ReqAddr → TunnelRequest) : SameRequests requests requests :=
  fun _ => ⟨rfl, rfl⟩

/-- Requests stay the same over two rounds. -/
theorem SameRequests.trans {first second third : ReqAddr → TunnelRequest}
    (left : SameRequests first second) (right : SameRequests second third) :
    SameRequests first third := by
  intro r
  exact ⟨(right r).1.trans (left r).1, (right r).2.trans (left r).2⟩

/-- Receiving data changes how far a request was read. -/
theorem Worker.receive_same (w : Worker) (req : ReqAddr) (count : Nat) :
    SameRequests w.requests (w.receive req count).requests := by
  intro r
  by_cases same : r = req
  · subst same
    simp [Worker.receive]
  · simp [Worker.receive, same]

/-- Writing a record as it is changes nothing. -/
theorem Worker.modify_self (w : Worker) (a : RecordAddr) {f : RtspData → RtspData}
    (same : f (w.records a) = w.records a) : w.modify a f = w := by
  simp [Worker.modify, same]

/-- The first half of a round. -/
theorem Worker.serveIn_eq (reads : ReqAddr → ReadResult) (w : Worker) (a : RecordAddr) :
    ∃ requests, SameRequests w.requests requests ∧
      w.serveIn reads a = ((w.records a).inreq.any (fun req => reads req = .closed),
        { w.modify a (RtspData.dropIn reads) with
          requests
          returnList := ((w.records a).inreq.filter fun req => reads req = .closed).toList ++
            w.returnList }) := by
  unfold Worker.serveIn
  cases into : (w.records a).inreq with
  | none =>
    have kept : w.modify a (RtspData.dropIn reads) = w :=
      w.modify_self a (by simp [RtspData.dropIn, into])
    exact ⟨w.requests, SameRequests.refl _, by rw [kept]; rfl⟩
  | some req =>
    by_cases closed : reads req = .closed
    · have dropped : w.modify a (RtspData.dropIn reads) = w.modify a RtspData.closeIn := by
        simp [Worker.modify, RtspData.dropIn, into, closed]
      refine ⟨w.requests, SameRequests.refl _, ?_⟩
      rw [dropped]
      simp [closed, Option.filter, Worker.modify]
    · have kept : w.modify a (RtspData.dropIn reads) = w :=
        w.modify_self a (by simp [RtspData.dropIn, into, closed])
      cases result : reads req with
      | idle =>
        refine ⟨w.requests, SameRequests.refl _, ?_⟩
        rw [kept]
        simp [result, Option.filter]
      | data count =>
        refine ⟨(w.receive req count).requests, w.receive_same req count, ?_⟩
        rw [kept]
        simp [result, Option.filter, Worker.receive]
      | closed => exact absurd result closed

/-- The second half of a round. -/
theorem Worker.serveOut_eq (reads : ReqAddr → ReadResult) (w : Worker) (a : RecordAddr) :
    w.serveOut reads a = ((w.records a).outreq.any (fun req => reads req = .closed),
      { w.modify a (RtspData.dropOut reads) with
        returnList := ((w.records a).outreq.filter fun req => reads req = .closed).toList ++
          w.returnList }) := by
  unfold Worker.serveOut
  cases out : (w.records a).outreq with
  | none =>
    have kept : w.modify a (RtspData.dropOut reads) = w :=
      w.modify_self a (by simp [RtspData.dropOut, out])
    rw [kept]
    rfl
  | some req =>
    by_cases closed : reads req = .closed
    · have dropped : w.modify a (RtspData.dropOut reads) = w.modify a RtspData.closeOut := by
        simp [Worker.modify, RtspData.dropOut, out, closed]
      rw [dropped]
      simp [closed, Option.filter, Worker.modify]
    · have kept : w.modify a (RtspData.dropOut reads) = w :=
        w.modify_self a (by simp [RtspData.dropOut, out, closed])
      rw [kept]
      simp [closed, Option.filter]

/-- A round of the loop over the sockets writes one record, `return_list`, and how far requests
were read. -/
theorem Worker.serve_eq (reads : ReqAddr → ReadResult) (w : Worker) (a : RecordAddr) :
    ∃ requests, SameRequests w.requests requests ∧
      w.serve reads a = { w.modify a (RtspData.served reads) with
        returnList := (w.records a).returned reads ++ w.returnList, requests } := by
  obtain ⟨requests, same, first⟩ := w.serveIn_eq reads a
  refine ⟨requests, same, ?_⟩
  unfold Worker.serve
  rw [first]
  dsimp only
  rw [Worker.serveOut_eq]
  simp only [Worker.modify, Function.update_self, Function.update_idem, RtspData.dropIn_outreq,
    RtspData.returned, RtspData.served, List.append_assoc]
  split
  · rfl
  · rfl

/-- A round of the loop over the sockets keeps everything, and moves requests to `return_list`
only. -/
theorem RecordsValid.serve (valid : RecordsValid w used free) (reads : ReqAddr → ReadResult)
    (member : a ∈ used) :
    RecordsValid (w.serve reads a) used free ∧
      ((w.serve reads a).attachments used ++ (w.serve reads a).returnList).Perm
        (w.attachments used ++ w.returnList) ∧
      (w.serve reads a).next = w.next ∧ (w.serve reads a).prev = w.prev ∧
      (w.serve reads a).freeList = w.freeList ∧ (w.serve reads a).usedList = w.usedList ∧
      SameRequests w.requests (w.serve reads a).requests := by
  obtain ⟨requests, same, served⟩ := w.serve_eq reads a
  have edited := RtspData.Edited.served reads (w.records a)
  obtain ⟨next, prev⟩ := RecordsValid.modify_links edited
  obtain ⟨rest, after, before⟩ := valid.attachments_modify member (RtspData.served reads)
  rw [served]
  refine ⟨(valid.edit edited).frame _ _, ?_, next, prev, rfl, rfl, same⟩
  have moved := (w.records a).served_attached reads
  have shuffle : ∀ s r l : List ReqAddr, (s ++ rest ++ (r ++ l)).Perm (s ++ r ++ (rest ++ l)) := by
    intro s r l
    grind
  refine (after.append_right _).trans ((shuffle _ _ _).trans ?_)
  refine (moved.append_right _).trans ?_
  rw [← List.append_assoc]
  exact (before.append_right _).symm

/-- The loop over the sockets keeps everything, and moves requests to `return_list` only. -/
theorem RecordsValid.serveFrom (before : List RecordAddr)
    (valid : RecordsValid w (before ++ rest) free)
    (chain : Chain w.next cursor rest)
    (served : Worker.serveFrom reads rounds cursor w = some w') :
    RecordsValid w' (before ++ rest) free ∧
      (w'.attachments (before ++ rest) ++ w'.returnList).Perm
        (w.attachments (before ++ rest) ++ w.returnList) ∧
      (FreeLinked w free → FreeLinked w' free) ∧ SameRequests w.requests w'.requests := by
  induction rounds generalizing w cursor before rest with
  | zero =>
    cases cursor with
    | some a => cases served
    | none =>
      cases served
      exact ⟨valid, List.Perm.refl _, id, SameRequests.refl _⟩
  | succ rounds ih =>
    cases rest with
    | nil =>
      rw [show cursor = none from chain] at served
      cases served
      exact ⟨valid, List.Perm.refl _, id, SameRequests.refl _⟩
    | cons a rest =>
      rw [chain.1] at served
      obtain ⟨valid₁, moved₁, next, prev, freeList, -, same₁⟩ :=
        valid.serve reads (show a ∈ before ++ a :: rest by simp)
      have split : before ++ a :: rest = (before ++ [a]) ++ rest := by simp
      rw [split] at valid₁ moved₁ ⊢
      have chain₁ : Chain (w.serve reads a).next ((w.serve reads a).next a) rest := by
        rw [next]
        exact chain.2
      obtain ⟨valid₂, moved₂, linked₂, same₂⟩ := ih (before ++ [a]) valid₁ chain₁ served
      refine ⟨valid₂, moved₂.trans moved₁, fun linked => linked₂ ?_, same₁.trans same₂⟩
      rw [FreeLinked, next, prev, freeList]
      exact linked

/-- A record that `update_record` moves to `free_list`. -/
def Worker.Recyclable (w : Worker) (a : RecordAddr) : Prop :=
  (w.records a).status = .waitClose ∧ (w.records a).flags.connectOk = false

/-- Only a record that waits for being closed is moved. -/
theorem Worker.not_recyclable (status : (w.records a).status ≠ .waitClose) : ¬w.Recyclable a :=
  fun recyclable => status recyclable.1

/-- `incoming_hander` writes one record and how far its request was read. -/
theorem Worker.incomingHander_eq (w : Worker) (a : RecordAddr) (run : HandlerRun) :
    ∃ requests, SameRequests w.requests requests ∧
      w.incomingHander a run = { w.modify a (fun d => d.handle run) with requests } := by
  unfold Worker.incomingHander
  cases (w.records a).inreq with
  | none => exact ⟨w.requests, SameRequests.refl _, rfl⟩
  | some req =>
    dsimp only
    split
    · refine ⟨_, fun r => ?_, rfl⟩
      by_cases same : r = req
      · subst same
        simp
      · simp [same]
    · exact ⟨w.requests, SameRequests.refl _, rfl⟩

/-- What a round of `update_record` does to a consistent record: it edits the record, and moves it
to `free_list` exactly when it waits for being closed without a socket. -/
inductive Worker.Updates (w : Worker) (a : RecordAddr) : Worker → Prop
  | edit {d : RtspData} {requests : ReqAddr → TunnelRequest} (edited : (w.records a).Edited d)
      (attached : d.attached = (w.records a).attached) (same : SameRequests w.requests requests)
      (kept : ¬w.Recyclable a) : w.Updates a { w.modify a (fun _ => d) with requests }
  | recycle {d : RtspData} {requests : ReqAddr → TunnelRequest} (edited : (w.records a).Edited d)
      (attached : d.attached = (w.records a).attached) (same : SameRequests w.requests requests)
      (recyclable : w.Recyclable a) (zero : d.flags = .zero) :
      w.Updates a ((Worker.unlinkUsed { w.modify a (fun _ => d) with requests } a).pushFree a)

/-- A round of `update_record` that returns. -/
theorem Worker.update_cases (consistent : (w.records a).Consistent)
    (updated : w.update handler a = some w') : w.Updates a w' := by
  have self : ({ w.modify a (fun _ => w.records a) with requests := w.requests } : Worker) = w :=
    w.modify_self a (f := fun _ => w.records a) rfl
  have handled : ∀ run, ∃ requests, SameRequests w.requests requests ∧
      w.incomingHander a run =
        { w.modify a (fun _ => (w.records a).handle run) with requests } :=
    fun run => w.incomingHander_eq a run
  have edited := RtspData.Edited.handle (w.records a) (handler a)
  have attached := (w.records a).handle_attached (handler a)
  have unchanged : ¬w.Recyclable a → w' = w → w.Updates a w' := by
    intro other same
    have edited := Worker.Updates.edit (.refl (w.records a)) rfl
      (.refl w.requests) other
    rw [self] at edited
    exact same ▸ edited
  unfold Worker.update at updated
  cases status : (w.records a).status with
  | active =>
    have other : ¬w.Recyclable a := w.not_recyclable (by simp [status])
    rw [status] at updated
    obtain ⟨req, -, outcome⟩ := Option.map_eq_some_iff.mp updated
    split at outcome
    · obtain ⟨requests, same, written⟩ := handled (handler a)
      rw [written] at outcome
      exact outcome ▸ .edit edited attached same other
    · exact unchanged other outcome.symm
  | waitClose =>
    rw [status] at updated
    dsimp only at updated
    cases sockets : (w.records a).flags.connectOk with
    | true =>
      have other : ¬w.Recyclable a := fun recyclable => by
        rw [Worker.Recyclable, sockets] at recyclable
        cases recyclable.2
      have some_ : (w.records a).flags ≠ .zero := by
        intro zero
        rw [zero] at sockets
        cases sockets
      simp only [sockets, Bool.not_true, Bool.false_and, Bool.false_eq_true, if_false] at updated
      rw [if_neg some_] at updated
      exact unchanged other (Option.some.inj updated).symm
    | false =>
      have recyclable : w.Recyclable a := ⟨status, sockets⟩
      cases live : (w.records a).flags.liveOk with
      | true =>
        obtain ⟨requests, same, written⟩ := handled (handler a)
        have zero := RtspData.handle_alone consistent sockets (handler a)
        rw [sockets, live, Bool.not_false, Bool.true_and, if_pos rfl, written] at updated
        simp only [Worker.modify_records, if_pos, zero] at updated
        exact Option.some.inj updated ▸ .recycle edited attached same recyclable zero
      | false =>
        have zero : (w.records a).flags = .zero := by
          simp only [RecordFlags.connectOk, RecordFlags.liveOk, Bool.or_eq_false_iff] at sockets live
          cases flags : (w.records a).flags with
          | mk inOk outOk setupOk play =>
            rw [flags] at sockets live
            simp_all [RecordFlags.zero]
        simp only [sockets, live, Bool.and_false, Bool.false_eq_true, if_false] at updated
        rw [if_pos zero] at updated
        have recycled := Worker.Updates.recycle (.refl (w.records a)) rfl
          (.refl w.requests) recyclable zero
        rw [self] at recycled
        exact Option.some.inj updated ▸ recycled
  | closed =>
    have other : ¬w.Recyclable a := w.not_recyclable (by simp [status])
    rw [status] at updated
    exact unchanged other (Option.some.inj updated).symm
  | waitSocket =>
    have other : ¬w.Recyclable a := w.not_recyclable (by simp [status])
    rw [status] at updated
    exact unchanged other (Option.some.inj updated).symm

/-- Editing a record that is not looked at leaves the others recyclable or not. -/
theorem Worker.Recyclable.congr {b : RecordAddr} {next prev : Option RecordAddr}
    (same : w'.records b = { w.records b with next, prev }) : w'.Recyclable b ↔ w.Recyclable b := by
  rw [Worker.Recyclable, Worker.Recyclable, same]

/-- A pass of `update_record` recycles at most one record, and only while `free_list` is empty. -/
def OneRecyclable (w : Worker) (rest free : List RecordAddr) : Prop :=
  ∀ a ∈ rest, w.Recyclable a → free = [] ∧ ∀ b ∈ rest, w.Recyclable b → b = a

/-- The records that are left are looked at as before. -/
theorem OneRecyclable.later (one : OneRecyclable w (a :: rest) free)
    (same : ∀ b ∈ rest, (w'.Recyclable b ↔ w.Recyclable b)) : OneRecyclable w' rest free := by
  intro b inside recyclable
  obtain ⟨empty, only⟩ := one b (List.mem_cons_of_mem a inside) ((same b inside).mp recyclable)
  refine ⟨empty, fun c inside' recyclable' => ?_⟩
  exact only c (List.mem_cons_of_mem a inside') ((same c inside').mp recyclable')

section
variable {d : RtspData} {requests : ReqAddr → TunnelRequest}

/-- Editing a record keeps everything, and moves no request. -/
theorem RecordsValid.edit_attached (valid : RecordsValid w used free) (member : a ∈ used)
    (edited : (w.records a).Edited d) (attached : d.attached = (w.records a).attached) :
    RecordsValid { w.modify a (fun _ => d) with requests } used free ∧
      (Worker.attachments { w.modify a (fun _ => d) with requests } used).Perm
        (w.attachments used) := by
  obtain ⟨tail, after, first⟩ := valid.attachments_modify member fun _ => d
  exact ⟨(valid.edit edited).frame requests w.returnList, after.trans ((attached ▸ first).symm)⟩

/-- Editing a record keeps `free_list` as it is. -/
theorem FreeLinked.edit (linked : FreeLinked w free) (edited : (w.records a).Edited d) :
    FreeLinked { w.modify a (fun _ => d) with requests } free := by
  obtain ⟨next, prev⟩ := RecordsValid.modify_links (f := fun _ => d) edited
  change DChain (w.modify a fun _ => d).next (w.modify a fun _ => d).prev none w.freeList free
  rw [next, prev]
  exact linked

/-- Editing a record leaves the others recyclable or not. -/
theorem Worker.recyclable_edit {b : RecordAddr} (other : b ≠ a) :
    Worker.Recyclable { w.modify a (fun _ => d) with requests } b ↔ w.Recyclable b := by
  apply Worker.Recyclable.congr
  change (w.modify a fun _ => d).records b = _
  rw [Worker.modify_records, if_neg other]

/-- Moving a record to `free_list` leaves the others recyclable or not. -/
theorem Worker.recyclable_recycle {b : RecordAddr} (other : b ≠ a) :
    ((Worker.unlinkUsed { w.modify a (fun _ => d) with requests } a).pushFree a).Recyclable b ↔
      w.Recyclable b := by
  have same : ∃ next prev, (Worker.pushFree (Worker.unlinkUsed
      { w.modify a (fun _ => d) with requests } a) a).records b =
      { w.records b with next, prev } := by
    rw [Worker.pushFree_records, if_neg other, Worker.unlinkUsed_records]
    change ∃ next prev, ({ (w.modify a fun _ => d).records b with next := _, prev := _ } :
      RtspData) = _
    rw [Worker.modify_records, if_neg other]
    exact ⟨_, _, rfl⟩
  obtain ⟨next, prev, equal⟩ := same
  exact Worker.Recyclable.congr equal

/-- A record that is moved to an empty `free_list` is alone there. -/
theorem freeLinked_recycle (empty : w.freeList = none) :
    FreeLinked ((Worker.unlinkUsed { w.modify a (fun _ => d) with requests } a).pushFree a) [a] := by
  have frame := Worker.unlinkUsed_frame { w.modify a (fun _ => d) with requests } a
  refine ⟨rfl, ?_, ?_⟩
  · rw [Worker.prev, Worker.pushFree_records, if_pos rfl]
    rfl
  · rw [Worker.next, Worker.pushFree_records, if_pos rfl, frame]
    exact empty

/-- Moving a record to `free_list` changes neither the requests nor `return_list`. -/
theorem Worker.recycle_frame :
    ((Worker.unlinkUsed { w.modify a (fun _ => d) with requests } a).pushFree a).requests =
        requests ∧
      ((Worker.unlinkUsed { w.modify a (fun _ => d) with requests } a).pushFree a).returnList =
        w.returnList := by
  have frame := Worker.unlinkUsed_frame { w.modify a (fun _ => d) with requests } a
  constructor
  · change (Worker.unlinkUsed _ a).requests = _
    rw [frame]
  · change (Worker.unlinkUsed _ a).returnList = _
    rw [frame]
    rfl

end

/-- The loop of `update_record` keeps everything and loses no request. It keeps `free_list` doubly
linked when it recycles at most one record, while that list is empty. -/
theorem RecordsValid.updateFrom (before : List RecordAddr)
    (valid : RecordsValid w (before ++ rest) free)
    (chain : Chain w.next cursor rest)
    (updated : Worker.updateFrom handler rounds cursor w = some w') :
    ∃ used' free', RecordsValid w' used' free' ∧
      (w'.attachments used').Perm (w.attachments (before ++ rest)) ∧
      w'.returnList = w.returnList ∧ SameRequests w.requests w'.requests ∧
      (FreeLinked w free → OneRecyclable w rest free → FreeLinked w' free') := by
  induction rounds generalizing w cursor before rest free with
  | zero =>
    cases cursor with
    | some a => cases updated
    | none =>
      cases updated
      exact ⟨_, free, valid, List.Perm.refl _, rfl, SameRequests.refl _, fun linked _ => linked⟩
  | succ rounds ih =>
    cases rest with
    | nil =>
      rw [show cursor = none from chain] at updated
      cases updated
      exact ⟨_, free, valid, List.Perm.refl _, rfl, SameRequests.refl _, fun linked _ => linked⟩
    | cons a rest =>
      rw [chain.1, Worker.updateFrom] at updated
      obtain ⟨w₁, round, others⟩ := Option.bind_eq_some_iff.mp updated
      have member : a ∈ before ++ a :: rest := by simp
      have fresh := (List.nodup_append.mp valid.lists.usedChain.chain.nodup).2.1
      have notRest : a ∉ rest := (List.nodup_cons.mp fresh).1
      have different : ∀ b ∈ rest, b ≠ a := fun b inside same => notRest (same ▸ inside)
      cases Worker.update_cases (valid.consistent a member) round with
      | @edit d requests edited attached same kept =>
        obtain ⟨valid₁, moved⟩ := @valid.edit_attached _ _ _ _ d requests member edited attached
        have split : before ++ a :: rest = (before ++ [a]) ++ rest := by simp
        rw [split] at valid₁ moved ⊢
        have chain₁ : Chain (w.modify a fun _ => d).next (w.next a) rest := by
          rw [(RecordsValid.modify_links (f := fun _ => d) edited).1]
          exact chain.2
        obtain ⟨used', free', valid', moved', returnList, same', linked'⟩ :=
          ih (before ++ [a]) valid₁ chain₁ others
        refine ⟨used', free', valid', moved'.trans moved, returnList, same.trans same',
          fun linked one => linked' (linked.edit edited) (one.later fun b inside => ?_)⟩
        exact Worker.recyclable_edit (different b inside)
      | @recycle d requests edited attached same recyclable zero =>
        obtain ⟨valid₁, moved⟩ := @valid.edit_attached _ _ _ _ d requests member edited attached
        have zero₁ : ((w.modify a fun _ => d).records a).flags = .zero := by
          rw [Worker.modify_records, if_pos rfl]
          exact zero
        obtain ⟨valid₂, kept₂⟩ := valid₁.recycle zero₁
        have chain₂ := valid₂.lists.usedChain.chain.drop
        rw [← chain.2.head_eq] at chain₂
        obtain ⟨used', free', valid', moved', returnList, same', linked'⟩ :=
          ih before valid₂ chain₂ others
        rw [Worker.recycle_frame.1] at same'
        rw [Worker.recycle_frame.2] at returnList
        refine ⟨used', free', valid', moved'.trans (kept₂ ▸ moved), returnList, same.trans same',
          fun linked one => ?_⟩
        -- The record was the only one to be recycled, and it is now alone on `free_list`.
        obtain ⟨rfl, only⟩ := one a List.mem_cons_self recyclable
        refine linked' (freeLinked_recycle linked) fun b inside recyclable' => ?_
        have before_ := (Worker.recyclable_recycle (different b inside)).mp recyclable'
        exact absurd (only b (List.mem_cons_of_mem a inside) before_) (different b inside)

end
end BoaIpcam
