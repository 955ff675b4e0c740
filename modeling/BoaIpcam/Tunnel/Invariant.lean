import BoaIpcam.Tunnel.Slots
import Mathlib.Data.List.Perm.Basic

/-!
# What the records hold in every state

The lists are well formed, the records of `used_list` are consistent, and no two of them have the
same session id. Editing a record, recycling one and inserting a request keep this; an insertion
attaches the request exactly when the thread accepts it.
-/
namespace BoaIpcam

open LinkedList

/-! ## All records -/

/-- The requests of the records of a list. -/
def Worker.attachments (w : Worker) (used : List RecordAddr) : List ReqAddr :=
  used.flatMap fun a => (w.records a).attached

/-- The lists are well formed, the records of `used_list` are consistent, and their session ids are
different. -/
structure RecordsValid (w : Worker) (used free : List RecordAddr) : Prop where
  /-- The lists are well formed. -/
  lists : RecordLists w used free
  /-- A used record is consistent. -/
  consistent : ∀ a ∈ used, (w.records a).Consistent
  /-- Two used records have different sessions. -/
  sessions : (used.map fun a => (w.records a).sessionid).Nodup

namespace RecordsValid

variable {w w' : Worker} {used free left right : List RecordAddr} {a : RecordAddr}

/-- When the thread starts there is no record. -/
theorem start (requests : ReqAddr → TunnelRequest) :
    RecordsValid (Worker.start requests) [] [] where
  lists := .start requests
  consistent _ member := by cases member
  sessions := List.nodup_nil

/-- The records reached from `used_list` are those on it. -/
theorem reaches_iff (valid : RecordsValid w used free) (b : RecordAddr) :
    Reaches w.next w.usedList b ↔ b ∈ used := valid.lists.usedChain.chain.reaches_iff b

/-- Nothing depends on the requests and on `return_list`. -/
theorem frame (valid : RecordsValid w used free) (requests : ReqAddr → TunnelRequest)
    (returnList : List ReqAddr) : RecordsValid { w with requests, returnList } used free :=
  ⟨valid.lists.congr rfl rfl rfl rfl rfl, valid.consistent, valid.sessions⟩

/-- Editing a record leaves its fields other than the edited ones alone. -/
theorem modify_field {β : Type} (g : RtspData → β) {f : RtspData → RtspData}
    (same : g (f (w.records a)) = g (w.records a)) (b : RecordAddr) :
    g ((w.modify a f).records b) = g (w.records b) := by
  rw [Worker.modify_records]
  split
  · rename_i equal
    rw [equal]
    exact same
  · rfl

/-- Editing a record leaves the links alone. -/
theorem modify_links {f : RtspData → RtspData}
    (edited : (w.records a).Edited (f (w.records a))) :
    (w.modify a f).next = w.next ∧ (w.modify a f).prev = w.prev :=
  ⟨funext (modify_field RtspData.next edited.next), funext (modify_field RtspData.prev edited.prev)⟩

/-- Editing a record keeps everything. -/
theorem edit (valid : RecordsValid w used free) {f : RtspData → RtspData}
    (edited : (w.records a).Edited (f (w.records a))) : RecordsValid (w.modify a f) used free := by
  obtain ⟨next, prev⟩ := modify_links edited
  refine ⟨valid.lists.congr next prev rfl rfl rfl, ?_, ?_⟩
  · intro b member
    rw [Worker.modify_records]
    split
    · rename_i equal
      rw [equal]
      exact edited.consistent (valid.consistent a (equal ▸ member))
    · exact valid.consistent b member
  · have same : (used.map fun b => ((w.modify a f).records b).sessionid) =
        used.map fun b => (w.records b).sessionid :=
      List.map_congr_left fun b _ => modify_field RtspData.sessionid edited.sessionid b
    rw [same]
    exact valid.sessions

/-- The requests after a record of `used_list` was written. -/
theorem attachments_modify (valid : RecordsValid w used free) (member : a ∈ used)
    (f : RtspData → RtspData) :
    ∃ rest, ((w.modify a f).attachments used).Perm ((f (w.records a)).attached ++ rest) ∧
      (w.attachments used).Perm ((w.records a).attached ++ rest) := by
  obtain ⟨left, right, rfl⟩ := List.append_of_mem member
  have fresh := valid.lists.usedChain.chain.nodup
  have apart := (List.nodup_append.mp fresh).2.2
  have notLeft : a ∉ left := fun inside => apart a inside a List.mem_cons_self rfl
  have notRight : a ∉ right := (List.nodup_cons.mp (List.nodup_append.mp fresh).2.1).1
  have kept : ∀ list : List RecordAddr, a ∉ list →
      (w.modify a f).attachments list = w.attachments list := by
    intro list outside
    refine List.flatMap_congr fun b inside => ?_
    have other : b ≠ a := fun same => outside (same ▸ inside)
    rw [Worker.modify_records, if_neg other]
  have cut : ∀ v : Worker, (v.attachments (left ++ a :: right)).Perm
      ((v.records a).attached ++ (v.attachments left ++ v.attachments right)) := by
    intro v
    simp only [Worker.attachments, List.flatMap_append, List.flatMap_cons]
    grind
  refine ⟨w.attachments left ++ w.attachments right, ?_, cut w⟩
  have whole := cut (w.modify a f)
  rwa [kept left notLeft, kept right notRight, Worker.modify_records, if_pos rfl] at whole

/-- Recycling a record without flags keeps everything, and loses no request. -/
theorem recycle (valid : RecordsValid w (left ++ a :: right) free)
    (alone : (w.records a).flags = .zero) :
    RecordsValid ((w.unlinkUsed a).pushFree a) (left ++ right) (a :: free) ∧
      ((w.unlinkUsed a).pushFree a).attachments (left ++ right) =
        w.attachments (left ++ a :: right) := by
  have fresh := valid.lists.usedChain.chain.nodup
  have apart := (List.nodup_append.mp fresh).2.2
  have notLeft : a ∉ left := fun inside => apart a inside a List.mem_cons_self rfl
  have notRight : a ∉ right := (List.nodup_cons.mp (List.nodup_append.mp fresh).2.1).1
  have stays : ∀ b ∈ left ++ right, b ∈ left ++ a :: right ∧ b ≠ a := by
    intro b inside
    rcases List.mem_append.mp inside with inside | inside
    · exact ⟨List.mem_append_left _ inside, fun same => notLeft (same ▸ inside)⟩
    · exact ⟨List.mem_append_right _ (List.mem_cons_of_mem a inside),
        fun same => notRight (same ▸ inside)⟩
  have kept : ∀ b ∈ left ++ right, ∃ next prev,
      ((w.unlinkUsed a).pushFree a).records b = { w.records b with next, prev } := by
    intro b inside
    rw [Worker.pushFree_records, if_neg (stays b inside).2, Worker.unlinkUsed_records]
    exact ⟨_, _, rfl⟩
  have nothing : (w.records a).attached = [] :=
    (valid.consistent a (by simp)).attached_nil (by rw [alone]; rfl)
  refine ⟨⟨valid.lists.recycle, ?_, ?_⟩, ?_⟩
  · intro b inside
    obtain ⟨next, prev, same⟩ := kept b inside
    have consistent := valid.consistent b (stays b inside).1
    rw [same]
    exact ⟨consistent.into, consistent.out, consistent.active⟩
  · have same : ((left ++ right).map fun b =>
        (((w.unlinkUsed a).pushFree a).records b).sessionid) =
        (left ++ right).map fun b => (w.records b).sessionid := by
      refine List.map_congr_left fun b inside => ?_
      obtain ⟨next, prev, same⟩ := kept b inside
      rw [same]
    rw [same]
    refine valid.sessions.sublist (List.Sublist.map _ ?_)
    exact List.Sublist.append (List.Sublist.refl left) (List.sublist_cons_self a right)
  · have same : ((w.unlinkUsed a).pushFree a).attachments (left ++ right) =
        w.attachments (left ++ right) := by
      refine List.flatMap_congr fun b inside => ?_
      obtain ⟨next, prev, same⟩ := kept b inside
      rw [same]
      rfl
    rw [same]
    simp [Worker.attachments, nothing]

/-- Opening a record for a session id that no record has keeps everything, and attaches nothing. -/
theorem openRecord (valid : RecordsValid w used free) {malloc : Bool} {sessionid : List UInt8}
    (short : sessionid.length ≤ 27) (missing : ∀ b ∈ used, (w.records b).sessionid ≠ sessionid)
    (taken : w.takeRecord malloc = some (a, w')) :
    ∃ rest, RecordsValid (w'.pushUsed a sessionid) (a :: used) rest ∧
      (free = a :: rest ∨ free = [] ∧ rest = []) ∧
      (w'.pushUsed a sessionid).attachments (a :: used) = w.attachments used ∧
      (w'.pushUsed a sessionid).records a =
        { RtspData.zeroed with next := w'.usedList, sessionid } := by
  obtain ⟨rest, lists, allocated, notUsed, notFree, origin, same⟩ := valid.lists.takeRecord taken
  have other : w'.usedList ≠ some a := fun first => notUsed (lists.usedList_mem first)
  have written := fun b => w'.pushUsed_records a b sessionid other
  have whole : sessionid.take 27 = sessionid := List.take_of_length_le short
  have opened : (w'.pushUsed a sessionid).records a =
      { RtspData.zeroed with next := w'.usedList, sessionid } := by
    rw [written, if_pos rfl, whole]
  have kept : ∀ b ∈ used, ∃ prev,
      (w'.pushUsed a sessionid).records b = { w.records b with prev } := by
    intro b member
    have different : b ≠ a := fun equal => notUsed (equal ▸ member)
    rw [written, if_neg different, same b member]
    exact ⟨_, rfl⟩
  refine ⟨rest, ⟨lists.pushUsed sessionid allocated notUsed notFree, ?_, ?_⟩, origin, ?_, opened⟩
  · intro b member
    rcases List.mem_cons.mp member with rfl | member
    · rw [opened]
      exact .cleared _ _
    · obtain ⟨prev, equal⟩ := kept b member
      have consistent := valid.consistent b member
      rw [equal]
      exact ⟨consistent.into, consistent.out, consistent.active⟩
  · have ids : (used.map fun b => ((w'.pushUsed a sessionid).records b).sessionid) =
        used.map fun b => (w.records b).sessionid := by
      refine List.map_congr_left fun b member => ?_
      obtain ⟨prev, equal⟩ := kept b member
      rw [equal]
    rw [List.map_cons, ids, opened, List.nodup_cons]
    refine ⟨fun member => ?_, valid.sessions⟩
    obtain ⟨b, inside, equal⟩ := List.mem_map.mp member
    exact missing b inside equal
  · rw [Worker.attachments, List.flatMap_cons, opened]
    refine List.flatMap_congr fun b member => ?_
    obtain ⟨prev, equal⟩ := kept b member
    rw [equal]
    rfl

end RecordsValid

/-! ## Inserting a request -/

section
variable {w w' : Worker} {used free : List RecordAddr} {a : RecordAddr} {rounds : Nat}
  {req : ReqAddr} {malloc : Bool}

/-- The three ways an insertion goes: a record has the session id; none has it and there is no
memory; or a new record is opened for it. -/
theorem Worker.insert_cases (inserted : w.insert rounds req malloc = some w') :
    (∃ a, Reaches w.next w.usedList a ∧ (w.records a).sessionid = (w.requests req).sessionid ∧
        w' = w.plug a req false) ∨
      (∀ a, Reaches w.next w.usedList a → (w.records a).sessionid ≠ (w.requests req).sessionid) ∧
        ((w.takeRecord malloc = none ∧ w' = w) ∨
          ∃ a v, w.takeRecord malloc = some (a, v) ∧
            w' = (v.pushUsed a (w.requests req).sessionid).plug a req true) := by
  obtain ⟨⟨result, v⟩, searched, outcome⟩ := Option.map_eq_some_iff.mp inserted
  unfold Worker.searchAdpativeRecord at searched
  split at searched
  · cases searched
  · rename_i a found
    cases searched
    obtain ⟨same, reached⟩ := seek_found found
    exact .inl ⟨a, reached, of_decide_eq_true same, outcome.symm⟩
  · rename_i found
    have missing : ∀ a, Reaches w.next w.usedList a →
        (w.records a).sessionid ≠ (w.requests req).sessionid :=
      fun a reached => of_decide_eq_false (seek_missing found reached)
    refine .inr ⟨missing, ?_⟩
    split at searched
    · rename_i full
      cases searched
      exact .inl ⟨full, outcome.symm⟩
    · rename_i a v taken
      cases searched
      exact .inr ⟨a, v, taken, outcome.symm⟩

/-- The thread takes a request in: the record with its session id does not wait for being closed
and has the slot free, and when there is no such record there is memory for one. -/
def Worker.Accepts (w : Worker) (req : ReqAddr) (malloc : Bool) : Prop :=
  (∀ a, Reaches w.next w.usedList a → (w.records a).sessionid = (w.requests req).sessionid →
    (w.records a).status ≠ .waitClose ∧ (w.records a).slot (w.requests req).direction = none) ∧
  ((∀ a, Reaches w.next w.usedList a → (w.records a).sessionid ≠ (w.requests req).sessionid) →
    w.freeList ≠ none ∨ malloc = true)

/-- `free_list` is doubly linked as well. -/
def FreeLinked (w : Worker) (free : List RecordAddr) : Prop :=
  DChain w.next w.prev none w.freeList free

/-- The requests of a record after one has taken its slot. -/
theorem RtspData.plug_attached (d : RtspData) (direction : Direction) (req : ReqAddr) (new : Bool) :
    (d.plug direction req new).settle.attached.Perm
      (if d.slot direction = none then req :: d.attached else d.attached) := by
  have opened : ∀ e : RtspData, e.addClientConnection.attached = e.attached := by
    intro e
    unfold RtspData.addClientConnection
    split <;> rfl
  have settled : (d.plug direction req new).settle.attached = (d.plug direction req new).attached :=
    rfl
  rw [settled]
  unfold RtspData.plug
  cases direction with
  | out =>
    by_cases vacant : d.outreq = none
    · rw [if_pos vacant, if_pos (show d.slot .out = none from vacant)]
      have taken : ({ d with outreq := some req, flags := { d.flags with outOk := true } } :
          RtspData).attached.Perm (req :: d.attached) := by
        simp only [RtspData.attached, vacant, Option.toList_some, Option.toList_none, List.append_nil]
        exact List.perm_append_singleton req d.inreq.toList
      cases new with
      | true =>
        dsimp only
        rw [if_pos rfl, opened]
        exact taken
      | false => exact taken
    · rw [if_neg vacant, if_neg (show ¬d.slot .out = none from vacant)]
  | into =>
    by_cases vacant : d.inreq = none
    · rw [if_pos vacant, if_pos (show d.slot .into = none from vacant)]
      have taken : ({ d with inreq := some req, flags := { d.flags with inOk := true } } :
          RtspData).attached.Perm (req :: d.attached) := by
        simp [RtspData.attached, vacant]
      cases new with
      | true =>
        dsimp only
        rw [if_pos rfl, opened]
        exact taken
      | false => exact taken
    · rw [if_neg vacant, if_neg (show ¬d.slot .into = none from vacant)]

/-- What inserting a request into a record of `used_list` keeps, and what it attaches. -/
theorem RecordsValid.plug (valid : RecordsValid w used free) (member : a ∈ used) (req : ReqAddr)
    (new : Bool) :
    RecordsValid (w.plug a req new) used free ∧
      ((w.plug a req new).attachments used).Perm
        (if (w.records a).status ≠ .waitClose ∧
            (w.records a).slot (w.requests req).direction = none
          then req :: w.attachments used else w.attachments used) := by
  unfold Worker.plug
  split
  · rename_i closing
    refine ⟨valid, ?_⟩
    rw [if_neg fun open_ => open_.1 closing]
  · rename_i closing
    have edited : (w.records a).Edited
        ((w.records a).plug (w.requests req).direction req new).settle :=
      (RtspData.Edited.plug _ _ _ _).trans (.settle _)
    refine ⟨valid.edit edited, ?_⟩
    obtain ⟨rest, after, before⟩ := valid.attachments_modify member
      fun d => (d.plug (w.requests req).direction req new).settle
    have slot := (w.records a).plug_attached (w.requests req).direction req new
    refine after.trans ((slot.append_right rest).trans ?_)
    by_cases vacant : (w.records a).slot (w.requests req).direction = none
    · rw [if_pos vacant, if_pos ⟨closing, vacant⟩]
      exact (before.cons req).symm
    · rw [if_neg vacant, if_neg fun open_ => vacant open_.2]
      exact before.symm

/-- Inserting a request into a record changes the links, the lists, `return_list` and the requests
of nobody. -/
theorem RecordsValid.plug_frame (w : Worker) (a : RecordAddr) (req : ReqAddr) (new : Bool) :
    (w.plug a req new).next = w.next ∧ (w.plug a req new).prev = w.prev ∧
      (w.plug a req new).freeList = w.freeList ∧ (w.plug a req new).returnList = w.returnList ∧
      (w.plug a req new).requests = w.requests := by
  unfold Worker.plug
  split
  · exact ⟨rfl, rfl, rfl, rfl, rfl⟩
  · have edited : (w.records a).Edited
        ((w.records a).plug (w.requests req).direction req new).settle :=
      (RtspData.Edited.plug _ _ _ _).trans (.settle _)
    obtain ⟨next, prev⟩ := RecordsValid.modify_links
      (f := fun d => (d.plug (w.requests req).direction req new).settle) edited
    exact ⟨next, prev, rfl, rfl, rfl⟩

/-- Opening a record takes one off a doubly linked `free_list`. -/
theorem FreeLinked.openRecord {v : Worker} {rest : List RecordAddr} {sessionid : List UInt8}
    (valid : RecordsValid w used free) (linked : FreeLinked w free)
    (taken : w.takeRecord malloc = some (a, v))
    (origin : free = a :: rest ∨ free = [] ∧ rest = []) (notFree : a ∉ rest) :
    FreeLinked (v.pushUsed a sessionid) rest := by
  have frame := v.pushUsed_frame a sessionid
  have freeList : (v.pushUsed a sessionid).freeList = v.freeList := by rw [frame]
  rcases Worker.takeRecord_cases taken with ⟨first, rfl⟩ | ⟨first, -, rfl, rfl⟩
  · rcases origin with rfl | ⟨rfl, -⟩
    · have usedList : (w.setPrev (w.next a) none).usedList = w.usedList := by
        rw [Worker.setPrev_frame]
      have head : ∀ b, w.usedList = some b → b ∈ used := fun b => valid.lists.usedList_mem
      have other : w.usedList ≠ some a := fun same =>
        valid.lists.disjoint a (head a same) List.mem_cons_self
      have written := fun b => Worker.pushUsed_records
        { w.setPrev (w.next a) none with freeList := w.next a } a b sessionid
        (by rw [← usedList] at other; exact other)
      -- Of the records on `free_list` only the new first one is written, in its back pointer.
      have kept : ∀ b ∈ rest, (Worker.pushUsed
          { w.setPrev (w.next a) none with freeList := w.next a } a sessionid).records b =
          { w.records b with prev := if w.next a = some b then none else w.prev b } := by
        intro b member
        have different : b ≠ a := fun equal => notFree (equal ▸ member)
        have outside : w.usedList ≠ some b := fun same =>
          valid.lists.disjoint b (head b same) (List.mem_cons_of_mem a member)
        rw [written, if_neg different]
        dsimp only
        rw [usedList, if_neg outside, Worker.setPrev_records]
        rfl
      rw [FreeLinked, freeList]
      cases rest with
      | nil => exact linked.2.2
      | cons b rest =>
        have fresh := linked.2.2.chain.nodup
        refine linked.2.2.front (fun c member => ?_) (fun c member => ?_) ?_
        · rw [Worker.next, kept c member]
          rfl
        · have later : w.next a ≠ some c := by
            rw [linked.2.2.1]
            rintro ⟨⟩
            exact (List.nodup_cons.mp fresh).1 member
          rw [Worker.prev, kept c (List.mem_cons_of_mem b member), if_neg later]
        · rw [Worker.prev, kept b List.mem_cons_self, if_pos linked.2.2.1]
    · exact absurd (first.symm.trans linked) (by simp)
  · rcases origin with rfl | ⟨rfl, rfl⟩
    · exact absurd (first.symm.trans linked.1) (by simp)
    · rw [FreeLinked, freeList]
      exact linked

/-- The record with a session id decides whether a request of that session is taken in. -/
theorem RecordsValid.accepts_iff (valid : RecordsValid w used free) (malloc : Bool) (member : a ∈ used)
    (named : (w.records a).sessionid = (w.requests req).sessionid) :
    w.Accepts req malloc ↔ (w.records a).status ≠ .waitClose ∧
      (w.records a).slot (w.requests req).direction = none := by
  constructor
  · intro accepts
    exact accepts.1 a ((valid.reaches_iff a).mpr member) named
  · intro vacant
    refine ⟨fun b reached same => ?_, fun missing => ?_⟩
    · have inside := (valid.reaches_iff b).mp reached
      obtain rfl : b = a := List.inj_on_of_nodup_map valid.sessions inside member
        (same.trans named.symm)
      exact vacant
    · exact absurd named (missing a ((valid.reaches_iff a).mpr member))

/-- What inserting a request keeps. A request that is taken in is attached, and one that is not is
attached to nothing. -/
theorem RecordsValid.insert (valid : RecordsValid w used free)
    (inserted : w.insert rounds req malloc = some w') :
    ∃ used' free', RecordsValid w' used' free' ∧ w'.returnList = w.returnList ∧
      w'.requests = w.requests ∧ (FreeLinked w free → FreeLinked w' free') ∧
      (w.Accepts req malloc → (w'.attachments used').Perm (req :: w.attachments used)) ∧
      (¬w.Accepts req malloc → (w'.attachments used').Perm (w.attachments used)) := by
  rcases Worker.insert_cases inserted with
    ⟨a, reached, named, rfl⟩ | ⟨missing, ⟨full, rfl⟩ | ⟨a, v, taken, rfl⟩⟩
  · have member := (valid.reaches_iff a).mp reached
    obtain ⟨plugged, attached⟩ := valid.plug member req false
    obtain ⟨next, prev, freeList, returnList, requests⟩ := RecordsValid.plug_frame w a req false
    have decides := valid.accepts_iff malloc member named
    refine ⟨used, free, plugged, returnList, requests, ?_, ?_, ?_⟩
    · intro linked
      rw [FreeLinked, next, prev, freeList]
      exact linked
    · intro accepts
      rwa [if_pos (decides.mp accepts)] at attached
    · intro refused
      rwa [if_neg fun vacant => refused (decides.mpr vacant)] at attached
  · refine ⟨used, free, valid, rfl, rfl, id, fun accepts => ?_, fun _ => List.Perm.refl _⟩
    -- Without memory nothing is taken in.
    have memory := accepts.2 missing
    unfold Worker.takeRecord at full
    split at full
    · cases full
    · rename_i none_
      rcases memory with some_ | rfl
      · exact absurd none_ some_
      · cases full
  · have absent : ∀ b ∈ used, (w.records b).sessionid ≠ (w.requests req).sessionid :=
      fun b member => missing b ((valid.reaches_iff b).mpr member)
    obtain ⟨rest, opened, origin, kept, empty⟩ :=
      valid.openRecord (w.requests req).sessionid_le absent taken
    have member : a ∈ a :: used := List.mem_cons_self
    obtain ⟨plugged, attached⟩ := opened.plug member req true
    obtain ⟨next, prev, freeList, returnList, requests⟩ :=
      RecordsValid.plug_frame (v.pushUsed a (w.requests req).sessionid) a req true
    obtain ⟨returnList', requests'⟩ := Worker.takeRecord_frame taken
    have frame := v.pushUsed_frame a (w.requests req).sessionid
    have accepts : w.Accepts req malloc := by
      refine ⟨fun b reached same => absurd same (missing b reached), fun _ => ?_⟩
      rcases Worker.takeRecord_cases taken with ⟨first, -⟩ | ⟨-, succeeded, -⟩
      · exact .inl (by simp [first])
      · exact .inr succeeded
    refine ⟨a :: used, rest, plugged, ?_, ?_, fun linked => ?_, fun _ => ?_,
      fun refused => absurd accepts refused⟩
    · rw [returnList, frame]
      exact returnList'
    · rw [requests, frame]
      exact requests'
    · rw [FreeLinked, next, prev, freeList]
      exact linked.openRecord valid taken origin (opened.lists.disjoint a member)
    · have vacant : ∀ direction,
          ((v.pushUsed a (w.requests req).sessionid).records a).status ≠ .waitClose ∧
            ((v.pushUsed a (w.requests req).sessionid).records a).slot direction = none := by
        intro direction
        rw [empty]
        constructor
        · simp [RtspData.zeroed]
        · cases direction <;> rfl
      rwa [if_pos (vacant _), kept] at attached

end

end BoaIpcam
