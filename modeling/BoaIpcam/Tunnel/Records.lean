import BoaIpcam.Tunnel.Worker

/-!
# The lists of records

What the steps of the thread do to the records. `Lists` is the shape the two lists have in every
state: `used_list` is doubly linked, `free_list` is singly linked, and no record is on both. A
step either writes one record of `used_list` without its links and its session id, or moves a
record from one list to the other.
-/
namespace BoaIpcam

open LinkedList

namespace Worker

/-! ## What the steps write -/

/-- The records after one is written. -/
theorem modify_records (w : Worker) (a b : RecordAddr) (f : RtspData → RtspData) :
    (w.modify a f).records b = if b = a then f (w.records b) else w.records b := by
  by_cases same : b = a
  · subst same
    simp [modify]
  · simp [modify, same]

/-- The records after a write through `next`. -/
theorem setNext_records (w : Worker) (p v : Option RecordAddr) (a : RecordAddr) :
    (w.setNext p v).records a =
      { w.records a with next := if p = some a then v else (w.records a).next } := by
  cases p with
  | none => simp [setNext]
  | some b =>
    by_cases same : a = b
    · subst same
      simp [setNext, modify]
    · simp [setNext, modify, same, Ne.symm same]

/-- The records after a write through `prev`. -/
theorem setPrev_records (w : Worker) (p v : Option RecordAddr) (a : RecordAddr) :
    (w.setPrev p v).records a =
      { w.records a with prev := if p = some a then v else (w.records a).prev } := by
  cases p with
  | none => simp [setPrev]
  | some b =>
    by_cases same : a = b
    · subst same
      simp [setPrev, modify]
    · simp [setPrev, modify, same, Ne.symm same]

/-- A write through `prev` changes nothing but records. -/
theorem setPrev_frame (w : Worker) (p v : Option RecordAddr) :
    w.setPrev p v = { w with records := (w.setPrev p v).records } := by
  cases p <;> rfl

/-- A write through `next` changes nothing but records. -/
theorem setNext_frame (w : Worker) (p v : Option RecordAddr) :
    w.setNext p v = { w with records := (w.setNext p v).records } := by
  cases p <;> rfl

/-- The worker after a record was put in front of `used_list`. -/
theorem pushUsed_frame (w : Worker) (a : RecordAddr) (sessionid : List UInt8) :
    w.pushUsed a sessionid =
      { w with records := (w.pushUsed a sessionid).records, usedList := some a } := by
  simp only [pushUsed, modify]
  rw [setPrev_frame]

/-- The records after one was put in front of `used_list`. -/
theorem pushUsed_records (w : Worker) (a b : RecordAddr) (sessionid : List UInt8)
    (other : w.usedList ≠ some a) :
    (w.pushUsed a sessionid).records b =
      if b = a then { RtspData.zeroed with next := w.usedList, sessionid := sessionid.take 27 }
      else { w.records b with prev := if w.usedList = some b then some a else (w.records b).prev } := by
  simp only [pushUsed, modify_records, setPrev_records]
  by_cases same : b = a
  · subst same
    rw [if_pos rfl, if_pos rfl, if_pos rfl]
    have first : (w.modify b fun _ => { RtspData.zeroed with next := w.usedList }).usedList ≠
        some b := other
    rw [if_neg first]
  · rw [if_neg same, if_neg same, if_neg same]
    rfl

/-- The worker after a record left `used_list`. -/
theorem unlinkUsed_frame (w : Worker) (a : RecordAddr) :
    w.unlinkUsed a = { w with
      records := (w.unlinkUsed a).records
      usedList := if w.prev a = none then w.next a else w.usedList } := by
  simp only [unlinkUsed]
  rw [setPrev_frame, setNext_frame]

/-- The records after one left `used_list`. -/
theorem unlinkUsed_records (w : Worker) (a b : RecordAddr) :
    (w.unlinkUsed a).records b = { w.records b with
      next := if w.prev a = some b then w.next a else w.next b
      prev := if w.next a = some b then w.prev a else w.prev b } := by
  simp only [unlinkUsed, setPrev_records, setNext_records, next, prev, ite_self]
  rfl

/-- The records after one was put in front of `free_list`. -/
theorem pushFree_records (w : Worker) (a b : RecordAddr) :
    (w.pushFree a).records b =
      if b = a then { RtspData.zeroed with next := w.freeList } else w.records b := by
  simp only [pushFree, modify_records]

/-- The two ways `search_adpative_record` gets a record: the first one of `free_list`, whose
successor then has no back pointer, or a new one. -/
theorem takeRecord_cases {w w' : Worker} {malloc : Bool} {a : RecordAddr}
    (taken : w.takeRecord malloc = some (a, w')) :
    (w.freeList = some a ∧ w' = { w.setPrev (w.next a) none with freeList := w.next a }) ∨
      (w.freeList = none ∧ malloc = true ∧ a = w.brk ∧ w' = { w with brk := w.brk + 1 }) := by
  unfold takeRecord at taken
  split at taken
  · rename_i first
    cases taken
    refine .inl ⟨first, ?_⟩
    simp only [next, setPrev_records]
  · rename_i first
    split at taken
    · rename_i succeeded
      cases taken
      exact .inr ⟨first, succeeded, rfl, rfl⟩
    · cases taken

/-- Taking a record off `free_list` changes neither `return_list` nor the requests. -/
theorem takeRecord_frame {w w' : Worker} {malloc : Bool} {a : RecordAddr}
    (taken : w.takeRecord malloc = some (a, w')) :
    w'.returnList = w.returnList ∧ w'.requests = w.requests := by
  rcases takeRecord_cases taken with ⟨-, rfl⟩ | ⟨-, -, -, rfl⟩
  · rw [setPrev_frame]
    exact ⟨rfl, rfl⟩
  · exact ⟨rfl, rfl⟩

end Worker

/-! ## Well-formed lists -/

/-- `used_list` is the doubly linked list of the first addresses and `free_list` the list of the
second ones; no record is on both, and all of them were allocated. -/
structure RecordLists (w : Worker) (used free : List RecordAddr) : Prop where
  /-- `used_list` is doubly linked. -/
  usedChain : DChain w.next w.prev none w.usedList used
  /-- `free_list` is linked. -/
  freeChain : Chain w.next w.freeList free
  /-- No record is on both. -/
  disjoint : ∀ a ∈ used, a ∉ free
  /-- The records of the first were allocated. -/
  used_lt : ∀ a ∈ used, a < w.brk
  /-- Those of the second were. -/
  free_lt : ∀ a ∈ free, a < w.brk

namespace RecordLists

variable {w w' : Worker} {used free left right : List RecordAddr} {a : RecordAddr}

/-- When the thread starts both lists are empty. -/
theorem start (requests : ReqAddr → TunnelRequest) : RecordLists (Worker.start requests) [] [] where
  usedChain := rfl
  freeChain := rfl
  disjoint _ member := by cases member
  used_lt _ member := by cases member
  free_lt _ member := by cases member

/-- The lists depend only on the links and the pointers to them. -/
theorem congr (lists : RecordLists w used free) (next : w'.next = w.next) (prev : w'.prev = w.prev)
    (usedEq : w'.usedList = w.usedList) (freeEq : w'.freeList = w.freeList)
    (brk : w'.brk = w.brk) : RecordLists w' used free where
  usedChain := by rw [next, prev, usedEq]; exact lists.usedChain
  freeChain := by rw [next, freeEq]; exact lists.freeChain
  disjoint := lists.disjoint
  used_lt := by rw [brk]; exact lists.used_lt
  free_lt := by rw [brk]; exact lists.free_lt

/-- The first record of `used_list` is on it. -/
theorem usedList_mem (lists : RecordLists w used free) {b : RecordAddr}
    (first : w.usedList = some b) : b ∈ used := by
  rw [lists.usedChain.chain.head_eq] at first
  exact List.mem_of_mem_head? first

/-- Pushing a record of neither list in front of `used_list`. -/
theorem pushUsed (lists : RecordLists w used free) (sessionid : List UInt8) (allocated : a < w.brk)
    (notUsed : a ∉ used) (notFree : a ∉ free) :
    RecordLists (w.pushUsed a sessionid) (a :: used) free := by
  have other : w.usedList ≠ some a := fun first => notUsed (lists.usedList_mem first)
  have written := fun b => w.pushUsed_records a b sessionid other
  have kept : ∀ b, b ≠ a → (w.pushUsed a sessionid).next b = w.next b := by
    intro b different
    rw [Worker.next, written, if_neg different]
    rfl
  have frame := w.pushUsed_frame a sessionid
  have brk : (w.pushUsed a sessionid).brk = w.brk := by rw [frame]
  have freeList : (w.pushUsed a sessionid).freeList = w.freeList := by rw [frame]
  have usedList : (w.pushUsed a sessionid).usedList = some a := by rw [frame]
  refine ⟨?_, ?_, ?_, ?_, ?_⟩
  · rw [usedList]
    refine lists.usedChain.push ?_ ?_ ?_ ?_ ?_
    · rw [Worker.next, written, if_pos rfl]
    · rw [Worker.prev, written, if_pos rfl]
      rfl
    · intro b member
      exact kept b fun same => notUsed (same ▸ member)
    · intro b first
      have different : b ≠ a := fun same => other (same ▸ first)
      rw [Worker.prev, written, if_neg different, if_pos first]
    · intro b member first
      have different : b ≠ a := fun same => notUsed (same ▸ member)
      rw [Worker.prev, written, if_neg different, if_neg first]
      rfl
  · rw [freeList]
    exact lists.freeChain.congr fun b member => kept b fun same => notFree (same ▸ member)
  · intro b member
    rcases List.mem_cons.mp member with rfl | member
    · exact notFree
    · exact lists.disjoint b member
  · intro b member
    rw [brk]
    rcases List.mem_cons.mp member with rfl | member
    · exact allocated
    · exact lists.used_lt b member
  · intro b member
    rw [brk]
    exact lists.free_lt b member

/-- `search_adpative_record` takes the first record of `free_list`, or a new one when there is
none, off the lists. -/
theorem takeRecord (lists : RecordLists w used free) {malloc : Bool}
    (taken : w.takeRecord malloc = some (a, w')) :
    ∃ rest, RecordLists w' used rest ∧ a < w'.brk ∧ a ∉ used ∧ a ∉ rest ∧
      (free = a :: rest ∨ free = [] ∧ rest = []) ∧ ∀ b ∈ used, w'.records b = w.records b := by
  rcases Worker.takeRecord_cases taken with ⟨first, rfl⟩ | ⟨first, -, rfl, rfl⟩
  · have freeChain := lists.freeChain
    cases free with
    | nil => exact absurd (first.symm.trans freeChain) (by simp)
    | cons b rest =>
      obtain rfl : a = b := Option.some.inj (first.symm.trans freeChain.1)
      have fresh := (List.nodup_cons.mp freeChain.nodup).1
      have notUsed : a ∉ used := fun member => lists.disjoint a member List.mem_cons_self
      -- The successor is on `free_list`, so no record of `used_list` is written.
      have after : ∀ b, w.next a = some b → b ∈ rest := by
        intro b successor
        rw [freeChain.2.head_eq] at successor
        exact List.mem_of_mem_head? successor
      have next : ∀ b, (w.setPrev (w.next a) none).next b = w.next b := by
        intro b
        rw [Worker.next, Worker.setPrev_records]
        rfl
      have kept : ∀ b ∈ used, (w.setPrev (w.next a) none).records b = w.records b := by
        intro b member
        have other : w.next a ≠ some b := fun successor =>
          lists.disjoint b member (List.mem_cons_of_mem a (after b successor))
        rw [Worker.setPrev_records, if_neg other]
      have brk : (w.setPrev (w.next a) none).brk = w.brk := by rw [Worker.setPrev_frame]
      have usedList : (w.setPrev (w.next a) none).usedList = w.usedList := by
        rw [Worker.setPrev_frame]
      refine ⟨rest, ⟨?_, ?_, ?_, ?_, ?_⟩, ?_, notUsed, fresh, .inl rfl, kept⟩
      · rw [usedList]
        refine lists.usedChain.congr (fun b _ => next b) fun b member => ?_
        exact congrArg RtspData.prev (kept b member)
      · exact freeChain.2.congr fun b _ => next b
      · exact fun b member inside => lists.disjoint b member (List.mem_cons_of_mem a inside)
      · intro b member
        rw [brk]
        exact lists.used_lt b member
      · intro b member
        rw [brk]
        exact lists.free_lt b (List.mem_cons_of_mem a member)
      · rw [brk]
        exact lists.free_lt a List.mem_cons_self
  · have freeChain := lists.freeChain
    cases free with
    | cons b rest => exact absurd (first.symm.trans freeChain.1) (by simp)
    | nil =>
      have older : ∀ b ∈ used, b < w.brk + 1 := fun b member =>
        Nat.lt_succ_of_lt (lists.used_lt b member)
      refine ⟨[], ⟨lists.usedChain, freeChain, lists.disjoint, older, ?_⟩, Nat.lt_succ_self _, ?_,
        List.not_mem_nil, .inr ⟨rfl, rfl⟩, fun _ _ => rfl⟩
      · exact fun b member => by cases member
      · exact fun member => Nat.lt_irrefl _ (lists.used_lt _ member)

/-- `update_record` moves a record of `used_list` to the front of `free_list`. -/
theorem recycle (lists : RecordLists w (left ++ a :: right) free) :
    RecordLists ((w.unlinkUsed a).pushFree a) (left ++ right) (a :: free) := by
  have fresh := lists.usedChain.chain.nodup
  have apart := (List.nodup_append.mp fresh).2.2
  have member : a ∈ left ++ a :: right := by simp
  have notLeft : a ∉ left := fun inside => apart a inside a List.mem_cons_self rfl
  have notRight : a ∉ right := (List.nodup_cons.mp (List.nodup_append.mp fresh).2.1).1
  have notFree := lists.disjoint a member
  have before : ∀ b, w.prev a = some b → b ∈ left := fun b back => lists.usedChain.mem_of_prev back
  have after : ∀ b, w.next a = some b → b ∈ right :=
    fun b forth => lists.usedChain.chain.mem_of_next forth
  have stays : ∀ b ∈ left ++ right, b ∈ left ++ a :: right ∧ b ≠ a := by
    intro b inside
    rcases List.mem_append.mp inside with inside | inside
    · exact ⟨List.mem_append_left _ inside, fun same => notLeft (same ▸ inside)⟩
    · exact ⟨List.mem_append_right _ (List.mem_cons_of_mem a inside),
        fun same => notRight (same ▸ inside)⟩
  have written := fun b => (w.unlinkUsed a).pushFree_records a b
  have next : ∀ b, b ≠ a → ((w.unlinkUsed a).pushFree a).next b =
      if w.prev a = some b then w.next a else w.next b := by
    intro b other
    rw [Worker.next, written, if_neg other, Worker.unlinkUsed_records]
  have prev : ∀ b, b ≠ a → ((w.unlinkUsed a).pushFree a).prev b =
      if w.next a = some b then w.prev a else w.prev b := by
    intro b other
    rw [Worker.prev, written, if_neg other, Worker.unlinkUsed_records]
  have frame := w.unlinkUsed_frame a
  have brk : ((w.unlinkUsed a).pushFree a).brk = w.brk := by
    change (w.unlinkUsed a).brk = w.brk
    rw [frame]
  have freeList : (w.unlinkUsed a).freeList = w.freeList := by rw [frame]
  have usedList : ((w.unlinkUsed a).pushFree a).usedList =
      if w.prev a = none then w.next a else w.usedList := by
    change (w.unlinkUsed a).usedList = _
    rw [frame]
  refine ⟨?_, ⟨rfl, ?_⟩, ?_, ?_, ?_⟩
  · refine lists.usedChain.unlink ?_ ?_ ?_ ?_ ?_
    · rw [usedList]
      cases left with
      | nil => rw [if_pos lists.usedChain.2.1, if_pos rfl]
      | cons b left =>
        obtain ⟨c, -, back⟩ := lists.usedChain.prev_mem
        rw [if_neg (by rw [back]; simp), if_neg (by simp)]
    · exact fun b inside => next b fun same => notLeft (same ▸ inside)
    · intro b inside
      rw [next b fun same => notRight (same ▸ inside), if_neg]
      exact fun back => apart b (before b back) b (List.mem_cons_of_mem a inside) rfl
    · intro b inside
      rw [prev b fun same => notLeft (same ▸ inside), if_neg]
      exact fun forth => apart b inside b (List.mem_cons_of_mem a (after b forth)) rfl
    · exact fun b inside => prev b fun same => notRight (same ▸ inside)
  · rw [Worker.next, written, if_pos rfl, freeList]
    refine lists.freeChain.congr fun b inside => ?_
    rw [next b fun same => notFree (same ▸ inside), if_neg]
    exact fun back => lists.disjoint b (List.mem_append_left _ (before b back)) inside
  · intro b inside inFree
    rcases List.mem_cons.mp inFree with same | inFree
    · exact (stays b inside).2 same
    · exact lists.disjoint b (stays b inside).1 inFree
  · intro b inside
    rw [brk]
    exact lists.used_lt b (stays b inside).1
  · intro b inFree
    rw [brk]
    rcases List.mem_cons.mp inFree with rfl | inFree
    · exact lists.used_lt _ member
    · exact lists.free_lt b inFree

end RecordLists
end BoaIpcam
