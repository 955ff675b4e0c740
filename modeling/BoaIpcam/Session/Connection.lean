import BoaIpcam.Session.State
import BoaIpcam.Lib.LinkedList

/-!
# The two lists of connections

`alloc_connection`, `free_connection` and `revoke_connection` of `auth.c`, and what they do to
the lists when these are well formed. `Lists` is the shape both lists have as long as only
entries of `connect_ready` are freed: `connect_ready` is doubly linked, `connect_free` is
singly linked, and no entry is on both.
-/
namespace BoaIpcam

open LinkedList

/-- The second half of `alloc_connection`, in the memory: the entry becomes the first of the
list that starts at `ready`. -/
def Heap.linkReady (heap : Heap) (tmp : Addr) (ready : Option Addr) : Heap :=
  (heap.modify tmp fun e =>
    { e with revoke := false, counter := 0, last := none, next := ready }).setLast ready (some tmp)

/-- The middle of `free_connection`: the neighbours of the entry point past it. -/
def Heap.bypass (heap : Heap) (connect : Addr) : Heap :=
  let heap := heap.setNext (heap connect).last (heap connect).next
  heap.setLast (heap connect).next (heap connect).last

namespace Server

/-- `alloc_connection`. The argument is what `malloc` would return: none when it fails, and
otherwise the fresh entry with the bytes it happens to hold. -/
def allocConnection (s : Server) (malloc : Option HttpConnection) : Option (Addr × Server) :=
  match s.connectFree with
  | none =>
    if s.connectionCounter ≥ maxConnection then none
    else malloc.map fun junk =>
      (s.brk, { s with
        brk := s.brk + 1
        connectionCounter := s.connectionCounter + 1
        heap := (s.heap.modify s.brk fun _ => junk).linkReady s.brk s.connectReady
        connectReady := some s.brk })
  | some tmp =>
    some (tmp, { s with
      connectFree := (s.heap tmp).next
      heap := s.heap.linkReady tmp s.connectReady
      connectReady := some tmp })

/-- `free_connection`. -/
def freeConnection (s : Server) (connect : Addr) : Server :=
  { s with
    connectGuest := if s.connectGuest = some connect then none else s.connectGuest
    connectReady := if s.connectReady = some connect then (s.heap connect).next
      else s.connectReady
    heap := (s.heap.bypass connect).setNext (some connect) s.connectFree
    connectFree := some connect
    connectionCounter := s.connectionCounter - 1 }

/-- `revoke_connection`: the first entry of `connect_ready` with that name is revoked. None
when the walk is not over after the given number of rounds. -/
def revokeConnection (rounds : Nat) (s : Server) (name : List UInt8) : Option Server :=
  (seek s.next (fun a => StrCaseEq name (s.userName (s.heap a).user)) rounds s.connectReady).map
    fun
    | some connect => { s with heap := s.heap.modify connect fun e => { e with revoke := true } }
    | none => s

end Server

/-! ## What the operations write -/

/-- An entry without its links. -/
def HttpConnection.data (e : HttpConnection) : HttpConnection := { e with last := none, next := none }

/-- The entries after the second half of `alloc_connection`. -/
theorem Heap.linkReady_apply (heap : Heap) (tmp : Addr) (ready : Option Addr) (a : Addr) :
    heap.linkReady tmp ready a = { heap a with
      revoke := if a = tmp then false else (heap a).revoke
      counter := if a = tmp then 0 else (heap a).counter
      last := if ready = some a then some tmp else if a = tmp then none else (heap a).last
      next := if a = tmp then ready else (heap a).next } := by
  rw [Heap.linkReady, Heap.setLast_apply, Heap.modify_apply]
  by_cases same : a = tmp
  · simp [same]
  · simp [same]

/-- The entries after the middle of `free_connection`. -/
theorem Heap.bypass_apply (heap : Heap) (connect a : Addr) :
    heap.bypass connect a = { heap a with
      next := if (heap connect).last = some a then (heap connect).next else (heap a).next
      last := if (heap connect).next = some a then (heap connect).last else (heap a).last } := by
  simp only [Heap.bypass, Heap.setLast_apply, Heap.setNext_apply, ite_self]

/-- The entries after `free_connection`; only links change. -/
theorem freeConnection_heap (s : Server) (connect a : Addr) :
    (s.freeConnection connect).heap a = { s.heap a with
      next := if some connect = some a then s.connectFree
        else if s.last connect = some a then s.next connect else s.next a
      last := if s.next connect = some a then s.last connect else s.last a } := by
  simp only [Server.freeConnection, Heap.setNext_apply, Heap.bypass_apply]
  rfl

/-- The successors after `free_connection`. -/
theorem freeConnection_next (s : Server) (connect a : Addr) :
    (s.freeConnection connect).next a = if some connect = some a then s.connectFree
      else if s.last connect = some a then s.next connect else s.next a := by
  rw [Server.next, freeConnection_heap]

/-- The predecessors after `free_connection`. -/
theorem freeConnection_last (s : Server) (connect a : Addr) :
    (s.freeConnection connect).last a =
      if s.next connect = some a then s.last connect else s.last a := by
  rw [Server.last, freeConnection_heap]

/-- The two ways `alloc_connection` finds an entry: it takes the first one of `connect_free`
and leaves the counter alone, or it allocates one and counts it. -/
theorem allocConnection_cases {s s' : Server} {malloc : Option HttpConnection} {c : Addr}
    (allocated : s.allocConnection malloc = some (c, s')) :
    (s.connectFree = some c ∧ s' = { s with
        connectFree := s.next c
        heap := s.heap.linkReady c s.connectReady
        connectReady := some c }) ∨
      (s.connectFree = none ∧ c = s.brk ∧ s.connectionCounter < maxConnection ∧
        ∃ junk, malloc = some junk ∧ s' = { s with
          brk := s.brk + 1
          connectionCounter := s.connectionCounter + 1
          heap := (s.heap.modify s.brk fun _ => junk).linkReady s.brk s.connectReady
          connectReady := some s.brk }) := by
  unfold Server.allocConnection at allocated
  cases free : s.connectFree with
  | none =>
    rw [free] at allocated
    dsimp only at allocated
    split at allocated
    · cases allocated
    · rename_i few
      cases malloc with
      | none => cases allocated
      | some junk =>
        cases allocated
        exact .inr ⟨rfl, rfl, by omega, junk, rfl, rfl⟩
  | some tmp =>
    rw [free] at allocated
    cases allocated
    exact .inl ⟨rfl, rfl⟩

/-- An entry that is allocated starts with counter zero and is not revoked; the data of the others
stay. -/
theorem allocConnection_data {s s' : Server} {malloc : Option HttpConnection} {c : Addr}
    (allocated : s.allocConnection malloc = some (c, s')) :
    (s'.heap c).counter = 0 ∧ (s'.heap c).revoke = false ∧
      ∀ a, a ≠ c → (s'.heap a).data = (s.heap a).data := by
  rcases allocConnection_cases allocated with ⟨-, rfl⟩ | ⟨-, rfl, -, junk, -, rfl⟩
  · refine ⟨?_, ?_, fun a other => ?_⟩
    · simp [Heap.linkReady_apply]
    · simp [Heap.linkReady_apply]
    · simp [Heap.linkReady_apply, other, HttpConnection.data]
  · refine ⟨?_, ?_, fun a other => ?_⟩
    · simp [Heap.linkReady_apply]
    · simp [Heap.linkReady_apply]
    · simp [Heap.linkReady_apply, Heap.modify_apply, other, HttpConnection.data]

/-! ## Well-formed lists -/

/-- `connect_ready` is the doubly linked list of the first addresses and `connect_free` the list
of the second ones; no entry is on both, all of them were allocated, and the guest entry is on
`connect_ready`. -/
structure Lists (s : Server) (ready free : List Addr) : Prop where
  /-- `connect_ready` is doubly linked. -/
  readyChain : DChain s.next s.last none s.connectReady ready
  /-- `connect_free` is linked. -/
  freeChain : Chain s.next s.connectFree free
  /-- No entry is on both. -/
  disjoint : ∀ a ∈ ready, a ∉ free
  /-- The entries of the first were allocated. -/
  ready_lt : ∀ a ∈ ready, a < s.brk
  /-- Those of the second were. -/
  free_lt : ∀ a ∈ free, a < s.brk
  /-- The guest entry is on the first. -/
  guest_mem : ∀ g, s.connectGuest = some g → g ∈ ready

namespace Lists

variable {s s' : Server} {ready free left right : List Addr} {c : Addr}

/-- Before the first request both lists are empty. -/
theorem boot (accounts : Nat → Account) (mode : Nat) : Lists (Server.boot accounts mode) [] [] where
  readyChain := rfl
  freeChain := rfl
  disjoint _ member := by cases member
  ready_lt _ member := by cases member
  free_lt _ member := by cases member
  guest_mem _ guest := by cases guest

/-- The lists depend only on the links and the pointers to them. -/
theorem congr (lists : Lists s ready free) (next : s'.next = s.next) (last : s'.last = s.last)
    (readyEq : s'.connectReady = s.connectReady) (freeEq : s'.connectFree = s.connectFree)
    (brk : s'.brk = s.brk) (guest : ∀ g, s'.connectGuest = some g → g ∈ ready) :
    Lists s' ready free where
  readyChain := by rw [next, last, readyEq]; exact lists.readyChain
  freeChain := by rw [next, freeEq]; exact lists.freeChain
  disjoint := lists.disjoint
  ready_lt := by rw [brk]; exact lists.ready_lt
  free_lt := by rw [brk]; exact lists.free_lt
  guest_mem := guest

/-- Writing fields other than the links keeps the lists. -/
theorem modify (lists : Lists s ready free) (a : Addr) {f : HttpConnection → HttpConnection}
    (next : ∀ e, (f e).next = e.next) (last : ∀ e, (f e).last = e.last) :
    Lists { s with heap := s.heap.modify a f } ready free := by
  refine lists.congr ?_ ?_ rfl rfl rfl lists.guest_mem
  · funext b
    simp only [Server.next, Heap.modify_apply]
    split
    · exact next _
    · rfl
  · funext b
    simp only [Server.last, Heap.modify_apply]
    split
    · exact last _
    · rfl

/-- Pushing an entry of neither list in front of `connect_ready`. -/
theorem linkReady (readyChain : DChain s.next s.last none s.connectReady ready)
    (freeChain : Chain s.next s.connectFree free) (disjoint : ∀ a ∈ ready, a ∉ free)
    (ready_lt : ∀ a ∈ ready, a < s.brk) (free_lt : ∀ a ∈ free, a < s.brk)
    (guest_mem : ∀ g, s.connectGuest = some g → g ∈ ready) (allocated : c < s.brk)
    (notReady : c ∉ ready) (notFree : c ∉ free) :
    Lists { s with heap := s.heap.linkReady c s.connectReady, connectReady := some c }
      (c :: ready) free := by
  have next : ∀ a, (s.heap.linkReady c s.connectReady a).next =
      if a = c then s.connectReady else s.next a := fun a => by rw [Heap.linkReady_apply]; rfl
  have last : ∀ a, (s.heap.linkReady c s.connectReady a).last =
      if s.connectReady = some a then some c else if a = c then none else s.last a :=
    fun a => by rw [Heap.linkReady_apply]; rfl
  have start := readyChain.chain.head_eq
  refine ⟨?_, ?_, ?_, ?_, free_lt, ?_⟩
  · refine readyChain.push ?_ ?_ ?_ ?_ ?_
    · simp only [Server.next, next, if_pos]
    · have other : s.connectReady ≠ some c := by
        rw [start]
        intro head
        exact notReady (List.mem_of_mem_head? head)
      simp only [Server.last, last, if_neg other, if_pos]
    · intro a member
      have other : a ≠ c := fun same => notReady (same ▸ member)
      simp only [Server.next, next, if_neg other]
    · intro a head
      simp only [Server.last, last, if_pos head]
    · intro a member head
      have other : a ≠ c := fun same => notReady (same ▸ member)
      simp only [Server.last, last, if_neg head, if_neg other]
  · refine freeChain.congr fun a member => ?_
    have other : a ≠ c := fun same => notFree (same ▸ member)
    simp only [Server.next, next, if_neg other]
  · intro a member
    rcases List.mem_cons.mp member with rfl | member
    · exact notFree
    · exact disjoint a member
  · intro a member
    rcases List.mem_cons.mp member with rfl | member
    · exact allocated
    · exact ready_lt a member
  · intro g guest
    exact List.mem_cons_of_mem c (guest_mem g guest)

/-- `alloc_connection` moves the first entry of `connect_free`, or a fresh one when there is
none, to the front of `connect_ready`. Only the fresh one is counted. -/
theorem alloc {malloc : Option HttpConnection} (lists : Lists s ready free)
    (allocated : s.allocConnection malloc = some (c, s')) :
    (∃ rest, free = c :: rest ∧ Lists s' (c :: ready) rest ∧
        s'.connectionCounter = s.connectionCounter) ∨
      (free = [] ∧ c = s.brk ∧ Lists s' (c :: ready) [] ∧
        s.connectionCounter < maxConnection ∧
        s'.connectionCounter = s.connectionCounter + 1) := by
  rcases allocConnection_cases allocated with ⟨head, rfl⟩ | ⟨head, rfl, few, junk, -, rfl⟩
  · have freeChain := lists.freeChain
    cases free with
    | nil => exact absurd (head.symm.trans freeChain) (by simp)
    | cons tmp rest =>
      obtain rfl : c = tmp := Option.some.inj (head.symm.trans freeChain.1)
      have fresh := (List.nodup_cons.mp freeChain.nodup).1
      have notReady : c ∉ ready := fun member =>
        lists.disjoint c member List.mem_cons_self
      have moved : Lists { s with
          connectFree := s.next c
          heap := s.heap.linkReady c s.connectReady
          connectReady := some c } (c :: ready) rest :=
        Lists.linkReady (s := { s with connectFree := s.next c }) lists.readyChain freeChain.2
        (fun a member inside => lists.disjoint a member (List.mem_cons_of_mem c inside))
        lists.ready_lt (fun a member => lists.free_lt a (List.mem_cons_of_mem c member))
        lists.guest_mem (lists.free_lt c List.mem_cons_self) notReady fresh
      exact .inl ⟨rest, rfl, moved, rfl⟩
  · have freeChain := lists.freeChain
    cases free with
    | cons tmp rest => exact absurd (head.symm.trans freeChain.1) (by simp)
    | nil =>
      have outside : ∀ a ∈ ready, a ≠ s.brk := fun a member =>
        Nat.ne_of_lt (lists.ready_lt a member)
      have kept : ∀ a ∈ ready, s.heap.modify s.brk (fun _ => junk) a = s.heap a := by
        intro a member
        rw [Heap.modify_apply, if_neg (outside a member)]
      have readyChain : DChain (fun a => (s.heap.modify s.brk (fun _ => junk) a).next)
          (fun a => (s.heap.modify s.brk (fun _ => junk) a).last) none s.connectReady ready :=
        lists.readyChain.congr (fun a member => by rw [kept a member]; rfl)
          (fun a member => by rw [kept a member]; rfl)
      have moved : Lists { s with
          brk := s.brk + 1
          connectionCounter := s.connectionCounter + 1
          heap := (s.heap.modify s.brk fun _ => junk).linkReady s.brk s.connectReady
          connectReady := some s.brk } (s.brk :: ready) [] :=
        Lists.linkReady (s := { s with
          brk := s.brk + 1
          connectionCounter := s.connectionCounter + 1
          heap := s.heap.modify s.brk fun _ => junk }) readyChain freeChain lists.disjoint
        (fun a member => Nat.lt_succ_of_lt (lists.ready_lt a member))
        (fun a member => by cases member) lists.guest_mem (Nat.lt_succ_self _)
        (fun member => outside _ member rfl) (by simp)
      exact .inr ⟨rfl, rfl, moved, few, rfl⟩

/-- `free_connection` moves an entry of `connect_ready` to the front of `connect_free`. -/
theorem release (lists : Lists s (left ++ c :: right) free) :
    Lists (s.freeConnection c) (left ++ right) (c :: free) := by
  have fresh := lists.readyChain.chain.nodup
  have apart := (List.nodup_append.mp fresh).2.2
  have member : c ∈ left ++ c :: right := by simp
  have notLeft : c ∉ left := fun inside => apart c inside c List.mem_cons_self rfl
  have notRight : c ∉ right := (List.nodup_cons.mp (List.nodup_append.mp fresh).2.1).1
  have notFree := lists.disjoint c member
  have before : ∀ b, s.last c = some b → b ∈ left := fun b back => lists.readyChain.mem_of_prev back
  have after : ∀ b, s.next c = some b → b ∈ right :=
    fun b forth => lists.readyChain.chain.mem_of_next forth
  have inside : ∀ a ∈ left ++ right, a ∈ left ++ c :: right ∧ a ≠ c := by
    intro a inside
    rcases List.mem_append.mp inside with inside | inside
    · exact ⟨List.mem_append_left _ inside, fun same => notLeft (same ▸ inside)⟩
    · exact ⟨List.mem_append_right _ (List.mem_cons_of_mem c inside),
        fun same => notRight (same ▸ inside)⟩
  -- The successors of the entries that stay on a list.
  have next : ∀ a, a ≠ c → s.last c ≠ some a → (s.freeConnection c).next a = s.next a := by
    intro a other unlinked
    rw [freeConnection_next, if_neg (fun same => other (Option.some.inj same).symm),
      if_neg unlinked]
  refine ⟨?_, ⟨rfl, ?_⟩, ?_, ?_, ?_, ?_⟩
  · refine lists.readyChain.unlink ?_ ?_ ?_ ?_ ?_
    · have start := lists.readyChain.chain.head_eq
      cases left with
      | nil => simp [Server.freeConnection, show s.connectReady = some c from start, Server.next]
      | cons b left =>
        have other : b ≠ c := fun same => notLeft (same ▸ List.mem_cons_self)
        simp [Server.freeConnection, show s.connectReady = some b from start, other]
    · intro a member
      rw [freeConnection_next, if_neg]
      exact fun same => notLeft (Option.some.inj same ▸ member)
    · intro a member
      refine next a (fun same => notRight (same ▸ member)) fun back => ?_
      exact apart a (before a back) a (List.mem_cons_of_mem c member) rfl
    · intro a member
      rw [freeConnection_last, if_neg]
      intro forth
      exact apart a member a (List.mem_cons_of_mem c (after a forth)) rfl
    · intro a member
      rw [freeConnection_last]
  · rw [freeConnection_next, if_pos rfl]
    refine lists.freeChain.congr fun a member => ?_
    refine next a (fun same => notFree (same ▸ member)) fun back => ?_
    exact lists.disjoint a (List.mem_append_left _ (before a back)) member
  · intro a member inFree
    rcases List.mem_cons.mp inFree with same | inFree
    · exact (inside a member).2 same
    · exact lists.disjoint a (inside a member).1 inFree
  · exact fun a member => lists.ready_lt a (inside a member).1
  · intro a inFree
    rcases List.mem_cons.mp inFree with rfl | inFree
    · exact lists.ready_lt _ member
    · exact lists.free_lt a inFree
  · intro g guest
    have old : s.connectGuest = some g ∧ g ≠ c := by
      simp only [Server.freeConnection] at guest
      split at guest
      · cases guest
      · rename_i other
        exact ⟨guest, fun same => other (same ▸ guest)⟩
    have kept := lists.guest_mem g old.1
    simp only [List.mem_append, List.mem_cons] at kept ⊢
    rcases kept with kept | kept | kept
    · exact .inl kept
    · exact absurd kept old.2
    · exact .inr kept

end Lists
end BoaIpcam
