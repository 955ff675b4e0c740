import BoaIpcam.Request.Pool
import BoaIpcam.Tunnel.Requests
import Mathlib.Algebra.Order.Group.Multiset
import Mathlib.Data.Multiset.Range
import Mathlib.Data.Set.Card
import Mathlib.Tactic.Abel

/-!
# No request, stream or connection leaks

Every request is on one of the three lists or with the thread of RTSP over HTTP, and the counts are
those of the requests that are not free: that is so in every run in which the thread accepts every
request that it is handed, takes none that was given up, and is started again only when it has none.
-/
namespace BoaIpcam

open LinkedList TransitionSystem

namespace RequestPool

/-! ## The statement -/

/-- The places of a request. -/
inductive Place where
  | list (name : RequestList)
  | thread
deriving DecidableEq, Repr

/-- The request is in the place. -/
def At (s : RequestPool) (r : ReqAddr) : Place → Prop
  | .list name => Reaches s.queues.next (s.queues.head name) r
  | .thread => (∃ slot, s.worker.Holds r slot) ∨ r ∈ s.worker.returnList

/-- The request was allocated and is not free. -/
def InUse (s : RequestPool) (r : ReqAddr) : Prop :=
  r < s.requestCount ∧ ¬s.At r (.list .free)

/-- Nothing leaks. -/
structure Leakless (s : RequestPool) : Prop where
  /-- The streams are counted. -/
  streams : s.streamCount = {r | s.InUse r ∧ (s.slots r).isStream = true}.ncard
  /-- Their number is within the limit. -/
  limit : s.streamCount ≤ maxStreamLimit
  /-- The connections are counted. -/
  connections :
    s.totalConnections = {fd | fd ∈ s.sockets ∧ ∃ r, s.InUse r ∧ (s.slots r).fd = fd}.ncard
  /-- Every request is in one place. -/
  places : ∀ r < s.requestCount, ∃! place, s.At r place
  /-- There are not too many requests. -/
  most : s.requestCount ≤ maxRequest

/-- The thread accepts what it is handed, accepts nothing that was given up, and is started again
only without requests. -/
def Handed (s : RequestPool) : PoolAct → Prop
  | .insert i request malloc =>
    ∀ r, s.queues.nth .ready i = some r → (arrives r request s.worker).Accepts r malloc
  | .take request malloc =>
    ∀ r, s.insertReq = some r → ¬(arrives r request s.worker).Accepts r malloc
  | .restart => ∀ r, ¬s.At r .thread
  | _ => True

/-! ## The accounts -/

/-- The request is one of the streams that are counted. -/
def Streams (s : RequestPool) (r : ReqAddr) : Prop := (s.slots r).isStream = true

instance (s : RequestPool) : DecidablePred s.Streams := fun r =>
  inferInstanceAs (Decidable ((s.slots r).isStream = true))

/-- The counts are those of the requests that are not free. `counted` is the requests whose streams
are counted, all that are in use but in the middle of `free_request`. -/
structure Accounts (s : RequestPool) (counted busy free : Multiset ReqAddr) : Prop where
  /-- Every request is busy or free. -/
  whole : busy + free = Multiset.range s.requestCount
  /-- The counted requests are busy. -/
  within : counted ≤ busy
  /-- Their streams are counted. -/
  streams : s.streamCount = counted.countP s.Streams
  /-- Their number is within the limit. -/
  limit : s.streamCount ≤ maxStreamLimit
  /-- The busy requests are counted. -/
  connections : s.totalConnections = busy.card
  /-- Their sockets are different. -/
  apart : (busy.map fun r => (s.slots r).fd).Nodup
  /-- Their sockets are open. -/
  opened : ∀ r ∈ busy, (s.slots r).fd ∈ s.sockets
  /-- The handler of a stream was run. -/
  handled : ∀ r, s.Streams r → (s.slots r).handled = true
  /-- There are not too many requests. -/
  most : s.requestCount ≤ maxRequest

section Accounts

variable {s : RequestPool} {counted busy free : Multiset ReqAddr} {r conn : ReqAddr}

/-- A request is in use or free. -/
theorem Accounts.nodup (h : s.Accounts counted busy free) : (busy + free).Nodup := by
  rw [h.whole]
  exact Multiset.nodup_range s.requestCount

/-- A request in use is not free. -/
theorem Accounts.not_free (h : s.Accounts counted busy free) (mem : r ∈ busy) : r ∉ free :=
  fun inside => Multiset.disjoint_left.mp (Multiset.nodup_add.mp h.nodup).2.2 mem inside

/-- The fields of a request after a write. -/
theorem slots_modify (s : RequestPool) (r x : ReqAddr) (f : RequestSlot → RequestSlot) :
    (s.modify r f).slots x = if x = r then f (s.slots r) else s.slots x :=
  Function.update_apply ..

/-- The streams among requests that were not written. -/
theorem countP_modify {f : RequestSlot → RequestSlot} (others : r ∉ counted) :
    counted.countP (s.modify r f).Streams = counted.countP s.Streams := by
  refine Multiset.countP_congr rfl fun x inside => ?_
  have other : x ≠ r := fun same => others (same ▸ inside)
  rw [Streams, Streams, slots_modify, if_neg other]

/-- Another value of the fields that are not counted. -/
theorem Accounts.modify (h : s.Accounts counted busy free) (r : ReqAddr)
    {f : RequestSlot → RequestSlot} (fd : ∀ slot, (f slot).fd = slot.fd)
    (isStream : ∀ slot, (f slot).isStream = slot.isStream)
    (handled : ∀ slot, slot.handled = true → (f slot).handled = true) :
    (s.modify r f).Accounts counted busy free := by
  have fds (x : ReqAddr) : ((s.modify r f).slots x).fd = (s.slots x).fd := by
    rw [slots_modify]
    split
    · rename_i same
      rw [fd, same]
    · rfl
  have streams (x : ReqAddr) : (s.modify r f).Streams x ↔ s.Streams x := by
    rw [Streams, Streams, slots_modify]
    split
    · rename_i same
      rw [isStream, same]
    · rfl
  refine ⟨h.whole, h.within, ?_, h.limit, h.connections, ?_, ?_, ?_, h.most⟩
  · rw [Multiset.countP_congr rfl fun x _ => propext (streams x)]
    exact h.streams
  · simp only [fds]
    exact h.apart
  · intro x mem
    rw [fds]
    exact h.opened x mem
  · intro x set
    have before := h.handled x ((streams x).mp set)
    rw [slots_modify]
    split
    · rename_i same
      exact handled _ (same ▸ before)
    · exact before

/-- A stream is counted. -/
theorem Accounts.checkStreamCount (h : s.Accounts busy busy free) (mem : r ∈ busy)
    (unset : ¬s.Streams r) (handled : (s.slots r).handled = true) {s' : RequestPool}
    (counts : s.checkStreamCount r = some s') : s'.Accounts busy busy free := by
  unfold RequestPool.checkStreamCount at counts
  split at counts
  · cases counts
  rename_i below
  cases counts
  have fds (x : ReqAddr) : ((s.modify r .count).slots x).fd = (s.slots x).fd := by
    rw [slots_modify]
    split
    · rename_i same
      rw [same]
      rfl
    · rfl
  obtain ⟨others, split⟩ := Multiset.exists_cons_of_mem mem
  have fresh : r ∉ others := by
    have nodup := (Multiset.nodup_add.mp h.nodup).1
    rw [split] at nodup
    exact (Multiset.nodup_cons.mp nodup).1
  refine ⟨h.whole, h.within, ?_, ?_, h.connections, ?_, ?_, ?_, h.most⟩
  · have new : (s.modify r .count).Streams r := by
      rw [Streams, slots_modify, if_pos rfl]
      rfl
    have before := h.streams
    rw [split, Multiset.countP_cons_of_neg _ unset] at before
    show s.streamCount + 1 = (busy.countP (s.modify r .count).Streams : Nat)
    rw [split, Multiset.countP_cons_of_pos _ new, countP_modify fresh, before, Nat.cast_add,
      Nat.cast_one]
  · show s.streamCount + 1 ≤ maxStreamLimit
    omega
  · show (busy.map fun x => ((s.modify r .count).slots x).fd).Nodup
    simp only [fds]
    exact h.apart
  · intro x inside
    show ((s.modify r .count).slots x).fd ∈ s.sockets
    rw [fds]
    exact h.opened x inside
  · intro x
    show ((s.modify r .count).slots x).isStream = true →
      ((s.modify r .count).slots x).handled = true
    rw [slots_modify]
    split
    · exact fun _ => handled
    · exact h.handled x

/-- A free request gets a new socket. -/
theorem Accounts.connect (h : s.Accounts busy busy (conn ::ₘ free)) {fd : Nat} (full : Bool)
    (new : fd ∉ s.sockets) (unset : ¬s.Streams conn) (queues : Queues RequestList ReqAddr) :
    Accounts { s.modify conn (.connect fd full) with
      totalConnections := s.totalConnections + 1
      sockets := fd :: s.sockets
      queues } (conn ::ₘ busy) (conn ::ₘ busy) free := by
  have fresh : conn ∉ busy := fun inside => h.not_free inside (Multiset.mem_cons_self conn free)
  have still : ¬(s.modify conn (.connect fd full)).Streams conn := by
    rw [Streams, slots_modify, if_pos rfl]
    exact unset
  have others {x : ReqAddr} (inside : x ∈ busy) :
      (s.modify conn (.connect fd full)).slots x = s.slots x := by
    have other : x ≠ conn := fun same => fresh (same ▸ inside)
    rw [slots_modify, if_neg other]
  have own : ((s.modify conn (.connect fd full)).slots conn).fd = fd := by
    rw [slots_modify, if_pos rfl]
    rfl
  refine ⟨?_, le_rfl, ?_, h.limit, ?_, ?_, ?_, ?_, h.most⟩
  · rw [Multiset.cons_add, ← Multiset.add_cons]
    exact h.whole
  · show s.streamCount = ((conn ::ₘ busy).countP (s.modify conn (.connect fd full)).Streams : Nat)
    rw [Multiset.countP_cons_of_neg _ still, countP_modify fresh]
    exact h.streams
  · show s.totalConnections + 1 = ((conn ::ₘ busy).card : Nat)
    rw [Multiset.card_cons, h.connections, Nat.cast_add, Nat.cast_one]
  · show ((conn ::ₘ busy).map fun x => ((s.modify conn (.connect fd full)).slots x).fd).Nodup
    rw [Multiset.map_cons, Multiset.nodup_cons, own,
      Multiset.map_congr rfl fun x inside => congrArg RequestSlot.fd (others inside)]
    refine ⟨fun used => ?_, h.apart⟩
    obtain ⟨x, inside, rfl⟩ := Multiset.mem_map.mp used
    exact new (h.opened x inside)
  · intro x inside
    show ((s.modify conn (.connect fd full)).slots x).fd ∈ fd :: s.sockets
    rcases Multiset.mem_cons.mp inside with rfl | inside
    · rw [own]
      exact List.mem_cons_self
    · rw [others inside]
      exact List.mem_cons_of_mem fd (h.opened x inside)
  · intro x
    show (s.modify conn (.connect fd full)).Streams x →
      ((s.modify conn (.connect fd full)).slots x).handled = true
    rw [Streams, slots_modify]
    split
    · exact fun set => absurd set unset
    · exact h.handled x

/-- The stream of a request that `free_request` takes off its list is not counted any more. -/
theorem Accounts.uncount {others : Multiset ReqAddr}
    (h : s.Accounts (r ::ₘ others) (r ::ₘ others) free) (queues : Queues RequestList ReqAddr) :
    Accounts { s with
      queues
      streamCount := if (s.slots r).isStream then s.streamCount - 1 else s.streamCount }
        others (r ::ₘ others) free := by
  have counted := h.streams
  refine ⟨h.whole, Multiset.le_cons_self others r, ?_, ?_, h.connections, h.apart, h.opened,
    h.handled, h.most⟩
  · show (if (s.slots r).isStream then s.streamCount - 1 else s.streamCount) =
      (others.countP s.Streams : Nat)
    split
    · rename_i set
      have streams : s.Streams r := set
      rw [Multiset.countP_cons_of_pos _ streams, Nat.cast_add, Nat.cast_one] at counted
      omega
    · rename_i unset
      have plain : ¬s.Streams r := unset
      rwa [Multiset.countP_cons_of_neg _ plain] at counted
  · show (if (s.slots r).isStream then s.streamCount - 1 else s.streamCount) ≤ maxStreamLimit
    have limit := h.limit
    split <;> omega

/-- The request is free, and its socket is closed. -/
theorem Accounts.closeSocket {others : Multiset ReqAddr}
    (h : s.Accounts others (r ::ₘ others) free) :
    (s.closeSocket r).Accounts others others (r ::ₘ free) := by
  have apart := h.apart
  rw [Multiset.map_cons, Multiset.nodup_cons] at apart
  refine ⟨?_, le_rfl, h.streams, h.limit, ?_, apart.2, ?_, h.handled, h.most⟩
  · rw [Multiset.add_cons, ← Multiset.cons_add]
    exact h.whole
  · show s.totalConnections - 1 = (others.card : Nat)
    rw [h.connections, Multiset.card_cons, Nat.cast_add, Nat.cast_one, add_sub_cancel_right]
  · intro x inside
    have other : (s.slots x).fd ≠ (s.slots r).fd := fun same =>
      apart.1 (same ▸ Multiset.mem_map_of_mem (fun x => (s.slots x).fd) inside)
    exact (List.mem_erase_of_ne other).mpr (h.opened x (Multiset.mem_cons_of_mem inside))

/-- The request is free, and its socket goes to another request. -/
theorem Accounts.renew {others : Multiset ReqAddr}
    (h : s.Accounts others (r ::ₘ others) (conn ::ₘ free)) (unset : ¬s.Streams conn)
    (queues : Queues RequestList ReqAddr) :
    Accounts { s.modify conn (.connect (s.slots r).fd false) with queues }
      (conn ::ₘ others) (conn ::ₘ others) (r ::ₘ free) := by
  have fresh : conn ∉ r ::ₘ others := fun inside =>
    h.not_free inside (Multiset.mem_cons_self conn free)
  have fresh' : conn ∉ others := fun inside => fresh (Multiset.mem_cons_of_mem inside)
  have still : ¬(s.modify conn (.connect (s.slots r).fd false)).Streams conn := by
    rw [Streams, slots_modify, if_pos rfl]
    exact unset
  have kept {x : ReqAddr} (inside : x ∈ others) :
      (s.modify conn (.connect (s.slots r).fd false)).slots x = s.slots x := by
    have other : x ≠ conn := fun same => fresh' (same ▸ inside)
    rw [slots_modify, if_neg other]
  have own : ((s.modify conn (.connect (s.slots r).fd false)).slots conn).fd = (s.slots r).fd := by
    rw [slots_modify, if_pos rfl]
    rfl
  refine ⟨?_, le_rfl, ?_, h.limit, ?_, ?_, ?_, ?_, h.most⟩
  · refine Eq.trans ?_ h.whole
    rw [Multiset.cons_add, Multiset.add_cons, Multiset.cons_add, Multiset.add_cons,
      Multiset.cons_swap]
  · show s.streamCount = ((conn ::ₘ others).countP
      (s.modify conn (.connect (s.slots r).fd false)).Streams : Nat)
    rw [Multiset.countP_cons_of_neg _ still, countP_modify fresh']
    exact h.streams
  · show s.totalConnections = ((conn ::ₘ others).card : Nat)
    rw [h.connections, Multiset.card_cons, Multiset.card_cons]
  · show ((conn ::ₘ others).map fun x =>
      ((s.modify conn (.connect (s.slots r).fd false)).slots x).fd).Nodup
    rw [Multiset.map_cons, own,
      Multiset.map_congr rfl fun x inside => congrArg RequestSlot.fd (kept inside)]
    have apart := h.apart
    rwa [Multiset.map_cons] at apart
  · intro x inside
    show ((s.modify conn (.connect (s.slots r).fd false)).slots x).fd ∈ s.sockets
    rcases Multiset.mem_cons.mp inside with rfl | inside
    · rw [own]
      exact h.opened r (Multiset.mem_cons_self r others)
    · rw [kept inside]
      exact h.opened x (Multiset.mem_cons_of_mem inside)
  · intro x
    show (s.modify conn (.connect (s.slots r).fd false)).Streams x →
      ((s.modify conn (.connect (s.slots r).fd false)).slots x).handled = true
    rw [Streams, slots_modify]
    split
    · exact fun set => absurd set unset
    · exact h.handled x

/-- `memset` of a request that is not in use. -/
theorem Accounts.clear (h : s.Accounts counted busy free) (unused : conn ∉ busy) :
    Accounts (s.modify conn fun _ => .zero) counted busy free := by
  have kept {x : ReqAddr} (inside : x ∈ busy) :
      (s.modify conn fun _ => .zero).slots x = s.slots x := by
    have other : x ≠ conn := fun same => unused (same ▸ inside)
    rw [slots_modify, if_neg other]
  refine ⟨h.whole, h.within, ?_, h.limit, h.connections, ?_, ?_, ?_, h.most⟩
  · rw [countP_modify fun inside => unused (Multiset.mem_of_le h.within inside)]
    exact h.streams
  · rw [Multiset.map_congr rfl fun x inside => congrArg RequestSlot.fd (kept inside)]
    exact h.apart
  · intro x inside
    rw [kept inside]
    exact h.opened x inside
  · intro x
    rw [Streams, slots_modify]
    split
    · exact nofun
    · exact h.handled x

end Accounts

/-! ## The lists -/

/-- The requests on the lists and in the hands of the thread are those that the counts are for. -/
structure Sound (s : RequestPool) (lists : RequestList → List ReqAddr)
    (hands : Multiset ReqAddr) : Prop where
  /-- The queues have these lists. -/
  queues : s.queues.Lists lists
  /-- The counts are right for them. -/
  accounts : s.Accounts (lists .ready + lists .block + hands) (lists .ready + lists .block + hands)
    (lists .free)

section Lists

variable {s s' : RequestPool} {lists : RequestList → List ReqAddr}
  {counted busy hands : Multiset ReqAddr} {r conn : ReqAddr} {malloc : Bool}

/-- `new_request` takes a request from `request_free`, or one more from `malloc`. -/
theorem Accounts.newRequest (h : s.Accounts counted busy (lists .free : Multiset ReqAddr))
    (queues : s.queues.Lists lists) (taken : s.newRequest malloc = some (conn, s')) :
    ∃ rest : List ReqAddr, s'.queues.Lists (Function.update lists .free rest) ∧
      s'.Accounts counted busy (conn ::ₘ (rest : Multiset ReqAddr)) ∧ ¬s'.Streams conn ∧
      (∀ x ∈ busy, s'.slots x = s.slots x) ∧ s'.worker = s.worker ∧ s'.sockets = s.sockets := by
  unfold RequestPool.newRequest at taken
  have kept (unused : conn ∉ busy) (x : ReqAddr) (inside : x ∈ busy) :
      (s.modify conn fun _ => .zero).slots x = s.slots x := by
    have other : x ≠ conn := fun same => unused (same ▸ inside)
    rw [slots_modify, if_neg other]
  have clear : ¬(s.modify conn fun _ => .zero).Streams conn := by
    rw [Streams, slots_modify, if_pos rfl]
    exact Bool.false_ne_true
  split at taken
  · rename_i first head
    cases taken
    have start := (queues.linked .free).chain.head_eq
    rw [head] at start
    obtain ⟨rest, split⟩ : ∃ rest, lists .free = conn :: rest := by
      cases list : lists .free with
      | nil => rw [list] at start; cases start
      | cons other rest =>
        rw [list] at start
        cases start
        exact ⟨rest, rfl⟩
    have member : conn ∈ lists .free := by rw [split]; exact List.mem_cons_self
    have unused : conn ∉ busy := fun inside => h.not_free inside member
    have shorter := queues.dequeue member
    rw [split, List.erase_cons_head] at shorter
    have cleared := h.clear unused
    rw [split, ← Multiset.cons_coe] at cleared
    exact ⟨rest, shorter, ⟨cleared.whole, cleared.within, cleared.streams, cleared.limit,
      cleared.connections, cleared.apart, cleared.opened, cleared.handled, cleared.most⟩, clear,
      kept unused, rfl, rfl⟩
  · rename_i head
    split at taken
    · cases taken
    rename_i room
    cases taken
    have empty : lists .free = [] := by
      have start := (queues.linked .free).chain.head_eq
      rw [head] at start
      exact List.head?_eq_none_iff.mp start.symm
    have whole := h.whole
    rw [empty, Multiset.coe_nil, add_zero] at whole
    have unused : s.requestCount ∉ busy := by
      rw [whole]
      exact Multiset.notMem_range_self
    have cleared := h.clear unused
    have still : Function.update lists .free [] = lists := by
      rw [← empty, Function.update_eq_self]
    refine ⟨[], still.symm ▸ queues, ⟨?_, cleared.within, cleared.streams, cleared.limit,
      cleared.connections, cleared.apart, cleared.opened, cleared.handled, ?_⟩, clear,
      kept unused, rfl, rfl⟩
    · rw [Multiset.add_cons, Multiset.coe_nil, add_zero, whole]
      exact (Multiset.range_succ s.requestCount).symm
    · show s.requestCount + 1 ≤ maxRequest
      have below := not_or.mp room
      omega

/-- A request of a list and the others. -/
theorem coe_cons_erase {list : List ReqAddr} (mem : r ∈ list) :
    r ::ₘ (list.erase r : Multiset ReqAddr) = list := by
  rw [← Multiset.coe_erase, Multiset.cons_erase mem]

/-- The counts do not depend on the links and on the thread. -/
theorem Accounts.frame {free : Multiset ReqAddr} (h : s.Accounts counted busy free)
    (queues : Queues RequestList ReqAddr) (worker : Worker) (insertReq : Option ReqAddr) :
    Accounts { s with queues, worker, insertReq } counted busy free :=
  ⟨h.whole, h.within, h.streams, h.limit, h.connections, h.apart, h.opened, h.handled, h.most⟩

/-- `block_request`. -/
theorem Sound.blockRequest (h : s.Sound lists hands) (mem : r ∈ lists .ready) :
    ∃ lists', (s.blockRequest r).Sound lists' hands := by
  have moved := (h.queues.dequeue mem).enqueue .block (h.queues.not_mem_dequeue mem)
  refine ⟨_, moved, ?_⟩
  have same : ((lists .ready).erase r : Multiset ReqAddr) + (r :: lists .block : List ReqAddr) +
      hands = lists .ready + lists .block + hands := by
    rw [← Multiset.cons_coe, Multiset.add_cons, ← Multiset.cons_add, coe_cons_erase mem]
  have accounts := h.accounts.frame (s.blockRequest r).queues s.worker s.insertReq
  rw [← same] at accounts
  exact accounts

/-- `ready_request`. -/
theorem Sound.readyRequest (h : s.Sound lists hands) (mem : r ∈ lists .block) :
    ∃ lists', (s.readyRequest r).Sound lists' hands := by
  have moved := (h.queues.dequeue mem).enqueue .ready (h.queues.not_mem_dequeue mem)
  refine ⟨_, moved, ?_⟩
  have same : (r :: lists .ready : List ReqAddr) + ((lists .block).erase r : Multiset ReqAddr) +
      hands = lists .ready + lists .block + hands := by
    rw [← Multiset.cons_coe, Multiset.cons_add, ← Multiset.add_cons, coe_cons_erase mem]
  have accounts := h.accounts.frame (s.readyRequest r).queues s.worker s.insertReq
  rw [← same] at accounts
  exact accounts

/-- A new request is on no list. -/
theorem Accounts.unlisted {rest : List ReqAddr}
    (h : s.Accounts counted busy (conn ::ₘ (rest : Multiset ReqAddr)))
    (ready : ∀ x ∈ lists .ready, x ∈ busy) (block : ∀ x ∈ lists .block, x ∈ busy)
    (name : RequestList) : conn ∉ Function.update lists .free rest name := by
  have unused : conn ∉ busy := fun inside => h.not_free inside (Multiset.mem_cons_self _ _)
  cases name with
  | ready => exact fun inside => unused (ready conn inside)
  | block => exact fun inside => unused (block conn inside)
  | free =>
    have apart := (Multiset.nodup_add.mp h.nodup).2.1
    exact fun inside => (Multiset.nodup_cons.mp apart).1 inside

/-- `get_sock_request`. -/
theorem Sound.getSockRequest (h : s.Sound lists hands) {fd : Nat} (new : fd ∉ s.sockets)
    (full : Bool) :
    ∃ lists', (s.getSockRequest fd full malloc).Sound lists' hands ∧
      (s.getSockRequest fd full malloc).worker = s.worker := by
  unfold RequestPool.getSockRequest
  split
  · exact ⟨lists, h, rfl⟩
  · rename_i conn s' taken
    obtain ⟨rest, queues, accounts, unset, -, worker, sockets⟩ :=
      h.accounts.newRequest h.queues taken
    have unlisted := accounts.unlisted
      (fun x inside => Multiset.mem_add.mpr (.inl (Multiset.mem_add.mpr (.inl inside))))
      (fun x inside => Multiset.mem_add.mpr (.inl (Multiset.mem_add.mpr (.inr inside))))
    have listed := queues.enqueue .ready unlisted
    have connected := accounts.connect full (sockets ▸ new) unset (s'.queues.enqueue .ready conn)
    rw [← Multiset.cons_add, ← Multiset.cons_add, Multiset.cons_coe] at connected
    exact ⟨_, ⟨listed, connected⟩, worker⟩

/-- `free_request`. -/
theorem Sound.freeRequest (h : s.Sound lists hands) (mem : r ∈ lists .ready) (keepalive : Bool) :
    ∃ lists', (s.freeRequest r keepalive malloc).Sound lists' hands ∧
      (s.freeRequest r keepalive malloc).worker = s.worker := by
  let off := Function.update lists .ready ((lists .ready).erase r)
  have unlinked : (s.queues.dequeue .ready r).Lists off := h.queues.dequeue mem
  have unlisted (name : RequestList) : r ∉ off name := h.queues.not_mem_dequeue mem name
  have busy : (lists .ready + lists .block + hands : Multiset ReqAddr) =
      r ::ₘ (off .ready + off .block + hands) := by
    show (lists .ready + lists .block + hands : Multiset ReqAddr) =
      r ::ₘ ((lists .ready).erase r + lists .block + hands)
    rw [← Multiset.cons_add, ← Multiset.cons_add, coe_cons_erase mem]
  have accounts := h.accounts
  rw [busy] at accounts
  have uncounted : Accounts _ _ _ (off .free : Multiset ReqAddr) :=
    accounts.uncount (s.queues.dequeue .ready r)
  have closed {s' : RequestPool} (queues : s'.queues = s.queues.dequeue .ready r)
      (accounts : s'.Accounts (off .ready + off .block + hands)
        (r ::ₘ (off .ready + off .block + hands)) (off .free)) :
      ∃ lists', (s'.closeSocket r).Sound lists' hands := by
    have listed := unlinked.enqueue .free unlisted
    rw [← queues] at listed
    exact ⟨_, listed, accounts.closeSocket⟩
  unfold RequestPool.freeRequest
  split
  · exact ⟨lists, h, rfl⟩
  · dsimp only
    split
    · split
      · obtain ⟨lists', sound⟩ := closed rfl uncounted
        exact ⟨lists', sound, rfl⟩
      · rename_i conn s' taken
        obtain ⟨rest, queues, accounts', unset, -, worker, -⟩ :=
          Accounts.newRequest uncounted unlinked taken
        have own := Multiset.mem_cons_self r (off .ready + off .block + hands : Multiset ReqAddr)
        have new : conn ≠ r := fun same =>
          accounts'.not_free own (same ▸ Multiset.mem_cons_self _ _)
        have listed := queues.enqueue .block (accounts'.unlisted
          (fun x inside => Multiset.mem_cons_of_mem
            (Multiset.mem_add.mpr (.inl (Multiset.mem_add.mpr (.inl inside)))))
          (fun x inside => Multiset.mem_cons_of_mem
            (Multiset.mem_add.mpr (.inl (Multiset.mem_add.mpr (.inr inside))))))
        have freed := listed.enqueue .free (a := r) (by
          intro name
          cases name with
          | ready => exact unlisted .ready
          | block =>
            intro inside
            rcases List.mem_cons.mp inside with same | inside
            · exact new same.symm
            · exact unlisted .block inside
          | free =>
            exact fun inside => accounts'.not_free own (Multiset.mem_cons_of_mem inside))
        have renewed := accounts'.renew unset ((s'.queues.enqueue .block conn).enqueue .free r)
        rw [← Multiset.cons_add, ← Multiset.add_cons, Multiset.cons_coe] at renewed
        exact ⟨_, ⟨freed, renewed⟩, worker⟩
    · obtain ⟨lists', sound⟩ := closed rfl uncounted
      exact ⟨lists', sound, rfl⟩

/-- Another value of the fields that are not counted. -/
theorem Sound.modify (h : s.Sound lists hands) (r : ReqAddr) {f : RequestSlot → RequestSlot}
    (fd : ∀ slot, (f slot).fd = slot.fd) (isStream : ∀ slot, (f slot).isStream = slot.isStream)
    (handled : ∀ slot, slot.handled = true → (f slot).handled = true) :
    (s.modify r f).Sound lists hands :=
  ⟨h.queues, h.accounts.modify r fd isStream handled⟩

/-- The handler of a request. -/
theorem Sound.handle (h : s.Sound lists hands) (mem : r ∈ lists .ready) (turn : RequestTurn) :
    (s.handle r turn).1.Sound lists hands ∧ (s.handle r turn).1.worker = s.worker := by
  unfold RequestPool.handle
  split
  · rename_i new
    have run := h.modify r (f := .handle) (fun _ => rfl) (fun _ => rfl) fun _ _ => rfl
    dsimp only
    split
    · exact ⟨run, rfl⟩
    · rename_i s' counts
      have own : (s.modify r .handle).slots r = (s.slots r).handle := by
        rw [slots_modify, if_pos rfl]
      have unset : ¬(s.modify r .handle).Streams r := by
        rw [Streams, own]
        intro set
        exact nomatch (h.accounts.handled r set).symm.trans new.2
      have busy : r ∈ (lists .ready + lists .block + hands : Multiset ReqAddr) :=
        Multiset.mem_add.mpr (.inl (Multiset.mem_add.mpr (.inl mem)))
      have counted := run.accounts.checkStreamCount busy unset (by rw [own]; rfl) counts
      unfold RequestPool.checkStreamCount at counts
      split at counts
      · cases counts
      · cases counts
        exact ⟨⟨h.queues, counted⟩, rfl⟩
  · exact ⟨h, rfl⟩

/-- A turn of a request. -/
theorem Sound.turn (h : s.Sound lists hands) (mem : r ∈ lists .ready) (turn : RequestTurn) :
    ∃ lists', (s.turn r turn).Sound lists' hands ∧ (s.turn r turn).worker = s.worker := by
  obtain ⟨run, worker⟩ := h.handle mem turn
  have left := run.modify r (f := .leave turn.output turn.dead) (fun _ => rfl) (fun _ => rfl)
    fun _ set => set
  unfold RequestPool.turn
  dsimp only
  split
  · obtain ⟨lists', sound⟩ := left.blockRequest mem
    exact ⟨lists', sound, worker⟩
  · obtain ⟨lists', sound, same⟩ := left.freeRequest mem turn.keepalive
    exact ⟨lists', sound, same.trans worker⟩
  · exact ⟨lists, left, worker⟩
  · exact ⟨lists, left, worker⟩

end Lists

/-! ## Runs -/

/-- The requests in the hands of the thread. -/
def hands (w : Worker) (used : List RecordAddr) : Multiset ReqAddr :=
  w.attachments used + (w.returnList : Multiset ReqAddr)

/-- Every request is found again. -/
def Tracked (s : RequestPool) : Prop :=
  ∃ lists used free, s.Sound lists (hands s.worker used) ∧ RecordsValid s.worker used free

section Runs

variable {s s' : RequestPool}

/-- Before the first request. -/
theorem tracked_boot (requests : ReqAddr → TunnelRequest) : (boot requests).Tracked := by
  refine ⟨fun _ => [], [], [], ⟨Queues.lists_empty, ?_⟩, .start requests⟩
  have limit : (0 : Int) ≤ maxStreamLimit := by decide
  exact ⟨rfl, le_rfl, rfl, limit, rfl, Multiset.nodup_zero,
    fun _ mem => absurd mem (Multiset.notMem_zero _), nofun, Nat.zero_le _⟩

/-- A step of the main thread alone. -/
theorem Tracked.of_sound {lists : RequestList → List ReqAddr} {used free : List RecordAddr}
    (valid : RecordsValid s.worker used free) (sound : s'.Sound lists (hands s.worker used))
    (worker : s'.worker = s.worker) : s'.Tracked := by
  rw [← worker] at sound valid
  exact ⟨lists, used, free, sound, valid⟩

/-- A request is handed over. -/
theorem Sound.insert {lists : RequestList → List ReqAddr} {used free : List RecordAddr}
    {r : ReqAddr} {request : TunnelRequest} {malloc : Bool} {rounds : Nat} {worker : Worker}
    (h : s.Sound lists (hands s.worker used)) (valid : RecordsValid s.worker used free)
    (mem : r ∈ lists .ready) (accepts : (arrives r request s.worker).Accepts r malloc)
    (inserted : (arrives r request s.worker).insert rounds r malloc = some worker) :
    Tracked { s with worker, queues := s.queues.dequeue .ready r } := by
  obtain ⟨used', free', valid', returnList, -, -, attached, -⟩ :=
    (valid.frame (Function.update s.worker.requests r request) s.worker.returnList).insert inserted
  have taken : hands worker used' = r ::ₘ hands s.worker used := by
    unfold hands
    rw [returnList, Multiset.coe_eq_coe.mpr (attached accepts), ← Multiset.cons_coe,
      Multiset.cons_add]
    rfl
  refine ⟨_, used', free', ⟨h.queues.dequeue mem, ?_⟩, valid'⟩
  have same : ((lists .ready).erase r : Multiset ReqAddr) + lists .block + hands worker used' =
      lists .ready + lists .block + hands s.worker used := by
    rw [taken, Multiset.add_cons, ← Multiset.cons_add, ← Multiset.cons_add, coe_cons_erase mem]
  have accounts := h.accounts.frame (s.queues.dequeue .ready r) worker s.insertReq
  rw [← same] at accounts
  exact accounts

/-- A request comes back. -/
theorem Sound.collect {lists : RequestList → List ReqAddr} {used free : List RecordAddr}
    {r : ReqAddr} {rest : List ReqAddr} (h : s.Sound lists (hands s.worker used))
    (valid : RecordsValid s.worker used free) (first : s.worker.returnList = r :: rest) :
    Tracked { s.modify r (.leave false false) with
      worker := { s.worker with returnList := rest }
      queues := s.queues.enqueue .ready r } := by
  have held : hands s.worker used = r ::ₘ hands { s.worker with returnList := rest } used := by
    unfold hands
    rw [first, ← Multiset.cons_coe, Multiset.add_cons]
    rfl
  have own : r ∈ hands s.worker used := held ▸ Multiset.mem_cons_self _ _
  have apart := Multiset.nodup_add.mp (Multiset.nodup_add.mp h.accounts.nodup).1
  have unlisted (name : RequestList) : r ∉ lists name := by
    cases name with
    | ready =>
      exact fun inside => Multiset.disjoint_left.mp apart.2.2
        (Multiset.mem_add.mpr (.inl inside)) own
    | block =>
      exact fun inside => Multiset.disjoint_left.mp apart.2.2
        (Multiset.mem_add.mpr (.inr inside)) own
    | free => exact h.accounts.not_free (Multiset.mem_add.mpr (.inr own))
  refine ⟨_, used, free, ⟨h.queues.enqueue .ready unlisted, ?_⟩, valid.frame _ _⟩
  have left := (h.modify r (f := .leave false false) (fun _ => rfl) (fun _ => rfl)
    fun _ set => set).accounts.frame (s.queues.enqueue .ready r)
      { s.worker with returnList := rest } s.insertReq
  have same : (r :: lists .ready : List ReqAddr) + (lists .block : Multiset ReqAddr) +
      hands { s.worker with returnList := rest } used =
      lists .ready + lists .block + hands s.worker used := by
    rw [held, ← Multiset.cons_coe, Multiset.add_cons, Multiset.cons_add, Multiset.cons_add]
  rw [← same] at left
  exact left

/-- A pass of the thread leaves every request in its hands. -/
theorem Tracked.of_worker {lists : RequestList → List ReqAddr} {used used' free' : List RecordAddr}
    {worker : Worker} (h : s.Sound lists (hands s.worker used))
    (valid : RecordsValid worker used' free') (same : hands worker used' = hands s.worker used)
    (insertReq : Option ReqAddr) : Tracked { s with worker, insertReq } :=
  ⟨lists, used', free', ⟨h.queues, same ▸ h.accounts.frame s.queues worker insertReq⟩, valid⟩

/-- Every step keeps track of the requests. -/
theorem Tracked.step (tracked : s.Tracked) {act : PoolAct} (handed : Handed s act)
    (step : s.Step act s') : s'.Tracked := by
  obtain ⟨lists, used, free, h, valid⟩ := tracked
  obtain ⟨rounds, done⟩ := step
  cases act with
  | accept fd full malloc =>
    simp only [exec] at done
    split at done
    · cases done
    · rename_i new
      cases done
      obtain ⟨lists', sound, worker⟩ := @Sound.getSockRequest s lists _ malloc h fd new full
      exact .of_sound valid sound worker
  | turn i turn =>
    obtain ⟨r, at_, rfl⟩ := Option.map_eq_some_iff.mp done
    obtain ⟨lists', sound, worker⟩ := h.turn (h.queues.nth_mem at_) turn
    exact .of_sound valid sound worker
  | drop i keepalive malloc =>
    obtain ⟨r, at_, rfl⟩ := Option.map_eq_some_iff.mp done
    obtain ⟨lists', sound, worker⟩ :=
      @Sound.freeRequest s lists _ r malloc h (h.queues.nth_mem at_) keepalive
    exact .of_sound valid sound worker
  | wake i timedOut =>
    obtain ⟨r, at_, rfl⟩ := Option.map_eq_some_iff.mp done
    have marked := h.modify r (f := fun slot => slot.leave slot.output (slot.dead || timedOut))
      (fun _ => rfl) (fun _ => rfl) fun _ set => set
    obtain ⟨lists', sound⟩ := marked.readyRequest (h.queues.nth_mem at_)
    exact .of_sound valid sound rfl
  | insert i request malloc =>
    obtain ⟨r, at_, moved⟩ := Option.bind_eq_some_iff.mp done
    obtain ⟨worker, inserted, rfl⟩ := Option.map_eq_some_iff.mp moved
    exact h.insert valid (h.queues.nth_mem at_) (handed r at_) inserted
  | giveUp i =>
    obtain ⟨r, at_, rfl⟩ := Option.map_eq_some_iff.mp done
    exact .of_worker h valid rfl (some r)
  | take request malloc =>
    obtain ⟨r, posted, moved⟩ := Option.bind_eq_some_iff.mp done
    obtain ⟨worker, inserted, rfl⟩ := Option.map_eq_some_iff.mp moved
    obtain ⟨used', free', valid', returnList, -, -, -, refused⟩ :=
      (valid.frame (Function.update s.worker.requests r request)
        s.worker.returnList).insert inserted
    refine .of_worker h valid' ?_ none
    unfold hands
    rw [returnList, Multiset.coe_eq_coe.mpr (refused (handed r posted))]
    rfl
  | serve reads =>
    obtain ⟨worker, served, rfl⟩ := Option.map_eq_some_iff.mp done
    obtain ⟨valid', moved, -, -⟩ :=
      RecordsValid.serveFrom [] valid valid.lists.usedChain.chain served
    refine .of_worker h valid' ?_ s.insertReq
    have same := Multiset.coe_eq_coe.mpr moved
    rwa [← Multiset.coe_add, ← Multiset.coe_add] at same
  | update handler =>
    obtain ⟨worker, updated, rfl⟩ := Option.map_eq_some_iff.mp done
    obtain ⟨used', free', valid', moved, returnList, -, -⟩ :=
      RecordsValid.updateFrom [] valid valid.lists.usedChain.chain updated
    refine .of_worker h valid' ?_ s.insertReq
    unfold hands
    rw [returnList, Multiset.coe_eq_coe.mpr moved]
    rfl
  | collect =>
    simp only [exec] at done
    split at done
    · cases done
    · rename_i r rest first
      cases done
      exact h.collect valid first
  | restart =>
    cases done
    refine .of_worker h (.start s.worker.requests) ?_ none
    have none_ : hands s.worker used = 0 := by
      refine Multiset.eq_zero_of_forall_notMem fun r inside => handed r ?_
      rcases Multiset.mem_add.mp inside with inside | inside
      · exact .inl (valid.mem_attachments.mp inside)
      · exact .inr inside
    rw [none_]
    rfl

/-- The requests in a place. -/
def occupants (lists : RequestList → List ReqAddr) (hands : Multiset ReqAddr) :
    Place → Multiset ReqAddr
  | .list name => lists name
  | .thread => hands

/-- The places of the requests are the lists and the hands of the thread. -/
theorem at_iff {lists : RequestList → List ReqAddr} {used free : List RecordAddr}
    (h : s.Sound lists (hands s.worker used)) (valid : RecordsValid s.worker used free)
    (r : ReqAddr) (place : Place) :
    s.At r place ↔ r ∈ occupants lists (hands s.worker used) place := by
  cases place with
  | list name => exact h.queues.reaches_iff name r
  | thread =>
    rw [At, occupants, hands, Multiset.mem_add, Multiset.mem_coe, Multiset.mem_coe,
      valid.mem_attachments]

/-- What is in one of the places once is in exactly one place. -/
theorem occupants_unique {lists : RequestList → List ReqAddr} {hands : Multiset ReqAddr}
    {r : ReqAddr}
    (once : (lists .ready + lists .block + hands + lists .free : Multiset ReqAddr).count r = 1) :
    ∃! place, r ∈ occupants lists hands place := by
  simp only [Multiset.count_add] at once
  have some_ : ∃ place, r ∈ occupants lists hands place := by
    by_contra none_
    have absent (place : Place) : (occupants lists hands place).count r = 0 :=
      Multiset.count_eq_zero.mpr (not_exists.mp none_ place)
    have ready : Multiset.count r (lists .ready) = 0 := absent (.list .ready)
    have block : Multiset.count r (lists .block) = 0 := absent (.list .block)
    have free : Multiset.count r (lists .free) = 0 := absent (.list .free)
    have thread : Multiset.count r hands = 0 := absent .thread
    omega
  obtain ⟨place, inside⟩ := some_
  refine ⟨place, inside, fun other inside' => ?_⟩
  have first := Multiset.count_pos.mpr inside
  have second := Multiset.count_pos.mpr inside'
  rcases place with ⟨⟨⟩⟩ | _
  all_goals
    rcases other with ⟨⟨⟩⟩ | _
    all_goals first
      | rfl
      | (simp only [occupants] at first second; omega)

/-- The elements of a multiset that repeats none. -/
theorem ncard_of_nodup {α : Type} {set : Set α} {elements : Multiset α} (nodup : elements.Nodup)
    (same : ∀ x, x ∈ set ↔ x ∈ elements) : set.ncard = elements.card := by
  have finite : set = ((⟨elements, nodup⟩ : Finset α) : Set α) := Set.ext same
  rw [finite, Set.ncard_coe_finset]
  rfl

/-- Nothing leaks as long as every request is tracked. -/
theorem Tracked.leakless (tracked : s.Tracked) : s.Leakless := by
  obtain ⟨lists, used, free, h, valid⟩ := tracked
  have accounts := h.accounts
  have nodup := (Multiset.nodup_add.mp accounts.nodup).1
  have inUse (r : ReqAddr) :
      s.InUse r ↔ r ∈ (lists .ready + lists .block + hands s.worker used : Multiset ReqAddr) := by
    rw [InUse, at_iff h valid, ← Multiset.mem_range, ← accounts.whole, Multiset.mem_add]
    constructor
    · rintro ⟨busy | unused, other⟩
      · exact busy
      · exact absurd unused other
    · exact fun busy => ⟨.inl busy, accounts.not_free busy⟩
  refine ⟨?_, accounts.limit, ?_, ?_, accounts.most⟩
  · rw [accounts.streams, Multiset.countP_eq_card_filter,
      ncard_of_nodup (nodup.filter s.Streams) fun r => ?_]
    rw [Multiset.mem_filter, ← inUse]
    rfl
  · rw [accounts.connections, ncard_of_nodup accounts.apart fun fd => ?_, Multiset.card_map]
    rw [Multiset.mem_map]
    constructor
    · rintro ⟨-, r, busy, same⟩
      exact ⟨r, (inUse r).mp busy, same⟩
    · rintro ⟨r, busy, rfl⟩
      exact ⟨accounts.opened r busy, r, (inUse r).mpr busy, rfl⟩
  · intro r allocated
    simp only [at_iff h valid]
    refine occupants_unique (Multiset.count_eq_one_of_mem accounts.nodup ?_)
    rw [accounts.whole]
    exact Multiset.mem_range.mpr allocated

end Runs

/-- In every run in which the thread of RTSP over HTTP accepts the requests that it is handed,
accepts none that was given up, and is started again only without requests, nothing leaks. -/
theorem nothing_leaks {requests : ReqAddr → TunnelRequest} {acts : List PoolAct} {s : RequestPool}
    (run : Run Step Handed (boot requests) acts s) : s.Leakless :=
  (Run.invariant Tracked (fun _ _ _ tracked handed step => tracked.step handed step) run
    (tracked_boot requests)).leakless

/-- A client watches a stream and is blocked; a player sends the GET of its tunnel. -/
def streamAndTunnel : List PoolAct :=
  [.accept 5 false true, .turn 0 ⟨true, true, false, .blocked, false, true⟩, .accept 6 false true,
    .insert 0 (streamRequest .out 97) true, .serve fun _ => .closed, .collect]

/-- The stream and the two connections are counted while both requests are in use. -/
theorem nothing_leaks_stream_and_tunnel :
    ∃ s, Run Step Handed (boot idleTunnel.worker.requests) streamAndTunnel s ∧ s.streamCount = 1 ∧
      s.totalConnections = 2 ∧ s.Leakless := by
  have run : ∃ s, Run Step Handed (boot idleTunnel.worker.requests) streamAndTunnel s ∧
      s.streamCount = 1 ∧ s.totalConnections = 2 := by
    refine ⟨_, .go trivial ⟨1, rfl⟩ (.go trivial ⟨1, rfl⟩ (.go trivial ⟨1, rfl⟩ (.go ?_ ⟨1, rfl⟩
      (.go trivial ⟨1, rfl⟩ (.go trivial ⟨1, rfl⟩ (.stop _)))))), rfl, rfl⟩
    intro r _
    refine ⟨fun a reached => ?_, fun _ => .inr rfl⟩
    cases reached
  obtain ⟨s, run, streams, connections⟩ := run
  exact ⟨s, run, streams, connections, nothing_leaks run⟩

/-- A second GET with the session id of a tunnel that has one is on no list, and the thread does
not have it. -/
theorem second_get_leaks : ¬∀ acts s,
    Run Step (fun _ _ => True) (boot idleTunnel.worker.requests) acts s → s.Leakless := by
  intro all
  obtain ⟨place, inside, -⟩ := (all
    [.accept 5 false true, .insert 0 (streamRequest .out 97) true, .accept 6 false true,
      .insert 0 (streamRequest .out 97) true] _
    (.go trivial ⟨1, rfl⟩ (.go trivial ⟨1, rfl⟩ (.go trivial ⟨1, rfl⟩ (.go trivial ⟨1, rfl⟩
      (.stop _)))))).places 1 (Nat.le_refl 2)
  rcases place with ⟨⟨⟩⟩ | _
  · cases inside
  · cases inside
  · cases inside
  · rcases inside with ⟨⟨a, direction⟩, holds⟩ | returned
    · obtain rfl : a = 0 := holds.1.single ⟨rfl, rfl⟩
      cases direction with
      | into => exact absurd holds.2 (by decide)
      | out => exact absurd holds.2 (by decide)
    · exact absurd returned (by decide)

end RequestPool
end BoaIpcam
