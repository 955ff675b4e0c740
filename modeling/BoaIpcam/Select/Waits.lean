import BoaIpcam.Select.Loop

/-!
# Who waits for what

The invariant of the select loop: the lists are lists, each request is at one place, and no two
requests hold the same descriptor. So what is done with the channel of one request leaves the
channels of the others alone. `Grows` says what the turns may do meanwhile with those that wait.
-/
namespace BoaIpcam.Select

open LinkedList

/-! ## Channels -/

namespace Slot

/-- Both sides of the loop look at the same channel, but for a request that is dead. -/
theorem tested_eq (slot : Slot) :
    slot.tested = if slot.status = .dead then none else some slot.channel := by
  unfold tested channel
  cases slot.output <;> cases slot.status <;> rfl

/-- A request holds its socket. -/
theorem fd_mem_held (slot : Slot) : slot.fd ∈ slot.held := List.mem_cons_self

/-- A request that is dead or done waits for its socket. -/
theorem channel_fd_of_end (slot : Slot) {status : Status} (ended : status = .dead ∨ status = .done)
    (output : Bool) : { slot with status, output }.channel.fd = slot.fd := by
  rcases ended with rfl | rfl <;> cases output <;> rfl

/-- A request that was given a socket holds nothing else. -/
theorem held_connect (config : Config) (fd : Nat) (output : Bool) (now : Int) :
    (Slot.zero.connect config fd output now).held = [fd] := rfl

/-- A request that was given a socket waits for it. -/
theorem channel_connect (config : Config) (fd : Nat) (output : Bool) (now : Int) :
    (Slot.zero.connect config fd output now).channel.fd = fd := by
  unfold connect channel zero
  by_cases above : config.maxConnections < fd
  · cases output <;> simp [above]
  · simp [above]

/-- A request that inherits a socket holds nothing else. -/
theorem held_inherit (old : Slot) : (old.inherit .zero).held = [old.fd] := rfl

/-- A request that inherits a socket waits for the client. -/
theorem channel_inherit (old : Slot) : (old.inherit .zero).channel = ⟨false, old.fd⟩ := rfl

end Slot

namespace SelectLoop

/-! ## The invariant -/

/-- A request that holds descriptors: it is ready, blocked or away. -/
def Live (s : SelectLoop) (lists : RequestList → List ReqAddr) (r : ReqAddr) : Prop :=
  r ∈ lists .ready ∨ r ∈ lists .block ∨ r ∈ s.away

/-- The lists hold known requests, none of which is away. What the requests hold is open, no two of
them hold the same descriptor, and each waits for one that it holds. -/
structure Sound (s : SelectLoop) (lists : RequestList → List ReqAddr) : Prop where
  /-- The queues have these lists. -/
  linked : s.queues.Lists lists
  /-- The listed requests are known. -/
  known : ∀ k, ∀ r ∈ lists k, r < s.requestCount
  /-- A request that is away is known and on no list. -/
  away : ∀ r ∈ s.away, r < s.requestCount ∧ ∀ k, r ∉ lists k
  /-- It is away once. -/
  nodup : s.away.Nodup
  /-- What a request holds is open. -/
  opened : ∀ r, s.Live lists r → ∀ fd ∈ (s.slots r).held, fd ∈ s.descriptors
  /-- Two requests hold different descriptors. -/
  apart : ∀ r r', s.Live lists r → s.Live lists r' → r ≠ r' →
    ∀ fd ∈ (s.slots r).held, fd ∉ (s.slots r').held
  /-- A request waits for one that it holds. -/
  waits : ∀ r, s.Live lists r → (s.slots r).channel.fd ∈ (s.slots r).held

/-- `select` looks at the channel of the request. -/
def Watched (s : SelectLoop) (r : ReqAddr) : Prop :=
  s.fdset (s.slots r).channel = true ∧ ((s.slots r).channel.fd : Int) ≤ s.maxFd

variable {s s' : SelectLoop} {lists lists' : RequestList → List ReqAddr} {r : ReqAddr}

/-- Two requests wait for different channels. -/
theorem Sound.channel_ne (h : s.Sound lists) {x y : ReqAddr} (live : s.Live lists x)
    (live' : s.Live lists y) (other : x ≠ y) :
    (s.slots x).channel ≠ (s.slots y).channel := by
  intro same
  apply h.apart x y live live' other _ (h.waits x live)
  rw [same]
  exact h.waits y live'

/-- The number of a request that is on a list is below the count. -/
theorem Sound.live_lt (h : s.Sound lists) (live : s.Live lists r) : r < s.requestCount := by
  rcases live with ready | block | away
  · exact h.known _ r ready
  · exact h.known _ r block
  · exact (h.away r away).1

/-- A list has no more members than there are requests. -/
theorem Sound.length_le (h : s.Sound lists) (k : RequestList) :
    (lists k).length ≤ s.requestCount := by
  have nodup := (h.linked.linked k).chain.nodup
  have inside : (lists k).toFinset ⊆ Finset.range s.requestCount := by
    intro x mem
    exact Finset.mem_range.mpr (h.known k x (List.mem_toFinset.mp mem))
  have count := Finset.card_le_card inside
  rw [List.toFinset_card_of_nodup nodup, Finset.card_range] at count
  exact count

/-- The lists change, but nobody becomes live. -/
theorem Sound.relist (h : s.Sound lists) {queues : Queues RequestList ReqAddr}
    (listed : queues.Lists lists') (old : ∀ k, ∀ x ∈ lists' k, ∃ k', x ∈ lists k')
    (live : ∀ x, { s with queues }.Live lists' x → s.Live lists x) :
    { s with queues }.Sound lists' where
  linked := listed
  known k x mem := by
    obtain ⟨k', before⟩ := old k x mem
    exact h.known k' x before
  away x mem := by
    refine ⟨(h.away x mem).1, fun k listed => ?_⟩
    obtain ⟨k', before⟩ := old k x listed
    exact (h.away x mem).2 k' before
  nodup := h.nodup
  opened x alive := h.opened x (live x alive)
  apart x y alive alive' := h.apart x y (live x alive) (live y alive')
  waits x alive := h.waits x (live x alive)

/-- The request that is written. -/
theorem slots_modify_self (r : ReqAddr) (f : Slot → Slot) :
    (s.modify r f).slots r = f (s.slots r) :=
  Function.update_self ..

/-- The other requests. -/
theorem slots_modify_of_ne {x : ReqAddr} (other : x ≠ r) (f : Slot → Slot) :
    (s.modify r f).slots x = s.slots x :=
  Function.update_of_ne other ..

/-- A request gets another status, but keeps its descriptors. -/
theorem Sound.mark (h : s.Sound lists) (r : ReqAddr) {f : Slot → Slot}
    (held : (f (s.slots r)).held = (s.slots r).held)
    (waits : (f (s.slots r)).channel.fd ∈ (s.slots r).held) : (s.modify r f).Sound lists := by
  have same : ∀ x, ((s.modify r f).slots x).held = (s.slots x).held := by
    intro x
    by_cases here : x = r
    · rw [here, slots_modify_self, held]
    · rw [slots_modify_of_ne here]
  refine ⟨h.linked, h.known, h.away, h.nodup, ?_, ?_, ?_⟩
  · intro x live
    rw [same]
    exact h.opened x live
  · intro x y live live'
    rw [same, same]
    exact h.apart x y live live'
  · intro x live
    rw [same]
    by_cases here : x = r
    · rw [here, slots_modify_self]
      exact waits
    · rw [slots_modify_of_ne here]
      exact h.waits x live

/-- A request ends. -/
theorem Sound.finish (h : s.Sound lists) (r : ReqAddr) {status : Status}
    (ended : status = .dead ∨ status = .done) {output : Slot → Bool} :
    (s.modify r fun slot => { slot with status, output := output slot }).Sound lists := by
  apply h.mark r rfl
  rw [Slot.channel_fd_of_end _ ended]
  exact Slot.fd_mem_held _

/-- The descriptor sets and the counts do not matter to the lists. -/
theorem Sound.frame (h : s.Sound lists) (fdset : Channel → Bool) (maxFd currentTime : Int)
    (pendingRequests : Bool) (totalConnections : Int) :
    { s with fdset, maxFd, currentTime, pendingRequests, totalConnections }.Sound lists :=
  ⟨h.linked, h.known, h.away, h.nodup, h.opened, h.apart, h.waits⟩

/-! ## Moves -/

/-- A request moves between `request_ready` and `request_block`. -/
theorem Sound.move (h : s.Sound lists) {k k' : RequestList} (other : k' ≠ k)
    (source : k = .ready ∨ k = .block) (mem : r ∈ lists k) :
    { s with queues := (s.queues.dequeue k r).enqueue k' r }.Sound
      (Function.update (Function.update lists k ((lists k).erase r)) k' (r :: lists k')) := by
  have here : s.Live lists r := by
    rcases source with rfl | rfl
    · exact .inl mem
    · exact .inr (.inl mem)
  have members : ∀ j, ∀ x ∈ Function.update (Function.update lists k ((lists k).erase r)) k'
      (r :: lists k') j, x = r ∨ x ∈ lists j := by
    intro j x inside
    by_cases target : j = k'
    · rw [target, Function.update_self] at inside
      rcases List.mem_cons.mp inside with same | before
      · exact .inl same
      · rw [target]
        exact .inr before
    · rw [Function.update_of_ne target] at inside
      by_cases from_ : j = k
      · rw [from_, Function.update_self] at inside
        rw [from_]
        exact .inr (List.mem_of_mem_erase inside)
      · rw [Function.update_of_ne from_] at inside
        exact .inr inside
  apply h.relist (h.linked.move other mem)
  · intro j x inside
    rcases members j x inside with rfl | before
    · exact ⟨k, mem⟩
    · exact ⟨j, before⟩
  · intro x live
    rcases live with ready | block | away
    · rcases members .ready x ready with rfl | before
      · exact here
      · exact .inl before
    · rcases members .block x block with rfl | before
      · exact here
      · exact .inr (.inl before)
    · exact .inr (.inr away)

/-- A request leaves `request_ready` and is on no list. -/
theorem Sound.leave (h : s.Sound lists) (mem : r ∈ lists .ready) :
    { s with queues := s.queues.dequeue .ready r }.Sound
      (Function.update lists .ready ((lists .ready).erase r)) := by
  have members : ∀ j, ∀ x ∈ Function.update lists .ready ((lists .ready).erase r) j,
      x ∈ lists j := by
    intro j x inside
    by_cases here : j = .ready
    · rw [here, Function.update_self] at inside
      rw [here]
      exact List.mem_of_mem_erase inside
    · rw [Function.update_of_ne here] at inside
      exact inside
  apply h.relist (h.linked.dequeue mem)
  · exact fun j x inside => ⟨j, members j x inside⟩
  · intro x live
    rcases live with ready | block | away
    · exact .inl (members .ready x ready)
    · exact .inr (.inl (members .block x block))
    · exact .inr (.inr away)

/-- Descriptors are closed that no live request holds. -/
theorem Sound.close (h : s.Sound lists) {fds : List Nat}
    (unused : ∀ x, s.Live lists x → ∀ fd ∈ (s.slots x).held, fd ∉ fds) :
    (s.close fds).Sound lists where
  linked := h.linked
  known := h.known
  away := h.away
  nodup := h.nodup
  opened x live fd mem := by
    apply List.mem_filter.mpr
    exact ⟨h.opened x live fd mem, decide_eq_true (unused x live fd mem)⟩
  apart := h.apart
  waits := h.waits

/-- A request that is at no place is put on a list and lives from now on. -/
theorem Sound.admitted (h : s.Sound lists) {conn : ReqAddr} (free : ∀ k, conn ∉ lists k)
    (here : conn ∉ s.away) (known : conn < s.requestCount) {slot : Slot} {fds : List Nat}
    (keeps : ∀ x, s.Live lists x → ∀ fd ∈ (s.slots x).held, fd ∈ fds)
    (own : ∀ fd ∈ slot.held, fd ∈ fds)
    (apart : ∀ x, s.Live lists x → ∀ fd ∈ slot.held, fd ∉ (s.slots x).held)
    (waits : slot.channel.fd ∈ slot.held) (k : RequestList) :
    { s with
      slots := Function.update s.slots conn slot
      descriptors := fds
      queues := s.queues.enqueue k conn }.Sound (Function.update lists k (conn :: lists k)) := by
  have members : ∀ j, ∀ x ∈ Function.update lists k (conn :: lists k) j,
      x = conn ∨ x ∈ lists j := by
    intro j x inside
    by_cases same : j = k
    · rw [same, Function.update_self] at inside
      rw [same]
      exact List.mem_cons.mp inside
    · rw [Function.update_of_ne same] at inside
      exact .inr inside
  have lives : ∀ x, x ∈ Function.update lists k (conn :: lists k) .ready ∨
      x ∈ Function.update lists k (conn :: lists k) .block ∨ x ∈ s.away →
        x = conn ∨ s.Live lists x := by
    intro x live
    rcases live with ready | block | away
    · exact (members .ready x ready).imp_right .inl
    · exact (members .block x block).imp_right fun before => .inr (.inl before)
    · exact .inr (.inr (.inr away))
  have strange : ∀ x, s.Live lists x → x ≠ conn := by
    rintro x live rfl
    rcases live with ready | block | away
    · exact free _ ready
    · exact free _ block
    · exact here away
  refine ⟨h.linked.enqueue k free, ?_, ?_, h.nodup, ?_, ?_, ?_⟩
  · intro j x inside
    rcases members j x inside with rfl | before
    · exact known
    · exact h.known j x before
  · intro x away
    refine ⟨(h.away x away).1, fun j inside => ?_⟩
    rcases members j x inside with rfl | before
    · exact here away
    · exact (h.away x away).2 j before
  · intro x live fd mem
    dsimp only at mem ⊢
    rcases lives x live with rfl | before
    · rw [Function.update_self] at mem
      exact own fd mem
    · rw [Function.update_of_ne (strange x before)] at mem
      exact keeps x before fd mem
  · intro x y live live' other fd mem
    dsimp only at mem ⊢
    rcases lives x live with rfl | before
    · rw [Function.update_self] at mem
      rcases lives y live' with same | before'
      · exact absurd same.symm other
      · rw [Function.update_of_ne (strange y before')]
        exact apart y before' fd mem
    · rw [Function.update_of_ne (strange x before)] at mem
      rcases lives y live' with rfl | before'
      · rw [Function.update_self]
        exact fun inside => apart x before fd inside mem
      · rw [Function.update_of_ne (strange y before')]
        exact h.apart x y before before' other fd mem
  · intro x live
    dsimp only
    rcases lives x live with rfl | before
    · rw [Function.update_self]
      exact waits
    · rw [Function.update_of_ne (strange x before)]
      exact h.waits x before

/-- A request that is at no place is put on `request_free`. -/
theorem Sound.park (h : s.Sound lists) (free : ∀ k, r ∉ lists k) (here : r ∉ s.away)
    (known : r < s.requestCount) :
    { s with queues := s.queues.enqueue .free r }.Sound
      (Function.update lists .free (r :: lists .free)) := by
  have members : ∀ j, ∀ x ∈ Function.update lists .free (r :: lists .free) j,
      x = r ∨ x ∈ lists j := by
    intro j x inside
    by_cases same : j = .free
    · rw [same, Function.update_self] at inside
      rw [same]
      exact List.mem_cons.mp inside
    · rw [Function.update_of_ne same] at inside
      exact .inr inside
  refine ⟨h.linked.enqueue .free free, ?_, ?_, h.nodup, h.opened, h.apart, h.waits⟩
  · intro j x inside
    rcases members j x inside with rfl | before
    · exact known
    · exact h.known j x before
  · intro x away
    refine ⟨(h.away x away).1, fun j inside => ?_⟩
    rcases members j x inside with rfl | before
    · exact here away
    · exact (h.away x away).2 j before

/-! ## `new_request` -/

/-- What `new_request` gives: a request at no place, with nothing in it; all else stays. -/
structure Gives (s : SelectLoop) (lists : RequestList → List ReqAddr) (conn : ReqAddr)
    (s' : SelectLoop) (lists' : RequestList → List ReqAddr) : Prop where
  /-- The loop stays sound. -/
  sound : s'.Sound lists'
  /-- The ready requests stay. -/
  ready : lists' .ready = lists .ready
  /-- So do the blocked ones. -/
  block : lists' .block = lists .block
  /-- The free list does not grow. -/
  free : ∀ x ∈ lists' .free, x ∈ lists .free
  /-- The request is on no list. -/
  nowhere : ∀ k, conn ∉ lists' k
  /-- It is not away. -/
  here : conn ∉ s'.away
  /-- It is known. -/
  known : conn < s'.requestCount
  /-- Nothing is in it. -/
  slot : s'.slots conn = .zero
  /-- The other requests stay. -/
  slots : ∀ x, s.Live lists x → s'.slots x = s.slots x
  /-- Those that are away stay. -/
  away : s'.away = s.away
  /-- The sets stay. -/
  fdset : s'.fdset = s.fdset
  /-- The greatest descriptor stays. -/
  maxFd : s'.maxFd = s.maxFd
  /-- The open descriptors stay. -/
  descriptors : s'.descriptors = s.descriptors
  /-- No request is forgotten. -/
  count : s.requestCount ≤ s'.requestCount
  /-- It is none of those that are on no list. -/
  other : ∀ x < s.requestCount, (∀ k, x ∉ lists k) → x ≠ conn

/-- Who lives behind `new_request` lived before. -/
theorem Gives.alive {conn x : ReqAddr} (gives : Gives s lists conn s' lists')
    (live : s'.Live lists' x) : s.Live lists x := by
  rcases live with ready | block | away
  · exact .inl (gives.ready ▸ ready)
  · exact .inr (.inl (gives.block ▸ block))
  · exact .inr (.inr (gives.away ▸ away))

/-- `new_request` takes a free request or a new one. -/
theorem Sound.newRequest (h : s.Sound lists) {malloc : Bool} {conn : ReqAddr}
    (given : s.newRequest malloc = some (conn, s')) : ∃ lists', Gives s lists conn s' lists' := by
  unfold SelectLoop.newRequest at given
  split at given
  · rename_i r head
    cases given
    have front := (h.linked.linked .free).chain.head_eq
    rw [head] at front
    obtain ⟨tail, split⟩ := List.head?_eq_some_iff.mp front.symm
    have mem : conn ∈ lists .free := by
      rw [split]
      exact List.mem_cons_self
    have others : ∀ x, s.Live lists x → x ≠ conn := by
      rintro x live rfl
      rcases live with ready | block | away
      · exact h.linked.apart _ _ (by decide) x ready mem
      · exact h.linked.apart _ _ (by decide) x block mem
      · exact (h.away x away).2 _ mem
    refine ⟨Function.update lists .free ((lists .free).erase conn), ?_⟩
    have alive : ∀ x, Live { s with
        queues := s.queues.dequeue .free conn
        slots := Function.update s.slots conn .zero }
        (Function.update lists .free ((lists .free).erase conn)) x → s.Live lists x := fun x => id
    have slots : ∀ x, s.Live lists x → Function.update s.slots conn .zero x = s.slots x :=
      fun x live => Function.update_of_ne (others x live) _ _
    have members : ∀ k, ∀ x ∈ Function.update lists .free ((lists .free).erase conn) k,
        x ∈ lists k := by
      intro k x inside
      by_cases same : k = .free
      · rw [same, Function.update_self] at inside
        rw [same]
        exact List.mem_of_mem_erase inside
      · rw [Function.update_of_ne same] at inside
        exact inside
    refine ⟨⟨h.linked.dequeue mem, ?_, ?_, h.nodup, ?_, ?_, ?_⟩, rfl, rfl,
      members .free, h.linked.not_mem_dequeue mem, ?_, h.known _ _ mem, Function.update_self ..,
      slots, rfl, rfl, rfl, rfl, Nat.le_refl _, ?_⟩
    · exact fun k x inside => h.known k x (members k x inside)
    · exact fun x away => ⟨(h.away x away).1, fun k inside => (h.away x away).2 k (members k x inside)⟩
    · intro x live
      dsimp only
      rw [slots x (alive x live)]
      exact h.opened x (alive x live)
    · intro x y live live'
      dsimp only
      rw [slots x (alive x live), slots y (alive y live')]
      exact h.apart x y (alive x live) (alive y live')
    · intro x live
      dsimp only
      rw [slots x (alive x live)]
      exact h.waits x (alive x live)
    · exact fun away => (h.away conn away).2 _ mem
    · rintro x - nowhere rfl
      exact nowhere _ mem
  · split at given
    · cases given
    · cases given
      have others : ∀ x, s.Live lists x → x ≠ s.requestCount :=
        fun x live => Nat.ne_of_lt (h.live_lt live)
      have slots : ∀ x, s.Live lists x →
          Function.update s.slots s.requestCount .zero x = s.slots x :=
        fun x live => Function.update_of_ne (others x live) _ _
      refine ⟨lists, ⟨h.linked, ?_, ?_, h.nodup, ?_, ?_, ?_⟩, rfl, rfl, fun x => id, ?_, ?_,
        Nat.lt_succ_self _, Function.update_self .., slots, rfl, rfl, rfl, rfl, Nat.le_succ _,
        fun x below _ => Nat.ne_of_lt below⟩
      · exact fun k x inside => Nat.lt_succ_of_lt (h.known k x inside)
      · exact fun x away => ⟨Nat.lt_succ_of_lt (h.away x away).1, (h.away x away).2⟩
      · intro x live
        dsimp only
        rw [slots x live]
        exact h.opened x live
      · intro x y live live'
        dsimp only
        rw [slots x live, slots y live']
        exact h.apart x y live live'
      · intro x live
        dsimp only
        rw [slots x live]
        exact h.waits x live
      · exact fun k inside => absurd (h.known k _ inside) (Nat.lt_irrefl _)
      · exact fun away => absurd (h.away _ away).1 (Nat.lt_irrefl _)

end SelectLoop
end BoaIpcam.Select
