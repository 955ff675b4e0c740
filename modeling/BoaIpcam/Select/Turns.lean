import BoaIpcam.Select.Waits

/-!
# The turns

Whatever a turn of `process_requests` does, the requests on `request_block` stay there as they are
and are still watched, and those that come to them are watched too. A walk along `request_ready`
gives each request that was on it one turn.
-/
namespace BoaIpcam.Select.SelectLoop

open LinkedList

variable {config : Config} {s s' s'' : SelectLoop}
  {lists lists' lists'' : RequestList → List ReqAddr} {r : ReqAddr}

/-! ## Blocked requests -/

/-- What happens to blocked requests while others have turns. -/
structure Grows (s : SelectLoop) (lists : RequestList → List ReqAddr) (s' : SelectLoop)
    (lists' : RequestList → List ReqAddr) : Prop where
  /-- A blocked request stays as it is. -/
  stays : ∀ x ∈ lists .block, x ∈ lists' .block ∧ s'.slots x = s.slots x
  /-- A newly blocked one is watched. -/
  watched : ∀ x ∈ lists' .block, x ∉ lists .block → s'.Watched x
  /-- No descriptor is taken out. -/
  sets : ∀ channel, s.fdset channel = true → s'.fdset channel = true
  /-- The greatest descriptor does not fall. -/
  maxFd : s.maxFd ≤ s'.maxFd

/-- A watched request stays watched. -/
theorem Grows.keep (h : Grows s lists s' lists') {x : ReqAddr} (blocked : x ∈ lists .block)
    (watched : s.Watched x) : s'.Watched x := by
  have same := (h.stays x blocked).2
  rw [Watched, same]
  exact ⟨h.sets _ watched.1, watched.2.trans h.maxFd⟩

/-- One thing after the other. -/
theorem Grows.trans (h : Grows s lists s' lists') (h' : Grows s' lists' s'' lists'') :
    Grows s lists s'' lists'' where
  stays x blocked := by
    have first := h.stays x blocked
    have second := h'.stays x first.1
    exact ⟨second.1, second.2.trans first.2⟩
  watched x blocked new := by
    by_cases middle : x ∈ lists' .block
    · exact h'.keep middle (h.watched x middle new)
    · exact h'.watched x blocked middle
  sets channel set := h'.sets channel (h.sets channel set)
  maxFd := h.maxFd.trans h'.maxFd

/-- Nobody is blocked or unblocked, no blocked request is written, and the sets are the same. -/
theorem Grows.of_same (block : lists' .block = lists .block)
    (slots : ∀ x ∈ lists .block, s'.slots x = s.slots x) (fdset : s'.fdset = s.fdset)
    (maxFd : s'.maxFd = s.maxFd) : Grows s lists s' lists' where
  stays x blocked := ⟨by rw [block]; exact blocked, slots x blocked⟩
  watched x blocked new := absurd (block ▸ blocked) new
  sets channel set := by
    rw [fdset]
    exact set
  maxFd := le_of_eq maxFd.symm

/-- A request on another list is not blocked. -/
theorem Sound.not_blocked (h : s.Sound lists) (mem : r ∈ lists .ready) {x : ReqAddr}
    (blocked : x ∈ lists .block) : x ≠ r := by
  rintro rfl
  exact h.linked.apart _ _ (by decide) x mem blocked

/-- The others hold no descriptor of a request that leaves `request_ready`. -/
theorem Sound.apart_others (h : s.Sound lists) (mem : r ∈ lists .ready) {x : ReqAddr}
    (live : x ∈ (lists .ready).erase r ∨ x ∈ lists .block ∨ x ∈ s.away) :
    ∀ fd ∈ (s.slots x).held, fd ∉ (s.slots r).held := by
  rcases live with ready | block | away
  · have other : x ≠ r := by
      rintro rfl
      exact (h.linked.linked .ready).chain.nodup.not_mem_erase ready
    exact h.apart x r (.inl (List.mem_of_mem_erase ready)) (.inl mem) other
  · exact h.apart x r (.inr (.inl block)) (.inl mem) (h.not_blocked mem block)
  · have other : x ≠ r := by
      rintro rfl
      exact (h.away x away).2 _ mem
    exact h.apart x r (.inr (.inr away)) (.inl mem) other

/-- A request comes to the others and is watched. -/
theorem Grows.of_watch {channel : Channel} (stays : ∀ x ∈ lists .block, x ∈ lists' .block ∧
      s'.slots x = s.slots x)
    (new : ∀ x ∈ lists' .block, x ∈ lists .block ∨ (s'.slots x).channel = channel)
    (fdset : s'.fdset = Function.update s.fdset channel true)
    (maxFd : s'.maxFd = max s.maxFd channel.fd) : Grows s lists s' lists' where
  stays := stays
  watched x blocked other := by
    have same := (new x blocked).resolve_left other
    rw [Watched, same, fdset, maxFd]
    exact ⟨Function.update_self .., le_max_right _ _⟩
  sets c set := by
    rw [fdset]
    by_cases here : c = channel
    · rw [here, Function.update_self]
    · rw [Function.update_of_ne here]
      exact set
  maxFd := by
    rw [maxFd]
    exact le_max_left _ _

/-! ## `block_request` -/

/-- `block_request` watches the request. -/
theorem Sound.blockRequest (h : s.Sound lists) (mem : r ∈ lists .ready) :
    (s.blockRequest r).Sound
        (Function.update (Function.update lists .ready ((lists .ready).erase r)) .block
          (r :: lists .block)) ∧
      Grows s lists (s.blockRequest r)
        (Function.update (Function.update lists .ready ((lists .ready).erase r)) .block
          (r :: lists .block)) := by
  have moved := h.move (by decide : RequestList.block ≠ .ready) (.inl rfl) mem
  refine ⟨moved.frame _ _ _ _ _, ?_⟩
  apply @Grows.of_watch _ _ _ _ (s.slots r).channel
  · intro x blocked
    rw [Function.update_self]
    exact ⟨List.mem_cons_of_mem _ blocked, rfl⟩
  · intro x blocked
    rw [Function.update_self] at blocked
    rcases List.mem_cons.mp blocked with rfl | before
    · exact .inr rfl
    · exact .inl before
  · rfl
  · rfl

/-! ## `free_request` -/

/-- The end of `free_request` for a request whose socket is closed. -/
theorem Sound.retire (h : s.Sound lists) (mem : r ∈ lists .ready) :
    ({ s with queues := s.queues.dequeue RequestList.ready r }.retire r (s.slots r)).Sound
        (Function.update (Function.update lists .ready ((lists .ready).erase r)) .free
          (r :: lists .free)) := by
  have moved := h.move (by decide : RequestList.free ≠ .ready) (.inl rfl) mem
  have unused : ∀ x, Live { s with
      queues := (s.queues.dequeue RequestList.ready r).enqueue RequestList.free r }
      (Function.update (Function.update lists .ready ((lists .ready).erase r)) .free
        (r :: lists .free)) x → ∀ fd ∈ (s.slots x).held, fd ∉ (s.slots r).held :=
    fun x live => h.apart_others mem live
  exact (moved.close unused).frame _ _ _ _ _

/-- The end of `free_request` for a request whose socket is kept. -/
theorem Sound.renew (h : s.Sound lists) (free : ∀ k, r ∉ lists k) (here : r ∉ s.away)
    (known : r < s.requestCount) {slot : Slot} {malloc : Bool} {conn : ReqAddr}
    (apart : ∀ x, s.Live lists x → ∀ fd ∈ (s.slots x).held, fd ∉ slot.held)
    (given : s.newRequest malloc = some (conn, s')) :
    ∃ lists', Sound { s'.renew slot conn with
        queues := (s'.renew slot conn).queues.enqueue .free r } lists' ∧
      Grows s lists { s'.renew slot conn with
        queues := (s'.renew slot conn).queues.enqueue .free r } lists' ∧
      lists' .ready = lists .ready := by
  obtain ⟨lists₁, gives⟩ := h.newRequest given
  have strange : ∀ k, r ∉ lists₁ k := by
    intro k
    cases k with
    | ready =>
      rw [gives.ready]
      exact free _
    | block =>
      rw [gives.block]
      exact free _
    | free => exact fun mem => free _ (gives.free r mem)
  have other : r ≠ conn := gives.other r known free
  have closed : (s'.close slot.held).Sound lists₁ := by
    apply gives.sound.close
    intro x live
    rw [gives.slots x (gives.alive live)]
    exact apart x (gives.alive live)
  have new : (s'.slots conn) = .zero := gives.slot
  have admitted : (s'.renew slot conn).Sound
      (Function.update lists₁ .block (conn :: lists₁ .block)) := by
    have put := @Sound.admitted _ _ closed conn gives.nowhere gives.here gives.known
      (slot.inherit (s'.slots conn)) (slot.fd :: (s'.close slot.held).descriptors) ?_ ?_ ?_ ?_ .block
    · exact put.frame _ _ _ _ _
    · exact fun x live fd mem => List.mem_cons_of_mem _ (closed.opened x live fd mem)
    · rw [new, Slot.held_inherit]
      intro fd mem
      rw [List.mem_singleton.mp mem]
      exact List.mem_cons_self
    · rw [new, Slot.held_inherit]
      intro x live fd mem inside
      rw [List.mem_singleton.mp mem] at inside
      have inside : slot.fd ∈ (s'.slots x).held := inside
      rw [gives.slots x (gives.alive live)] at inside
      exact apart x (gives.alive live) _ inside (Slot.fd_mem_held slot)
    · rw [new, Slot.held_inherit, Slot.channel_inherit]
      exact List.mem_singleton_self _
  have unlisted : ∀ k, r ∉ Function.update lists₁ .block (conn :: lists₁ .block) k := by
    intro k mem
    by_cases same : k = .block
    · rw [same, Function.update_self] at mem
      rcases List.mem_cons.mp mem with same | before
      · exact other same
      · exact strange _ before
    · rw [Function.update_of_ne same] at mem
      exact strange k mem
  have unaway : r ∉ (s'.renew slot conn).away := by
    have same : (s'.renew slot conn).away = s.away := gives.away
    rw [same]
    exact here
  have below : r < (s'.renew slot conn).requestCount := Nat.lt_of_lt_of_le known gives.count
  refine ⟨_, admitted.park unlisted unaway below, ?_, gives.ready⟩
  have blocked : ∀ x ∈ lists .block, x ≠ conn := by
    rintro x mem rfl
    rw [← gives.block] at mem
    exact gives.nowhere _ mem
  apply @Grows.of_watch _ _ _ _ ⟨false, slot.fd⟩
  · intro x mem
    constructor
    · show x ∈ conn :: lists₁ .block
      rw [gives.block]
      exact List.mem_cons_of_mem _ mem
    · show Function.update s'.slots conn _ x = s.slots x
      rw [Function.update_of_ne (blocked x mem)]
      exact gives.slots x (.inr (.inl mem))
  · intro x mem
    have mem : x ∈ conn :: lists₁ .block := mem
    rcases List.mem_cons.mp mem with rfl | before
    · right
      show (Function.update s'.slots x _ x).channel = _
      rw [Function.update_self, new]
      exact Slot.channel_inherit slot
    · left
      rw [← gives.block]
      exact before
  · show Function.update s'.fdset _ true = _
    rw [gives.fdset]
  · show max s'.maxFd _ = _
    rw [gives.maxFd]

/-- What `free_request` leaves: a request with output that is not dead stays; otherwise it leaves
`request_ready`. -/
theorem Sound.freeRequest (h : s.Sound lists) (mem : r ∈ lists .ready) (freed : Freed) :
    ∃ lists', (s.freeRequest r freed).Sound lists' ∧ Grows s lists (s.freeRequest r freed) lists' ∧
      (lists' .ready = lists .ready ∨ lists' .ready = (lists .ready).erase r) := by
  unfold SelectLoop.freeRequest
  split
  · refine ⟨lists, h.finish r (.inr rfl), ?_, .inl rfl⟩
    exact .of_same rfl (fun x blocked => slots_modify_of_ne (h.not_blocked mem blocked) _) rfl rfl
  · have retired : ∃ lists', ({ s with queues := s.queues.dequeue .ready r }.retire r
        (s.slots r)).Sound lists' ∧
        Grows s lists ({ s with queues := s.queues.dequeue .ready r }.retire r (s.slots r)) lists' ∧
        (lists' .ready = lists .ready ∨ lists' .ready = (lists .ready).erase r) :=
      ⟨_, h.retire mem, .of_same rfl (fun _ _ => rfl) rfl rfl, .inr rfl⟩
    dsimp only
    split
    · split
      · exact retired
      · rename_i conn s' given
        have left := h.leave mem
        have apart : ∀ x, Live { s with queues := s.queues.dequeue .ready r }
            (Function.update lists .ready ((lists .ready).erase r)) x →
              ∀ fd ∈ (s.slots x).held, fd ∉ (s.slots r).held :=
          fun x live => h.apart_others mem live
        have gone := h.linked.not_mem_dequeue mem
        have unaway : r ∉ s.away := fun away => (h.away r away).2 _ mem
        obtain ⟨lists', sound, grows, ready⟩ :=
          left.renew gone unaway (h.known _ r mem) apart given
        refine ⟨lists', sound, ?_, .inr (ready.trans (Function.update_self ..))⟩
        exact ⟨grows.stays, grows.watched, grows.sets, grows.maxFd⟩
    · exact retired

/-! ## `get_request` -/

/-- `get_request` puts a connection in front of `request_ready`, if there is one. -/
theorem Sound.getRequest (h : s.Sound lists) {accept : Accept}
    (done : s.getRequest config accept = .ok s') :
    ∃ lists' front, s'.Sound lists' ∧ Grows s lists s' lists' ∧
      lists' .ready = front ++ lists .ready := by
  have nothing : ∀ pendingRequests, ∃ lists' front,
      { s with pendingRequests }.Sound lists' ∧ Grows s lists { s with pendingRequests } lists' ∧
      lists' .ready = front ++ lists .ready :=
    fun _ => ⟨lists, [], h.frame _ _ _ _ _, .of_same rfl (fun _ _ => rfl) rfl rfl, rfl⟩
  unfold SelectLoop.getRequest at done
  split at done
  · unfold getSockRequest at done
    split at done
    · cases done
      exact nothing _
    · cases done
      exact nothing s.pendingRequests
    · rename_i fd malloc output
      split at done
      · cases done
      rename_i fresh
      split at done
      · cases done
        exact nothing s.pendingRequests
      split at done
      · cases done
        exact nothing s.pendingRequests
      · rename_i conn s₁ given
        obtain ⟨lists₁, gives⟩ := h.newRequest given
        cases done
        have none : fd ∉ s₁.descriptors := by
          rw [gives.descriptors]
          exact fresh
        refine ⟨Function.update lists₁ .ready (conn :: lists₁ .ready), [conn], ?_, ?_, ?_⟩
        · have put := @Sound.admitted _ _ gives.sound conn gives.nowhere gives.here gives.known
            ((s₁.slots conn).connect config fd output s₁.currentTime) (fd :: s₁.descriptors)
            ?_ ?_ ?_ ?_ .ready
          · exact put.frame _ _ _ _ _
          · exact fun x live fd mem => List.mem_cons_of_mem _ (gives.sound.opened x live fd mem)
          · rw [gives.slot, Slot.held_connect]
            exact fun x mem => List.mem_cons.mpr (.inl (List.mem_singleton.mp mem))
          · rw [gives.slot, Slot.held_connect]
            intro x live other mem inside
            rw [List.mem_singleton.mp mem] at inside
            exact none (gives.sound.opened x live _ inside)
          · rw [gives.slot, Slot.held_connect, Slot.channel_connect]
            exact List.mem_singleton_self _
        · refine .of_same gives.block (fun x blocked => ?_) gives.fdset gives.maxFd
          have other : x ≠ conn := by
            rintro rfl
            rw [← gives.block] at blocked
            exact gives.nowhere _ blocked
          exact (slots_modify_of_ne other _).trans (gives.slots x (.inr (.inl blocked)))
        · rw [Function.update_self, gives.ready]
          rfl
  · cases done
    exact nothing s.pendingRequests

/-! ## A turn -/

/-- A handler keeps the invariant. -/
theorem Sound.handle (h : s.Sound lists) (mem : r ∈ lists .ready) {turn : Turn}
    (done : s.handle r turn = .ok s') :
    s'.Sound lists ∧ Grows s lists s' lists ∧ s'.queues = s.queues := by
  unfold SelectLoop.handle at done
  dsimp only at done
  split at done
  · cases done
  rename_i fits
  cases done
  obtain ⟨fresh, waits⟩ := not_or.mp fits
  have waits := Decidable.not_not.mp waits
  have here : s.Live lists r := .inl mem
  have strange : ∀ x, s.Live lists x → x ≠ r → ∀ fd ∈ (turn.leave (s.slots r)).held,
      fd ∉ (s.slots x).held := by
    intro x live other fd new inside
    by_cases old : fd ∈ (s.slots r).held
    · exact h.apart x r live here other fd inside old
    · apply fresh
      have opened : fd ∈ (turn.leave (s.slots r)).held.filter (· ∉ (s.slots r).held) :=
        List.mem_filter.mpr ⟨new, decide_eq_true old⟩
      exact ⟨fd, opened, h.opened x live fd inside⟩
  refine ⟨⟨h.linked, h.known, h.away, h.nodup, ?_, ?_, ?_⟩, ?_, rfl⟩
  · intro x live fd inside
    by_cases same : x = r
    · rw [same, slots_modify_self] at inside
      by_cases old : fd ∈ (s.slots r).held
      · apply List.mem_append_right
        exact List.mem_filter.mpr ⟨h.opened r here fd old, decide_eq_true (.inr inside)⟩
      · apply List.mem_append_left
        exact List.mem_filter.mpr ⟨inside, decide_eq_true old⟩
    · rw [slots_modify_of_ne same] at inside
      apply List.mem_append_right
      have other := h.apart x r live here same fd inside
      exact List.mem_filter.mpr ⟨h.opened x live fd inside, decide_eq_true (.inl other)⟩
  · intro x y live live' other fd inside
    dsimp only at inside ⊢
    by_cases first : x = r
    · rw [first, slots_modify_self] at inside
      have second : y ≠ r := fun same => other (first.trans same.symm)
      rw [slots_modify_of_ne second]
      exact strange y live' second fd inside
    · rw [slots_modify_of_ne first] at inside
      by_cases second : y = r
      · rw [second, slots_modify_self]
        exact fun new => strange x live first fd new inside
      · rw [slots_modify_of_ne second]
        exact h.apart x y live live' other fd inside
  · intro x live
    dsimp only
    by_cases same : x = r
    · rw [same, slots_modify_self]
      exact waits
    · rw [slots_modify_of_ne same]
      exact h.waits x live
  · exact .of_same rfl (fun x blocked => slots_modify_of_ne (h.not_blocked mem blocked) _) rfl rfl

/-- A request goes to the thread. -/
theorem Sound.depart (h : s.Sound lists) (mem : r ∈ lists .ready) :
    { s with queues := s.queues.dequeue RequestList.ready r, away := r :: s.away }.Sound
      (Function.update lists .ready ((lists .ready).erase r)) := by
  have left := h.leave mem
  have gone := h.linked.not_mem_dequeue mem
  have alive : ∀ x, Live { s with
      queues := s.queues.dequeue RequestList.ready r, away := r :: s.away }
      (Function.update lists .ready ((lists .ready).erase r)) x → s.Live lists x := by
    intro x live
    rcases live with ready | block | away
    · have ready : x ∈ (lists .ready).erase r := ready
      exact .inl (List.mem_of_mem_erase ready)
    · exact .inr (.inl block)
    · rcases List.mem_cons.mp away with rfl | before
      · exact .inl mem
      · exact .inr (.inr before)
  refine ⟨left.linked, left.known, ?_, ?_, ?_, ?_, ?_⟩
  · intro x away
    rcases List.mem_cons.mp away with rfl | before
    · exact ⟨h.known _ x mem, gone⟩
    · exact left.away x before
  · apply List.nodup_cons.mpr
    exact ⟨fun away => (h.away r away).2 _ mem, h.nodup⟩
  · exact fun x live => h.opened x (alive x live)
  · exact fun x y live live' => h.apart x y (alive x live) (alive y live')
  · exact fun x live => h.waits x (alive x live)

/-- What a turn leaves of `request_ready`: those in front of the request may be more, and those behind
it are the same. -/
theorem Sound.place (h : s.Sound lists) {front rest : List ReqAddr}
    (ready : lists .ready = front ++ r :: rest) (turn : Turn) :
    ∃ lists' front', (s.place r turn).Sound lists' ∧ Grows s lists (s.place r turn) lists' ∧
      lists' .ready = front' ++ rest := by
  have mem : r ∈ lists .ready := by
    rw [ready]
    exact List.mem_append_right _ List.mem_cons_self
  have erased := erase_middle ready (h.linked.linked .ready).chain.nodup
  have whole : lists .ready = (front ++ [r]) ++ rest := by
    rw [ready, List.append_assoc]
    rfl
  have same : Grows s lists s lists := .of_same rfl (fun _ _ => rfl) rfl rfl
  unfold SelectLoop.place
  split
  · have blocked := h.blockRequest mem
    exact ⟨_, front, blocked.1, blocked.2, erased⟩
  · obtain ⟨lists', sound, grows, kept | gone⟩ := h.freeRequest mem turn.freed
    · exact ⟨lists', _, sound, grows, kept.trans whole⟩
    · exact ⟨lists', front, sound, grows, gone.trans erased⟩
  · exact ⟨lists, _, h, same, whole⟩
  · exact ⟨lists, _, h, same, whole⟩
  · exact ⟨_, front, h.depart mem, .of_same rfl (fun _ _ => rfl) rfl rfl, erased⟩

/-! ## `process_requests` -/

/-- What the walks along `request_ready` keep: behind the requests that still have their turn, and of
those that were blocked when the walk began. -/
def Serving (first : SelectLoop) (blocked : RequestList → List ReqAddr) (rest : List ReqAddr)
    (s : SelectLoop) : Prop :=
  ∃ lists front, s.Sound lists ∧ Grows first blocked s lists ∧ lists .ready = front ++ rest

/-- What the walk that ends streams keeps besides: the other requests stay on `request_ready`. -/
def Ending (streams : ReqAddr → Option Freed) (first : SelectLoop)
    (before : RequestList → List ReqAddr) (rest : List ReqAddr) (s : SelectLoop) : Prop :=
  ∃ lists front, s.Sound lists ∧ Grows first before s lists ∧ lists .ready = front ++ rest ∧
    ∀ x ∈ before .ready, streams x = none → x ∈ lists .ready

/-- The walk that ends streams keeps it. -/
theorem restartRound_follows (streams : ReqAddr → Option Freed) (first : SelectLoop)
    (before : RequestList → List ReqAddr) :
    Follows (restartRound streams) (Ending streams first before) := by
  rintro r rest s s' next ⟨lists, front, sound, grows, ready, others⟩ done
  have mem : r ∈ lists .ready := by
    rw [ready]
    exact List.mem_append_right _ List.mem_cons_self
  have behind : s.queues.next r = rest.head? := sound.linked.next_eq ready
  have erased := erase_middle ready (sound.linked.linked .ready).chain.nodup
  have whole : lists .ready = (front ++ [r]) ++ rest := by
    rw [ready, List.append_assoc]
    rfl
  unfold restartRound at done
  split at done
  · cases done
    exact ⟨behind, lists, _, sound, grows, whole, others⟩
  · rename_i freed given
    cases done
    obtain ⟨lists', sound', grows', kept | gone⟩ := sound.freeRequest mem freed
    · refine ⟨behind, lists', _, sound', grows.trans grows', kept.trans whole, ?_⟩
      rw [kept]
      exact others
    · refine ⟨behind, lists', front, sound', grows.trans grows', gone.trans erased, ?_⟩
      intro x old other
      have apart : x ≠ r := by
        rintro rfl
        rw [given] at other
        cases other
      rw [gone]
      exact (List.mem_erase_of_ne apart).mpr (others x old other)

/-- The walk of the turns keeps it. -/
theorem turnRound_follows (turns : ReqAddr → Turn) (first : SelectLoop)
    (blocked : RequestList → List ReqAddr) :
    Follows (turnRound config turns) (Serving first blocked) := by
  rintro r rest s s' next ⟨lists, front, sound, grows, ready⟩ done
  have mem : r ∈ lists .ready := by
    rw [ready]
    exact List.mem_append_right _ List.mem_cons_self
  unfold turnRound at done
  cases handled : s.handle r (turns r) with
  | error stop =>
    rw [handled] at done
    cases done
  | ok s₁ =>
    rw [handled] at done
    simp only [bind, Except.bind] at done
    cases accepted : s₁.getRequest config (turns r).accept with
    | error stop =>
      rw [accepted] at done
      cases done
    | ok s₂ =>
      rw [accepted] at done
      cases done
      obtain ⟨sound₁, grows₁, -⟩ := sound.handle mem handled
      obtain ⟨lists₂, more, sound₂, grows₂, ready₂⟩ := sound₁.getRequest accepted
      have split : lists₂ .ready = (more ++ front) ++ r :: rest := by
        rw [ready₂, ready, List.append_assoc]
      obtain ⟨lists₃, front', sound₃, grows₃, ready₃⟩ := sound₂.place split (turns r)
      exact ⟨sound₂.linked.next_eq split, lists₃, front', sound₃,
        grows.trans (grows₁.trans (grows₂.trans grows₃)), ready₃⟩

/-- The stream is ended in this pass because the driver is restarted. -/
def Pass.Ends (pass : Pass) (r : ReqAddr) : Prop :=
  ∃ streams ∈ pass.streams, streams r ≠ none

/-- The walk that ends streams. -/
theorem Sound.endStreams (h : s.Sound lists) {pass : Pass} (done : s.endStreams pass = .ok s') :
    ∃ lists', s'.Sound lists' ∧ Grows s lists s' lists' ∧
      ∀ x ∈ lists .ready, ¬pass.Ends x → x ∈ lists' .ready := by
  have same : Grows s lists s lists := .of_same rfl (fun _ _ => rfl) rfl rfl
  unfold SelectLoop.endStreams at done
  split at done
  · cases done
    exact ⟨lists, h, same, fun x ready _ => ready⟩
  · rename_i streams given
    have head : s.queues.head .ready = (lists .ready).head? := (h.linked.linked .ready).chain.head_eq
    rw [head] at done
    cases walked : walk (restartRound streams) .rounds (s.requestCount + 1) (lists .ready).head? s with
    | error stop =>
      rw [walked] at done
      cases done
    | ok pair =>
      obtain ⟨s₁, visited⟩ := pair
      rw [walked] at done
      cases done
      have start : Ending streams s lists (lists .ready) s :=
        ⟨lists, [], h, same, rfl, fun x ready _ => ready⟩
      obtain ⟨-, lists', front, sound, grows, -, others⟩ :=
        walk_ok (restartRound_follows streams s lists) start walked
      refine ⟨lists', sound, grows, fun x ready stays => others x ready ?_⟩
      by_contra ends
      exact stays ⟨streams, given, ends⟩

/-- A pass gives one turn to each request that is on `request_ready`, but for streams that are ended,
and none to the requests on `request_block`. -/
theorem Sound.processRequests (h : s.Sound lists) {pass : Pass} {served : List ReqAddr}
    (done : s.processRequests config pass = .ok (s', served)) :
    ∃ lists', s'.Sound lists' ∧ Grows s lists s' lists' ∧ served.Nodup ∧
      (∀ x ∈ lists .block, x ∉ served) ∧ ∀ x ∈ lists .ready, ¬pass.Ends x → x ∈ served := by
  unfold SelectLoop.processRequests at done
  cases accepted : s.getRequest config pass.accept with
  | error stop =>
    rw [accepted] at done
    cases done
  | ok s₁ =>
    rw [accepted] at done
    simp only [bind, Except.bind] at done
    cases ended : s₁.endStreams pass with
    | error stop =>
      rw [ended] at done
      cases done
    | ok s₂ =>
      rw [ended] at done
      simp only at done
      obtain ⟨lists₁, more, sound₁, grows₁, ready₁⟩ := h.getRequest accepted
      obtain ⟨lists₂, sound₂, grows₂, others⟩ := sound₁.endStreams ended
      have head : s₂.queues.head .ready = (lists₂ .ready).head? :=
        (sound₂.linked.linked .ready).chain.head_eq
      rw [head] at done
      have grows := grows₁.trans grows₂
      have start : Serving s lists (lists₂ .ready) s₂ := ⟨lists₂, [], sound₂, grows, rfl⟩
      obtain ⟨rfl, lists', front, sound, all, -⟩ :=
        walk_ok (turnRound_follows pass.turns s lists) start done
      refine ⟨lists', sound, all, (sound₂.linked.linked .ready).chain.nodup, ?_, ?_⟩
      · intro x blocked ready
        exact sound₂.linked.apart _ _ (by decide) x (grows.stays x blocked).1 ready
      · intro x ready stays
        apply others x _ stays
        rw [ready₁]
        exact List.mem_append_right _ ready

/-! ## Passes end -/

/-- `get_request` stops only at a descriptor that is open. -/
theorem getRequest_error {accept : Accept} {stop : Stop}
    (failed : s.getRequest config accept = .error stop) : stop = .descriptor := by
  unfold SelectLoop.getRequest at failed
  split at failed
  · unfold getSockRequest at failed
    split at failed
    · cases failed
    · cases failed
    · split at failed
      · cases failed
        rfl
      split at failed
      · cases failed
      split at failed <;> cases failed
  · cases failed

/-- A turn stops only at a descriptor that is open. -/
theorem turnRound_error {turns : ReqAddr → Turn} {stop : Stop}
    (failed : s.turnRound config turns r = .error stop) : stop = .descriptor := by
  unfold turnRound at failed
  cases handled : s.handle r (turns r) with
  | error other =>
    rw [handled] at failed
    cases failed
    unfold SelectLoop.handle at handled
    dsimp only at handled
    split at handled <;> cases handled
    rfl
  | ok s₁ =>
    rw [handled] at failed
    simp only [bind, Except.bind] at failed
    cases accepted : s₁.getRequest config (turns r).accept with
    | error other =>
      rw [accepted] at failed
      cases failed
      exact getRequest_error accepted
    | ok s₂ =>
      rw [accepted] at failed
      cases failed

/-- A pass ends: it stops only where the system would give a descriptor that is open. -/
theorem Sound.processRequests_error (h : s.Sound lists) {pass : Pass} {stop : Stop}
    (failed : s.processRequests config pass = .error stop) : stop = .descriptor := by
  unfold SelectLoop.processRequests at failed
  cases accepted : s.getRequest config pass.accept with
  | error other =>
    rw [accepted] at failed
    cases failed
    exact getRequest_error accepted
  | ok s₁ =>
    rw [accepted] at failed
    simp only [bind, Except.bind] at failed
    obtain ⟨lists₁, more, sound₁, -, -⟩ := h.getRequest accepted
    cases ended : s₁.endStreams pass with
    | error other =>
      unfold SelectLoop.endStreams at ended
      split at ended
      · cases ended
      · rename_i streams given
        have head : s₁.queues.head .ready = (lists₁ .ready).head? :=
          (sound₁.linked.linked .ready).chain.head_eq
        have start : Ending streams s₁ lists₁ (lists₁ .ready) s₁ :=
          ⟨lists₁, [], sound₁, .of_same rfl (fun _ _ => rfl) rfl rfl, rfl, fun x ready _ => ready⟩
        rw [head] at ended
        cases walked : walk (restartRound streams) .rounds (s₁.requestCount + 1)
            (lists₁ .ready).head? s₁ with
        | ok pair =>
          rw [walked] at ended
          cases ended
        | error other =>
          obtain ⟨x, t, bad⟩ := walk_error (restartRound_follows streams s₁ lists₁) start
            (Nat.lt_succ_of_le (sound₁.length_le .ready)) walked
          unfold restartRound at bad
          split at bad <;> cases bad
    | ok s₂ =>
      rw [ended] at failed
      simp only at failed
      obtain ⟨lists₂, sound₂, -, -⟩ := sound₁.endStreams ended
      have head : s₂.queues.head .ready = (lists₂ .ready).head? :=
        (sound₂.linked.linked .ready).chain.head_eq
      have start : Serving s₂ lists₂ (lists₂ .ready) s₂ :=
        ⟨lists₂, [], sound₂, .of_same rfl (fun _ _ => rfl) rfl rfl, rfl⟩
      rw [head] at failed
      obtain ⟨x, t, bad⟩ := walk_error (turnRound_follows pass.turns s₂ lists₂) start
        (Nat.lt_succ_of_le (sound₂.length_le .ready)) failed
      exact turnRound_error bad

end BoaIpcam.Select.SelectLoop
