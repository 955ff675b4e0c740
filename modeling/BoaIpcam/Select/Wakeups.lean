import BoaIpcam.Select.Turns

/-!
# No wake-up is lost

Whenever the loop sleeps in `select`, every request on `request_block` is watched through the
descriptor that its status waits for. When `select` returns, exactly those requests get a turn in
the next pass whose descriptor is ready or whose time is over, or all when `select` failed; the
others stay as they are and are watched again.
-/
namespace BoaIpcam.Select.SelectLoop

open LinkedList

variable {config : Config} {s s' : SelectLoop} {lists lists' : RequestList → List ReqAddr}
  {r : ReqAddr}

/-! ## `ready_request` -/

/-- `ready_request` keeps the invariant. -/
theorem Sound.readyRequest (h : s.Sound lists) (mem : r ∈ lists .block) :
    (s.readyRequest r).Sound
      (Function.update (Function.update lists .block ((lists .block).erase r)) .ready
        (r :: lists .ready)) :=
  (h.move (by decide : RequestList.ready ≠ .block) (.inr rfl) mem).frame _ _ _ _ _

/-- `ready_request` changes no other channel. -/
theorem Sound.readyRequest_fdset (h : s.Sound lists) (mem : r ∈ lists .block) {x : ReqAddr}
    (live : s.Live lists x) (other : x ≠ r) :
    (s.readyRequest r).fdset (s.slots x).channel = s.fdset (s.slots x).channel :=
  Function.update_of_ne (h.channel_ne live (.inr (.inl mem)) other) ..

/-- `BOA_FD_SET` for a request changes no other channel. -/
theorem Sound.boaFdSet_fdset (h : s.Sound lists) (mem : r ∈ lists .block) {x : ReqAddr}
    (live : s.Live lists x) (other : x ≠ r) :
    (s.boaFdSet (s.slots r).channel).fdset (s.slots x).channel = s.fdset (s.slots x).channel :=
  Function.update_of_ne (h.channel_ne live (.inr (.inl mem)) other) ..

/-! ## `fdset_update` -/

/-- The request is to be moved: its time is over, it is dead, or its channel is set. -/
def Wakes (config : Config) (s : SelectLoop) (r : ReqAddr) : Prop :=
  (s.slots r).Expired config s.currentTime ∨ (s.slots r).status = .dead ∨
    s.fdset (s.slots r).channel = true

instance (config : Config) (s : SelectLoop) (r : ReqAddr) : Decidable (Wakes config s r) :=
  inferInstanceAs (Decidable (_ ∨ _ ∨ _))

/-- What `fdset_update` is for: a request that is to be moved is ready, and another one is blocked as
before and watched. -/
structure Settled (config : Config) (first s : SelectLoop) (lists : RequestList → List ReqAddr)
    (r : ReqAddr) : Prop where
  /-- A request to be moved is ready. -/
  wakes : Wakes config first r → r ∈ lists .ready
  /-- Another one stays blocked and watched. -/
  sleeps : ¬Wakes config first r →
    r ∈ lists .block ∧ s.slots r = first.slots r ∧ s.Watched r

/-- What the walk of `fdset_update` keeps, behind the requests that it still has to look at. -/
structure Updating (config : Config) (first : SelectLoop) (before : RequestList → List ReqAddr)
    (lists : RequestList → List ReqAddr) (front rest : List ReqAddr) (s : SelectLoop) : Prop where
  /-- The loop is sound. -/
  sound : s.Sound lists
  /-- What is still blocked is in front of the rest. -/
  block : lists .block = front ++ rest
  /-- The time stays. -/
  time : s.currentTime = first.currentTime
  /-- The requests of the rest stay. -/
  slots : ∀ x ∈ rest, s.slots x = first.slots x
  /-- Their descriptors stay. -/
  fdset : ∀ x ∈ rest, s.fdset (s.slots x).channel = first.fdset (first.slots x).channel
  /-- A ready request stays ready. -/
  ready : ∀ x ∈ before .ready, x ∈ lists .ready
  /-- A blocked one was blocked before. -/
  from_ : ∀ x ∈ lists .block, x ∈ before .block
  /-- Those that were looked at are settled. -/
  settled : ∀ x ∈ before .block, x ∉ rest → Settled config first s lists x

/-- What `update` does: it moves a request that is to be moved, and watches another one. -/
theorem update_eq (config : Config) (r : ReqAddr) (s : SelectLoop) :
    s.update config r =
      if Wakes config s r then (s.expire config r).readyRequest r
      else s.boaFdSet (s.slots r).channel := by
  unfold SelectLoop.update
  dsimp only
  by_cases elapsed : (s.slots r).Expired config s.currentTime
  · have moves : Wakes config s r := .inl elapsed
    have dead : ((s.expire config r).slots r).tested = none := by
      rw [expire, if_pos elapsed, slots_modify_self, Slot.tested_eq, if_pos rfl]
    rw [if_pos moves, dead]
  · have same : s.expire config r = s := by rw [expire, if_neg elapsed]
    rw [same, Slot.tested_eq]
    by_cases dead : (s.slots r).status = .dead
    · have moves : Wakes config s r := .inr (.inl dead)
      rw [if_pos dead, if_pos moves]
    · rw [if_neg dead]
      dsimp only
      by_cases set : s.fdset (s.slots r).channel = true
      · have moves : Wakes config s r := .inr (.inr set)
        rw [if_pos set, if_pos moves]
      · have stays : ¬Wakes config s r := by
          rintro (early | gone | bit)
          · exact elapsed early
          · exact dead gone
          · exact set bit
        rw [if_neg set, if_neg stays]

/-- A request whose time is over keeps the invariant. -/
theorem Sound.expire (h : s.Sound lists) : (s.expire config r).Sound lists := by
  unfold SelectLoop.expire
  split
  · exact h.finish r (.inl rfl)
  · exact h

/-- Only the request itself expires. -/
theorem slots_expire {x : ReqAddr} (other : x ≠ r) : (s.expire config r).slots x = s.slots x := by
  unfold SelectLoop.expire
  split
  · exact slots_modify_of_ne other _
  · rfl

/-- The sets do not change when a request expires. -/
theorem expire_frame : (s.expire config r).fdset = s.fdset ∧ (s.expire config r).maxFd = s.maxFd ∧
    (s.expire config r).currentTime = s.currentTime ∧
    (s.expire config r).queues = s.queues := by
  unfold SelectLoop.expire
  split
  · exact ⟨rfl, rfl, rfl, rfl⟩
  · exact ⟨rfl, rfl, rfl, rfl⟩

/-- A round of `fdset_update`. -/
theorem updateRound_follows (config : Config) (first : SelectLoop)
    (before : RequestList → List ReqAddr) :
    Follows (updateRound config) fun rest s =>
      ∃ lists front, Updating config first before lists front rest s := by
  rintro r rest s s' next ⟨lists, front, h⟩ done
  have mem : r ∈ lists .block := by
    rw [h.block]
    exact List.mem_append_right _ List.mem_cons_self
  have nodup := (h.sound.linked.linked .block).chain.nodup
  have erased : (lists .block).erase r = front ++ rest := erase_middle h.block nodup
  have alone : ∀ x ∈ rest, x ≠ r := by
    rintro x inside rfl
    have inside : x ∈ (lists .block).erase x := by
      rw [erased]
      exact List.mem_append_right _ inside
    exact nodup.not_mem_erase inside
  have listed : ∀ x ∈ rest, x ∈ lists .block := by
    intro x inside
    rw [h.block]
    exact List.mem_append_right _ (List.mem_cons_of_mem _ inside)
  have earlier : ∀ x ∈ before .block, x ∉ rest → x ≠ r → Settled config first s lists x := by
    intro x member passed other
    apply h.settled x member
    exact fun inside => (List.mem_cons.mp inside).elim other passed
  cases done
  refine ⟨h.sound.linked.next_eq h.block, ?_⟩
  have here := h.slots r List.mem_cons_self
  have wakes : Wakes config s r ↔ Wakes config first r := by
    unfold Wakes
    rw [h.fdset r List.mem_cons_self, here, h.time]
  rw [update_eq]
  by_cases moves : Wakes config s r
  · rw [if_pos moves]
    have sound : (s.expire config r).Sound lists := h.sound.expire
    obtain ⟨sets, bound, time, queues⟩ := @expire_frame config s r
    have slots : ∀ x ≠ r, ((s.expire config r).readyRequest r).slots x = s.slots x :=
      fun x other => slots_expire other
    have fdset : ∀ x ∈ lists .block, x ≠ r → ((s.expire config r).readyRequest r).fdset
        (s.slots x).channel = s.fdset (s.slots x).channel := by
      intro x member other
      have same := sound.readyRequest_fdset mem (.inr (.inl member)) other
      rw [slots_expire other, sets] at same
      exact same
    refine ⟨_, front, sound.readyRequest mem, erased, time.trans h.time, ?_, ?_, ?_, ?_, ?_⟩
    · intro x inside
      exact (slots x (alone x inside)).trans (h.slots x (List.mem_cons_of_mem _ inside))
    · intro x inside
      rw [slots x (alone x inside), fdset x (listed x inside) (alone x inside)]
      exact h.fdset x (List.mem_cons_of_mem _ inside)
    · exact fun x member => List.mem_cons_of_mem _ (h.ready x member)
    · intro x member
      have member : x ∈ (lists .block).erase r := member
      exact h.from_ x (List.mem_of_mem_erase member)
    · intro x member passed
      by_cases same : x = r
      · rw [same]
        exact ⟨fun _ => List.mem_cons_self, fun asleep => absurd (wakes.mp moves) asleep⟩
      · have old := earlier x member passed same
        refine ⟨fun awake => List.mem_cons_of_mem _ (old.wakes awake), fun asleep => ?_⟩
        obtain ⟨blocked, kept, watched, inRange⟩ := old.sleeps asleep
        refine ⟨(List.mem_erase_of_ne same).mpr blocked, (slots x same).trans kept, ?_⟩
        rw [Watched, slots x same, fdset x blocked same]
        exact ⟨watched, inRange.trans (le_of_eq bound.symm)⟩
  · rw [if_neg moves]
    have fdset : ∀ x ∈ lists .block, x ≠ r → (s.boaFdSet (s.slots r).channel).fdset
        (s.slots x).channel = s.fdset (s.slots x).channel :=
      fun x member other => h.sound.boaFdSet_fdset mem (.inr (.inl member)) other
    have split : lists .block = (front ++ [r]) ++ rest := by
      rw [h.block, List.append_assoc]
      rfl
    refine ⟨lists, front ++ [r], h.sound.frame _ _ _ _ _, split, h.time, ?_, ?_, h.ready, h.from_,
      ?_⟩
    · exact fun x inside => h.slots x (List.mem_cons_of_mem _ inside)
    · intro x inside
      have same := fdset x (listed x inside) (alone x inside)
      exact same.trans (h.fdset x (List.mem_cons_of_mem _ inside))
    · intro x member passed
      by_cases same : x = r
      · rw [same]
        refine ⟨fun awake => absurd (wakes.mpr awake) moves, fun _ => ⟨mem, here, ?_⟩⟩
        exact ⟨Function.update_self .., le_max_right _ _⟩
      · have old := earlier x member passed same
        refine ⟨old.wakes, fun asleep => ?_⟩
        obtain ⟨blocked, kept, watched, inRange⟩ := old.sleeps asleep
        exact ⟨blocked, kept, (fdset x blocked same).trans watched, inRange.trans (le_max_left _ _)⟩

/-- `fdset_update` moves the requests that are to be moved, and the others are watched. -/
theorem Sound.fdsetUpdate (h : s.Sound lists) (done : s.fdsetUpdate config = .ok s') :
    ∃ lists', s'.Sound lists' ∧ (∀ x ∈ lists .ready, x ∈ lists' .ready) ∧
      (∀ x ∈ lists' .block, x ∈ lists .block) ∧
      ∀ x ∈ lists .block, Settled config s s' lists' x := by
  unfold SelectLoop.fdsetUpdate at done
  have head : s.queues.head .block = (lists .block).head? := (h.linked.linked .block).chain.head_eq
  rw [head] at done
  cases walked : walk (updateRound config) .rounds (s.requestCount + 1) (lists .block).head? s with
  | error stop =>
    rw [walked] at done
    cases done
  | ok pair =>
    obtain ⟨s₁, visited⟩ := pair
    rw [walked] at done
    cases done
    have start : Updating config s lists lists [] (lists .block) s :=
      ⟨h, rfl, rfl, fun _ _ => rfl, fun _ _ => rfl, fun _ => id, fun _ => id,
        fun x member passed => absurd member passed⟩
    obtain ⟨-, lists', front, end_⟩ :=
      walk_ok (updateRound_follows config s lists) ⟨lists, [], start⟩ walked
    exact ⟨lists', end_.sound, end_.ready, end_.from_,
      fun x member => end_.settled x member List.not_mem_nil⟩

/-- `fdset_update` ends. -/
theorem Sound.fdsetUpdate_ok (h : s.Sound lists) : ∃ s', s.fdsetUpdate config = .ok s' := by
  have head : s.queues.head .block = (lists .block).head? := (h.linked.linked .block).chain.head_eq
  unfold SelectLoop.fdsetUpdate
  rw [head]
  cases walked : walk (updateRound config) .rounds (s.requestCount + 1) (lists .block).head? s with
  | ok pair => exact ⟨pair.1, rfl⟩
  | error stop =>
    have start : Updating config s lists lists [] (lists .block) s :=
      ⟨h, rfl, rfl, fun _ _ => rfl, fun _ _ => rfl, fun _ => id, fun _ => id,
        fun x member passed => absurd member passed⟩
    obtain ⟨x, t, bad⟩ := walk_error (updateRound_follows config s lists) ⟨lists, [], start⟩
      (Nat.lt_succ_of_le (h.length_le .block)) walked
    cases bad

/-! ## Between two calls of `select` -/

/-- A request that comes back from the thread. -/
theorem Sound.return_ (h : s.Sound lists) (away : r ∈ s.away) :
    { s.modify r ({ · with status := .done, output := false }) with
      away := s.away.erase r
      queues := s.queues.enqueue .ready r }.Sound
        (Function.update lists .ready (r :: lists .ready)) := by
  have alive : ∀ x, { s with away := s.away.erase r }.Live lists x → s.Live lists x := by
    intro x live
    rcases live with ready | block | still
    · exact .inl ready
    · exact .inr (.inl block)
    · exact .inr (.inr (List.mem_of_mem_erase still))
  have here : s.Live lists r := .inr (.inr away)
  have gone : r ∉ s.away.erase r := h.nodup.not_mem_erase
  have without : { s with away := s.away.erase r }.Sound lists := by
    refine ⟨h.linked, h.known, ?_, h.nodup.erase r, ?_, ?_, ?_⟩
    · exact fun x still => h.away x (List.mem_of_mem_erase still)
    · exact fun x live => h.opened x (alive x live)
    · exact fun x y live live' => h.apart x y (alive x live) (alive y live')
    · exact fun x live => h.waits x (alive x live)
  apply without.admitted (h.away r away).2 gone (h.away r away).1 without.opened
  · exact h.opened r here
  · intro x live fd mem inside
    have other : x ≠ r := by
      rintro rfl
      rcases live with ready | block | still
      · exact (h.away x away).2 _ ready
      · exact (h.away x away).2 _ block
      · exact gone still
    exact h.apart x r (alive x live) here other fd inside mem
  · have same := Slot.channel_fd_of_end (s.slots r) (.inr rfl) false
    rw [same]
    exact Slot.fd_mem_held _

/-- What happens before `fdset_update`: blocked requests stay as they are, and so do the sets. -/
structure Prepared (s : SelectLoop) (lists : RequestList → List ReqAddr) (s' : SelectLoop)
    (lists' : RequestList → List ReqAddr) : Prop where
  /-- The loop stays sound. -/
  sound : s'.Sound lists'
  /-- A ready request stays ready. -/
  ready : ∀ x ∈ lists .ready, x ∈ lists' .ready
  /-- The blocked requests stay. -/
  block : lists' .block = lists .block
  /-- They stay as they are. -/
  slots : ∀ x ∈ lists .block, s'.slots x = s.slots x
  /-- The sets stay. -/
  fdset : s'.fdset = s.fdset
  /-- The time stays. -/
  time : s'.currentTime = s.currentTime

/-- The requests that come back are ready. -/
theorem Sound.collect (h : s.Sound lists) (returned : List ReqAddr) :
    ∃ lists', Prepared s lists (collect returned s) lists' := by
  induction returned generalizing s lists with
  | nil => exact ⟨lists, h, fun _ => id, rfl, fun _ _ => rfl, rfl, rfl⟩
  | cons r rest ih =>
    rw [SelectLoop.collect]
    by_cases away : r ∈ s.away
    · rw [if_pos away]
      obtain ⟨lists', next⟩ := ih (h.return_ away)
      have other : ∀ x ∈ lists .block, x ≠ r := by
        rintro x blocked rfl
        exact (h.away x away).2 _ blocked
      refine ⟨lists', next.sound, ?_, next.block, ?_, next.fdset, next.time⟩
      · intro x ready
        apply next.ready
        rw [Function.update_self]
        exact List.mem_cons_of_mem _ ready
      · intro x blocked
        exact (next.slots x blocked).trans (Function.update_of_ne (other x blocked) ..)
    · rw [if_neg away]
      exact ih h

/-- `select` returns, and the invariant holds. -/
theorem Sound.wake (h : s.Sound lists) (input : Input) : (s.wake config input).Sound lists := by
  unfold SelectLoop.wake
  dsimp only
  split
  · exact h
  · exact h.frame _ _ _ _ _

/-- What `select` says of a channel. When it does not succeed the sets are left as they are, and all
that is watched seems to be ready. -/
def Selected.Reports (selected : Selected) (channel : Channel) : Prop :=
  match selected with
  | .ready channels => channels channel = true
  | _ => True

/-- What asks for a turn when `select` has returned: the channel is reported, or the time of the
request is over. -/
def Called (config : Config) (input : Input) (s : SelectLoop) (r : ReqAddr) : Prop :=
  (s.slots r).Expired config (s.wake config input).currentTime ∨ (s.slots r).status = .dead ∨
    Selected.Reports input.selected (s.slots r).channel

/-- A watched channel is set behind `select` exactly when it is reported. -/
theorem wake_fdset (input : Input) (watched : s.Watched r) :
    (s.wake config input).fdset (s.slots r).channel = true ↔
      Selected.Reports input.selected (s.slots r).channel := by
  unfold SelectLoop.wake Selected.Reports keep
  dsimp only
  cases input.selected with
  | interrupted => simp [watched.1]
  | failed => simp [watched.1]
  | ready channels => simp [watched.1]

/-- The server socket is watched besides. -/
theorem Sound.listen (h : s.Sound lists) (terminating : Bool) :
    (s.listen config terminating).Sound lists ∧
      Grows s lists (s.listen config terminating) lists := by
  unfold SelectLoop.listen
  split
  · refine ⟨h.frame _ _ _ _ _, ?_⟩
    exact .of_watch (fun x blocked => ⟨blocked, rfl⟩) (fun x blocked => .inl blocked) rfl rfl
  · exact ⟨h, .of_same rfl (fun _ _ => rfl) rfl rfl⟩

/-- The state in which the loop sleeps. -/
def Resting (s : SelectLoop) (lists : RequestList → List ReqAddr) : Prop :=
  s.Sound lists ∧ ∀ x ∈ lists .block, s.Watched x

/-- Only the time and the sets are written when `select` returns. -/
theorem wake_frame (input : Input) : (s.wake config input).slots = s.slots := by
  unfold SelectLoop.wake
  dsimp only
  split
  · rfl
  · rfl

/-- What the loop finds when it looks at the blocked requests. -/
theorem Resting.wakes_iff (h : s.Resting lists) {input : Input} {s₀ : SelectLoop}
    {lists₀ : RequestList → List ReqAddr}
    (prepared : Prepared (s.wake config input) lists s₀ lists₀) {x : ReqAddr}
    (blocked : x ∈ lists .block) :
    Wakes config { s₀ with maxFd := -1 } x ↔ Called config input s x := by
  have slot : s₀.slots x = s.slots x := by
    rw [prepared.slots x blocked, wake_frame]
  have reported := @wake_fdset config s x input (h.2 x blocked)
  unfold Wakes Called
  dsimp only
  rw [slot, prepared.time, prepared.fdset, reported]

/-- What the loop does from one sleep to the next. -/
theorem Resting.iterate (h : s.Resting lists) {input : Input} {served : List ReqAddr}
    (done : s.iterate config input = .ok (s', served)) :
    ∃ lists', s'.Resting lists' ∧ served.Nodup ∧
      (∀ x ∈ lists .ready, ¬input.pass.Ends x → x ∈ served) ∧
      ∀ x ∈ lists .block, (Called config input s x → ¬input.pass.Ends x → x ∈ served) ∧
        (¬Called config input s x → x ∉ served ∧ x ∈ lists' .block ∧ s'.slots x = s.slots x) := by
  have woken : (s.wake config input).Sound lists := h.1.wake input
  obtain ⟨lists₀, prepared⟩ := woken.collect input.returned
  have ready₀ : Sound { SelectLoop.collect input.returned (s.wake config input) with maxFd := -1 }
      lists₀ := prepared.sound.frame _ _ _ _ _
  unfold SelectLoop.iterate at done
  dsimp only at done
  cases updated : fdsetUpdate config
      { SelectLoop.collect input.returned (s.wake config input) with maxFd := -1 } with
  | error stop =>
    rw [updated] at done
    cases done
  | ok s₁ =>
    rw [updated] at done
    simp only [bind, Except.bind] at done
    cases processed : s₁.processRequests config input.pass with
    | error stop =>
      rw [processed] at done
      cases done
    | ok pair =>
      obtain ⟨s₂, visited⟩ := pair
      rw [processed] at done
      cases done
      obtain ⟨lists₁, sound₁, ready₁, old₁, settled⟩ := ready₀.fdsetUpdate updated
      obtain ⟨lists₂, sound₂, grows, nodup, idle, turns⟩ := sound₁.processRequests processed
      have listening : (s₂.listen config input.terminating).Sound lists₂ ∧
          Grows s₂ lists₂ (s₂.listen config input.terminating) lists₂ := sound₂.listen _
      have all := grows.trans listening.2
      rw [prepared.block] at old₁ settled
      have awake : ∀ x ∈ lists .block, Called config input s x → x ∈ lists₁ .ready :=
        fun x blocked called => (settled x blocked).wakes ((h.wakes_iff prepared blocked).mpr called)
      have asleep : ∀ x ∈ lists .block, ¬Called config input s x →
          x ∈ lists₁ .block ∧ s₁.slots x = s.slots x ∧ s₁.Watched x := by
        intro x blocked quiet
        have kept := (settled x blocked).sleeps fun wakes =>
          quiet ((h.wakes_iff prepared blocked).mp wakes)
        refine ⟨kept.1, kept.2.1.trans ?_, kept.2.2⟩
        exact (prepared.slots x blocked).trans (congrFun (wake_frame input) x)
      refine ⟨lists₂, ⟨listening.1, ?_⟩, nodup, ?_, ?_⟩
      · intro x blocked
        by_cases before : x ∈ lists₁ .block
        · have member := old₁ x before
          have quiet : ¬Called config input s x := fun called =>
            sound₁.linked.apart _ _ (by decide) x (awake x member called) before
          exact all.keep before (asleep x member quiet).2.2
        · exact all.watched x blocked before
      · intro x ready stays
        exact turns x (ready₁ x (prepared.ready x ready)) stays
      · intro x blocked
        refine ⟨fun called stays => turns x (awake x blocked called) stays, fun quiet => ?_⟩
        obtain ⟨still, same, -⟩ := asleep x blocked quiet
        have after := all.stays x still
        exact ⟨idle x still, after.1, after.2.trans same⟩

/-- The loop stops only where the system would give a descriptor that is open. -/
theorem Sound.iterate_error (h : s.Sound lists) {input : Input} {stop : Stop}
    (failed : s.iterate config input = .error stop) : stop = .descriptor := by
  have woken : (s.wake config input).Sound lists := h.wake input
  obtain ⟨lists₀, prepared⟩ := woken.collect input.returned
  have ready₀ : Sound { SelectLoop.collect input.returned (s.wake config input) with maxFd := -1 }
      lists₀ := prepared.sound.frame _ _ _ _ _
  have ends : ∃ s₁, SelectLoop.fdsetUpdate config
      { SelectLoop.collect input.returned (s.wake config input) with maxFd := -1 } = .ok s₁ :=
    ready₀.fdsetUpdate_ok
  obtain ⟨s₁, updated⟩ := ends
  obtain ⟨lists₁, sound₁, -, -, -⟩ := ready₀.fdsetUpdate updated
  unfold SelectLoop.iterate at failed
  dsimp only at failed
  rw [updated] at failed
  simp only [bind, Except.bind] at failed
  cases processed : s₁.processRequests config input.pass with
  | error other =>
    rw [processed] at failed
    cases failed
    exact sound₁.processRequests_error processed
  | ok pair =>
    rw [processed] at failed
    cases failed

/-! ## Runs -/

/-- Nobody is there before the first pass. -/
theorem resting_boot (descriptors : List Nat) : (boot descriptors).Resting fun _ => [] := by
  have none : ∀ x, ¬(boot descriptors).Live (fun _ => []) x := by
    rintro x (ready | block | away)
    · cases ready
    · cases block
    · cases away
  refine ⟨⟨Queues.lists_empty, ?_, ?_, List.nodup_nil, ?_, ?_, ?_⟩, ?_⟩
  · exact fun k x mem => absurd mem List.not_mem_nil
  · exact fun x mem => absurd mem List.not_mem_nil
  · exact fun x live => absurd live (none x)
  · exact fun x y live => absurd live (none x)
  · exact fun x live => absurd live (none x)
  · exact fun x mem => absurd mem List.not_mem_nil

/-- In every run the loop comes to rest. -/
theorem Resting.run (h : s.Resting lists) {inputs : List Input}
    (arrived : s.run config inputs = .ok s') : ∃ lists', s'.Resting lists' := by
  induction inputs generalizing s lists with
  | nil =>
    cases arrived
    exact ⟨lists, h⟩
  | cons input rest ih =>
    rw [SelectLoop.run] at arrived
    cases next : s.iterate config input with
    | error stop =>
      rw [next] at arrived
      cases arrived
    | ok pair =>
      obtain ⟨s₁, served⟩ := pair
      rw [next] at arrived
      obtain ⟨lists₁, resting, -⟩ := h.iterate next
      exact ih resting arrived

/-- The request is on `request_ready`. -/
def Ready (s : SelectLoop) (r : ReqAddr) : Prop := Reaches s.queues.next (s.queues.head .ready) r

/-- The request is on `request_block`. -/
def Blocked (s : SelectLoop) (r : ReqAddr) : Prop := Reaches s.queues.next (s.queues.head .block) r

/-- Whenever the loop sleeps, `select` looks at every blocked request. When it returns, a blocked
request has a turn in the next pass if its channel is reported or its time is over (but for a stream
that is ended because the driver is restarted), and else it stays as it is; every request that was
ready has a turn, and none has two. A pass stops only if the system gave a descriptor that is open
or a handler waits for one that its request does not have. -/
theorem wakeups_exact {config : Config} {descriptors : List Nat} {inputs : List Input}
    {s : SelectLoop} (arrived : (boot descriptors).run config inputs = .ok s) :
    (∀ r, s.Blocked r → s.Watched r) ∧ ∀ input : Input,
      (∀ stop, s.iterate config input = .error stop → stop = .descriptor) ∧
      ∀ s' served, s.iterate config input = .ok (s', served) → served.Nodup ∧
        (∀ r, s.Ready r → ¬input.pass.Ends r → r ∈ served) ∧
        ∀ r, s.Blocked r → (Called config input s r → ¬input.pass.Ends r → r ∈ served) ∧
          (¬Called config input s r →
            r ∉ served ∧ s'.Blocked r ∧ s'.slots r = s.slots r) := by
  obtain ⟨lists, h⟩ := (resting_boot descriptors).run arrived
  have blocked : ∀ r, s.Blocked r ↔ r ∈ lists .block := h.1.linked.reaches_iff .block
  refine ⟨fun r mem => h.2 r ((blocked r).mp mem), fun input => ⟨?_, ?_⟩⟩
  · exact fun stop failed => h.1.iterate_error failed
  · intro s' served done
    obtain ⟨lists', resting, nodup, turns, waits⟩ := h.iterate done
    refine ⟨nodup, ?_, ?_⟩
    · exact fun r ready => turns r ((h.1.linked.reaches_iff .ready r).mp ready)
    · intro r mem
      obtain ⟨called, quiet⟩ := waits r ((blocked r).mp mem)
      refine ⟨called, fun silent => ?_⟩
      obtain ⟨idle, still, same⟩ := quiet silent
      exact ⟨idle, (resting.1.linked.reaches_iff .block r).mpr still, same⟩

/-- A server with one listening socket. -/
def smallConfig : Config := ⟨5, 10, 30, 3⟩

/-- A turn in which nothing is there to be read. -/
def waitingTurn : Turn :=
  ⟨0, 0, .readHeader, false, false, .blocked, .nothing, 1, ⟨false, true⟩⟩

/-- The loop listens; then a client comes and its request waits for the request line. -/
def clientInputs : List Input :=
  [⟨.ready fun _ => true, 0, [], false, ⟨.nothing, none, fun _ => waitingTurn⟩⟩,
    ⟨.ready fun _ => true, 1, [], false, ⟨.socket 7 true false, none, fun _ => waitingTurn⟩⟩]

/-- The socket of the client is watched. -/
theorem wakeups_exact_client : ∃ s, (boot [3]).run smallConfig clientInputs = .ok s ∧
    s.Blocked 0 ∧ s.Watched 0 := by
  have arrived : ∃ s, (boot [3]).run smallConfig clientInputs = .ok s ∧
      s.queues.head .block = some 0 := ⟨_, rfl, rfl⟩
  obtain ⟨s, arrived, head⟩ := arrived
  have blocked : s.Blocked 0 := by
    rw [Blocked, head]
    exact .here 0
  exact ⟨s, arrived, blocked, (wakeups_exact arrived).1 0 blocked⟩

end BoaIpcam.Select.SelectLoop
