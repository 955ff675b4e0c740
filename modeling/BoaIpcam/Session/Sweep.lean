import BoaIpcam.Session.System

/-!
# The time-out sweep

The sweep walks `connect_ready` through the `next` of the entry it has just looked at. When it
frees that entry, the entry is already the first of `connect_free`, and the walk goes on there.
So it frees only the first expired entry, visits all of `connect_free` after it, and never ends
when an entry of `connect_free` looks expired too.
-/
namespace BoaIpcam

open LinkedList TransitionSystem

/-! ## The two lists along a run -/

/-- What one effect does to the two lists and to `connection_counter`: nothing, or, where entries
may be opened, an entry is taken from `connect_free`, or a fresh one is counted. -/
inductive ListStep (opens : Prop) (ready : List Addr) :
    List Addr → Int → List Addr → List Addr → Int → Prop
  | stay (free : List Addr) (counter : Int) : ListStep opens ready free counter ready free counter
  | reuse (allowed : opens) (connect : Addr) (free : List Addr) (counter : Int) :
      ListStep opens ready (connect :: free) counter (connect :: ready) free counter
  | fresh (allowed : opens) (connect : Addr) (counter : Int) (few : counter < maxConnection) :
      ListStep opens ready [] counter (connect :: ready) [] (counter + 1)

section
variable {build : Build} {opens : Prop} {s s' : Server} {ready free : List Addr}

/-- Taking an entry, whatever is then written into its fields. -/
theorem Lists.take {malloc : Option HttpConnection} {connect : Addr}
    {f : HttpConnection → HttpConnection} (lists : Lists s ready free) (allowed : opens)
    (allocated : s.allocConnection malloc = some (connect, s'))
    (next : ∀ e, (f e).next = e.next) (last : ∀ e, (f e).last = e.last) :
    ∃ ready' free', Lists { s' with heap := s'.heap.modify connect f } ready' free' ∧
      connect ∈ ready' ∧
      ListStep opens ready free s.connectionCounter ready' free' s'.connectionCounter := by
  rcases lists.alloc allocated with ⟨rest, rfl, moved, counter⟩ | ⟨rfl, -, moved, few, counter⟩
  · refine ⟨_, _, moved.modify connect next last, List.mem_cons_self, ?_⟩
    rw [counter]
    exact .reuse allowed connect rest _
  · refine ⟨_, _, moved.modify connect next last, List.mem_cons_self, ?_⟩
    rw [counter]
    exact .fresh allowed connect _ few

/-- An effect keeps both lists well formed. -/
theorem Lists.effect (lists : Lists s ready free) (effect : Effect build opens s s') :
    ∃ ready' free', Lists s' ready' free' ∧
      ListStep opens ready free s.connectionCounter ready' free' s'.connectionCounter := by
  cases effect with
  | request _ =>
    exact ⟨_, _, lists.congr rfl rfl rfl rfl rfl lists.guest_mem, .stay _ _⟩
  | @attach r req connect _ _ _ =>
    have kept := lists.modify connect
      (f := fun e => { e with counter := e.counter + 1, timeLast := req.timeLast })
      (fun _ => rfl) (fun _ => rfl)
    exact ⟨_, _, kept.congr rfl rfl rfl rfl rfl lists.guest_mem, .stay _ _⟩
  | @freeRequest r req now _ =>
    unfold Server.freeRequest
    cases req.connect with
    | none => exact ⟨_, _, lists.congr rfl rfl rfl rfl rfl lists.guest_mem, .stay _ _⟩
    | some connect =>
      have kept := lists.modify connect
        (f := fun e => { e with counter := e.counter - 1, timeLast := now })
        (fun _ => rfl) (fun _ => rfl)
      exact ⟨_, _, kept.congr rfl rfl rfl rfl rfl lists.guest_mem, .stay _ _⟩
  | @openGuest s₁ malloc connect allowed _ allocated =>
    obtain ⟨ready', free', taken, member, moved⟩ :=
      lists.take (f := fun e => { e with user := .guest }) allowed allocated (fun _ => rfl)
        (fun _ => rfl)
    refine ⟨_, _, taken.congr rfl rfl rfl rfl rfl fun g guest => ?_, moved⟩
    cases guest
    exact member
  | @openSlot s₁ malloc connect i remoteIp allowed _ allocated =>
    obtain ⟨ready', free', taken, -, moved⟩ :=
      lists.take (f := fun e => { e with user := .slot i, userIdx := i, ipaddr := remoteIp })
        allowed allocated (fun _ => rfl) (fun _ => rfl)
    exact ⟨_, _, taken, moved⟩
  | @revoke connect =>
    have kept := lists.modify connect (f := fun e => { e with revoke := true })
      (fun _ => rfl) (fun _ => rfl)
    exact ⟨_, _, kept, .stay _ _⟩
  | configure =>
    exact ⟨_, _, lists.congr rfl rfl rfl rfl rfl lists.guest_mem, .stay _ _⟩

/-- A sequence of effects keeps both lists well formed. -/
theorem Lists.effects (lists : Lists s ready free) (effects : Effects build opens s s') :
    ∃ ready' free', Lists s' ready' free' := by
  have preserved : ∀ t t', (∃ ready free, Lists t ready free) → Effect build opens t t' →
      ∃ ready free, Lists t' ready free := by
    rintro t t' ⟨ready, free, lists⟩ effect
    obtain ⟨ready', free', lists', -⟩ := lists.effect effect
    exact ⟨ready', free', lists'⟩
  exact effects.invariant preserved ⟨ready, free, lists⟩

end

/-! ## One sweep -/

section
variable {s : Server} {now : Int} {ready free left right : List Addr} {c : Addr}

/-- A release hides no expired entry. -/
theorem Server.Expired.freeConnection {a : Addr} (expired : s.Expired now a) (connect : Addr) :
    (s.freeConnection connect).Expired now a := by
  obtain ⟨guest, idle, old⟩ := expired
  refine ⟨?_, ?_, ?_⟩
  rotate_left
  · rw [freeConnection_heap]
    exact idle
  · rw [freeConnection_heap]
    exact old
  rcases guest with other | mode
  · left
    simp only [Server.freeConnection]
    split
    · simp
    · exact other
  · exact .inr mode

/-- Whether an entry other than the guest entry is expired does not depend on a release. -/
theorem expired_freeConnection_iff {a : Addr} (other : s.connectGuest ≠ some a) (connect : Addr) :
    (s.freeConnection connect).Expired now a ↔ s.Expired now a := by
  constructor
  · rintro ⟨-, idle, old⟩
    rw [freeConnection_heap] at idle old
    exact ⟨.inl other, idle, old⟩
  · exact fun expired => expired.freeConnection connect

/-- While no entry is expired the sweep only walks. -/
theorem advance_walk {head : Option Addr} (visited freed : List Addr)
    (linked : Chain s.next head (left ++ right)) (fresh : ∀ a ∈ left, ¬s.Expired now a) :
    (Sweep.advance now)^[left.length] ⟨head, s, visited, freed⟩ =
      ⟨right.head?, s, visited ++ left, freed⟩ := by
  induction left generalizing head visited with
  | nil => simp [linked.head_eq]
  | cons a left ih =>
    have stays : Sweep.advance now ⟨head, s, visited, freed⟩ =
        ⟨s.next a, s, visited ++ [a], freed⟩ := by
      rw [show head = some a from linked.1, Sweep.advance]
      exact if_neg (fresh a List.mem_cons_self)
    rw [List.length_cons, Function.iterate_succ_apply, stays,
      ih _ linked.2 fun b member => fresh b (List.mem_cons_of_mem a member)]
    simp

/-- A sweep that is over stays as it is. -/
theorem advance_over {sweep : Sweep} (finished : sweep.cursor = none) (rounds : Nat) :
    (Sweep.advance now)^[rounds] sweep = sweep := by
  have fixed : Sweep.advance now sweep = sweep := by
    unfold Sweep.advance
    rw [finished]
  exact Function.iterate_fixed fixed rounds

/-- The result of a sweep does not depend on how many rounds it is given. -/
theorem sweep_eq {rounds rounds' : Nat} {sweep : Sweep} (swept : s.sweep rounds' now = some sweep)
    (finished : (s.sweepAfter rounds now).cursor = none) : sweep = s.sweepAfter rounds now := by
  obtain ⟨finished', rfl⟩ := Server.sweep_over swept
  rcases Nat.le_total rounds rounds' with less | less
  · obtain ⟨more, rfl⟩ := Nat.exists_eq_add_of_le' less
    rw [Server.sweepAfter, Function.iterate_add_apply]
    exact advance_over finished more
  · obtain ⟨more, rfl⟩ := Nat.exists_eq_add_of_le' less
    rw [Server.sweepAfter, Server.sweepAfter, Function.iterate_add_apply]
    exact (advance_over finished' more).symm

/-- Without an expired entry on `connect_ready` the sweep visits that list and changes nothing. -/
theorem sweepAfter_fresh (lists : Lists s ready free) (fresh : ∀ a ∈ ready, ¬s.Expired now a) :
    s.sweepAfter ready.length now = ⟨none, s, ready, []⟩ := by
  have linked : Chain s.next s.connectReady (ready ++ []) := by
    rw [List.append_nil]
    exact lists.readyChain.chain
  exact advance_walk [] [] linked fresh

/-- The sweep up to the first entry it frees: it then stands at the old `connect_free`. -/
theorem sweepAfter_first (lists : Lists s (left ++ c :: right) free)
    (fresh : ∀ a ∈ left, ¬s.Expired now a) (expired : s.Expired now c) :
    s.sweepAfter (left.length + 1) now = ⟨s.connectFree, s.freeConnection c, left ++ [c], [c]⟩ := by
  have walked := advance_walk [] [] lists.readyChain.chain fresh
  rw [Server.sweepAfter, Function.iterate_succ_apply', Sweep.start, walked]
  simp only [Sweep.advance, List.head?_cons, if_pos expired, freeConnection_next, if_pos]
  rfl

/-- The guest entry is not on `connect_free`. -/
theorem Lists.guest_ne (lists : Lists s ready free) {a : Addr} (member : a ∈ free) :
    s.connectGuest ≠ some a := fun guest =>
  lists.disjoint a (lists.guest_mem a guest) member

/-- After the entry it frees the sweep goes through `connect_free`; when no entry there is
expired it ends, and has freed that one entry. -/
theorem sweepAfter_single (lists : Lists s (left ++ c :: right) free)
    (fresh : ∀ a ∈ left, ¬s.Expired now a) (expired : s.Expired now c)
    (idle : ∀ a ∈ free, ¬s.Expired now a) :
    s.sweepAfter (free.length + (left.length + 1)) now =
      ⟨none, s.freeConnection c, left ++ [c] ++ free, [c]⟩ := by
  have linked : Chain (s.freeConnection c).next s.connectFree (free ++ []) := by
    have whole := lists.release.freeChain.2
    rw [freeConnection_next, if_pos rfl] at whole
    rw [List.append_nil]
    exact whole
  have idle' : ∀ a ∈ free, ¬(s.freeConnection c).Expired now a := by
    intro a member
    rw [expired_freeConnection_iff (lists.guest_ne member)]
    exact idle a member
  have first := sweepAfter_first lists fresh expired
  rw [Server.sweepAfter] at first
  rw [Server.sweepAfter, Function.iterate_add_apply, first]
  exact advance_walk _ _ linked idle'

/-- The sweep stands at an expired entry and the first entry of `connect_free` is expired. -/
def Endless (now : Int) (sweep : Sweep) : Prop :=
  ∃ a b, sweep.cursor = some a ∧ sweep.server.Expired now a ∧
    sweep.server.connectFree = some b ∧ sweep.server.Expired now b

/-- Freeing the entry makes it the first of `connect_free`, and the sweep goes on at the one that
was first before. -/
theorem Endless.advance {sweep : Sweep} (endless : Endless now sweep) :
    Endless now (sweep.advance now) := by
  obtain ⟨a, b, cursor, expired, first, expired'⟩ := endless
  have moved : sweep.advance now = ⟨(sweep.server.freeConnection a).next a,
      sweep.server.freeConnection a, sweep.visited ++ [a], sweep.freed ++ [a]⟩ := by
    unfold Sweep.advance
    rw [cursor]
    exact if_pos expired
  rw [moved]
  refine ⟨b, a, ?_, expired'.freeConnection a, rfl, expired.freeConnection a⟩
  rw [freeConnection_next, if_pos rfl]
  exact first

/-- A list without expired entries, or split at the first one. -/
theorem expired_split (s : Server) (now : Int) (list : List Addr) :
    (∀ a ∈ list, ¬s.Expired now a) ∨
      ∃ left c right, list = left ++ c :: right ∧ (∀ a ∈ left, ¬s.Expired now a) ∧
        s.Expired now c := by
  cases found : list.find? fun a => s.Expired now a with
  | none => exact .inl (by simpa using List.find?_eq_none.mp found)
  | some c =>
    obtain ⟨expired, left, right, split, fresh⟩ := List.find?_eq_some_iff_append.mp found
    exact .inr ⟨left, c, right, split, by simpa using fresh, by simpa using expired⟩

/-- With an expired entry on each list the sweep never ends. -/
theorem sweepAfter_endless (lists : Lists s (left ++ c :: right) free)
    (fresh : ∀ a ∈ left, ¬s.Expired now a) (expired : s.Expired now c) {f : Addr}
    (inFree : f ∈ free) (expired' : s.Expired now f) (rounds : Nat) :
    (s.sweepAfter rounds now).cursor ≠ none := by
  obtain idle | ⟨before, f, after, rfl, idle, expired'⟩ := expired_split s now free
  · exact absurd expired' (idle f inFree)
  have other : ∀ a ∈ before ++ f :: after, s.connectGuest ≠ some a := fun a => lists.guest_ne
  -- The walk through `connect_free` up to its first expired entry.
  have linked : Chain (s.freeConnection c).next s.connectFree (before ++ f :: after) := by
    have whole := lists.release.freeChain.2
    rwa [freeConnection_next, if_pos rfl] at whole
  have idle' : ∀ a ∈ before, ¬(s.freeConnection c).Expired now a := by
    intro a member
    rw [expired_freeConnection_iff (other a (List.mem_append_left _ member))]
    exact idle a member
  have first := sweepAfter_first lists fresh expired
  rw [Server.sweepAfter] at first
  have reached : Endless now (s.sweepAfter (before.length + (left.length + 1)) now) := by
    rw [Server.sweepAfter, Function.iterate_add_apply, first, advance_walk _ _ linked idle']
    exact ⟨f, c, rfl, expired'.freeConnection c, rfl, expired.freeConnection c⟩
  have forever : ∀ more, Endless now (s.sweepAfter (more + (before.length + (left.length + 1))) now) := by
    intro more
    induction more with
    | zero => rwa [Nat.zero_add]
    | succ more ih =>
      rw [Nat.succ_add, Server.sweepAfter, Function.iterate_succ_apply']
      exact ih.advance
  -- A sweep that is over would still be over in one of these rounds.
  intro finished
  have later : s.sweepAfter (rounds + (before.length + (left.length + 1))) now =
      s.sweepAfter rounds now := by
    rw [Nat.add_comm, Server.sweepAfter, Function.iterate_add_apply]
    exact advance_over finished _
  obtain ⟨a, -, cursor, -⟩ := forever rounds
  rw [later, finished] at cursor
  cases cursor

/-- The two ways a sweep returns: there is no expired entry on `connect_ready` and nothing
changes, or the first one is freed and no entry of `connect_free` is expired. -/
theorem sweep_cases {rounds : Nat} {sweep : Sweep} (lists : Lists s ready free)
    (swept : s.sweep rounds now = some sweep) :
    ((∀ a ∈ ready, ¬s.Expired now a) ∧ sweep = ⟨none, s, ready, []⟩) ∨
      ∃ left c right, ready = left ++ c :: right ∧ (∀ a ∈ left, ¬s.Expired now a) ∧
        s.Expired now c ∧ (∀ a ∈ free, ¬s.Expired now a) ∧
        sweep = ⟨none, s.freeConnection c, left ++ [c] ++ free, [c]⟩ := by
  obtain fresh | ⟨left, c, right, rfl, fresh, expired⟩ := expired_split s now ready
  · have whole := sweepAfter_fresh lists fresh
    have finished : (s.sweepAfter ready.length now).cursor = none := by rw [whole]
    exact .inl ⟨fresh, (sweep_eq swept finished).trans whole⟩
  · have idle : ∀ a ∈ free, ¬s.Expired now a := by
      intro a inFree expired'
      have never := sweepAfter_endless lists fresh expired inFree expired' rounds
      rw [Server.sweep, if_neg never] at swept
      cases swept
    have whole := sweepAfter_single lists fresh expired idle
    have finished : (s.sweepAfter (free.length + (left.length + 1)) now).cursor = none := by rw [whole]
    exact .inr ⟨left, c, right, rfl, fresh, expired, idle, (sweep_eq swept finished).trans whole⟩

/-- A sweep that returns keeps both lists well formed. -/
theorem Lists.sweep {rounds : Nat} {sweep : Sweep} (lists : Lists s ready free)
    (swept : s.sweep rounds now = some sweep) :
    ∃ ready' free', Lists sweep.server ready' free' := by
  rcases sweep_cases lists swept with ⟨-, rfl⟩ | ⟨left, c, right, rfl, -, -, -, rfl⟩
  · exact ⟨_, _, lists⟩
  · exact ⟨_, _, lists.release⟩

end

/-- Every logout releases an entry of `connect_ready`. -/
def LogsOutReady (sys : System) (act : Act) : Prop :=
  ∀ r connect, act = .command r .logout → sys.server.connectOf r = some connect →
    Reaches sys.server.next sys.server.connectReady connect

/-- As long as only entries of `connect_ready` are logged out, both lists stay well formed. -/
theorem Lists.step {build : Build} {sys sys' : System} {act : Act} {ready free : List Addr}
    (lists : Lists sys.server ready free) (guard : LogsOutReady sys act)
    (step : Step build sys act sys') : ∃ ready' free', Lists sys'.server ready' free' := by
  rcases step.cases with effects | ⟨r, req, connect, rfl, live, held, freed⟩ |
    ⟨now, rounds, sweep, rfl, swept, same⟩
  · exact lists.effects effects
  · have member : connect ∈ ready := by
      rw [← lists.readyChain.chain.reaches_iff]
      exact guard r connect rfl (by rw [Server.connectOf, live]; exact held)
    obtain ⟨left, right, rfl⟩ := List.append_of_mem member
    rw [freed]
    exact ⟨_, _, lists.release⟩
  · rw [same]
    exact lists.sweep swept

/-- The lists of every state reached. -/
theorem Lists.run {build : Build} {accounts : Nat → Account} {mode : Nat} {acts : List Act}
    {sys : System}
    (run : Run (Step build) LogsOutReady (System.boot accounts mode) acts sys) :
    ∃ ready free, Lists sys.server ready free := by
  have preserved : ∀ sys act sys', (∃ ready free, Lists sys.server ready free) →
      LogsOutReady sys act → Step build sys act sys' → ∃ ready free, Lists sys'.server ready free := by
    rintro sys act sys' ⟨ready, free, lists⟩ guard step
    exact lists.step guard step
  exact Run.invariant (fun sys => ∃ ready free, Lists sys.server ready free) preserved run
    ⟨[], [], Lists.boot accounts mode⟩

/-! ## When the sweep does its work -/

/-- A sweep does its work: it visits only entries of `connect_ready`, frees those that are
expired, keeps all others, and leaves two well-formed lists. -/
structure SweepMeets (s : Server) (now : Int) (ready free : List Addr) (sweep : Sweep) : Prop where
  /-- It visits listed entries. -/
  visited : ∀ a ∈ sweep.visited, a ∈ ready
  /-- It frees the expired ones. -/
  freed : ∀ a, a ∈ sweep.freed ↔ a ∈ ready ∧ s.Expired now a
  /-- It leaves two lists. -/
  lists : ∃ free', Lists sweep.server (ready.filter fun a => ¬s.Expired now a) free' ∧
    ∀ a, a ∈ free' ↔ a ∈ free ∨ a ∈ sweep.freed

/-- The sweep ends and does its work. -/
def SweepSound (s : Server) (now : Int) (ready free : List Addr) : Prop :=
  ∃ rounds sweep, s.sweep rounds now = some sweep ∧ SweepMeets s now ready free sweep

section
variable {s : Server} {now : Int} {ready free : List Addr}

/-- Without an expired entry on `connect_ready` the sweep is sound. -/
theorem sweepSound_fresh (lists : Lists s ready free) (fresh : ∀ a ∈ ready, ¬s.Expired now a) :
    SweepSound s now ready free := by
  have whole := sweepAfter_fresh lists fresh
  have kept : (ready.filter fun a => ¬s.Expired now a) = ready :=
    List.filter_eq_self.mpr (by simpa using fresh)
  refine ⟨ready.length, _, by rw [Server.sweep, whole]; rfl, ?_, ?_, free, ?_, ?_⟩
  · exact fun a member => member
  · intro a
    simpa using fresh a
  · rw [kept]
    exact lists
  · simp

/-- With one expired entry and nothing on `connect_free` the sweep is sound. -/
theorem sweepSound_single (lists : Lists s ready []) {c : Addr} (member : c ∈ ready)
    (expired : s.Expired now c) (only : ∀ a ∈ ready, s.Expired now a → a = c) :
    SweepSound s now ready [] := by
  obtain ⟨left, right, rfl⟩ := List.append_of_mem member
  have distinct := lists.readyChain.chain.nodup
  have notLeft : ∀ a ∈ left, a ≠ c := fun a inside same =>
    (List.nodup_append.mp distinct).2.2 a inside c List.mem_cons_self same
  have notRight : ∀ a ∈ right, a ≠ c := fun a inside same =>
    (List.nodup_cons.mp (List.nodup_append.mp distinct).2.1).1 (same ▸ inside)
  have freshLeft : ∀ a ∈ left, ¬s.Expired now a := fun a inside stale =>
    notLeft a inside (only a (List.mem_append_left _ inside) stale)
  have freshRight : ∀ a ∈ right, ¬s.Expired now a := fun a inside stale =>
    notRight a inside (only a (List.mem_append_right _ (List.mem_cons_of_mem c inside)) stale)
  have whole := sweepAfter_single lists freshLeft expired (by simp)
  have kept : ((left ++ c :: right).filter fun a => ¬s.Expired now a) = left ++ right := by
    have keptLeft : (left.filter fun a => ¬s.Expired now a) = left :=
      List.filter_eq_self.mpr (by simpa using freshLeft)
    have keptRight : (right.filter fun a => ¬s.Expired now a) = right :=
      List.filter_eq_self.mpr (by simpa using freshRight)
    rw [List.filter_append, List.filter_cons_of_neg (by simpa using expired), keptLeft, keptRight]
  refine ⟨_, _, by rw [Server.sweep, whole]; rfl, ?_, ?_, [c], ?_, ?_⟩
  · intro a visited
    simp only [List.append_nil, List.mem_append, List.mem_singleton] at visited
    rcases visited with inside | rfl
    · exact List.mem_append_left _ inside
    · exact member
  · intro a
    rw [List.mem_singleton]
    constructor
    · rintro rfl
      exact ⟨member, expired⟩
    · exact fun both => only a both.1 both.2
  · rw [kept]
    exact lists.release
  · simp

/-- A sound sweep that finds an expired entry finds one, and nothing on `connect_free`. -/
theorem SweepSound.single (lists : Lists s ready free) (sound : SweepSound s now ready free) :
    (∀ a ∈ ready, ¬s.Expired now a) ∨
      free = [] ∧ ∃ c ∈ ready, s.Expired now c ∧ ∀ a ∈ ready, s.Expired now a → a = c := by
  obtain ⟨rounds, sweep, swept, meets⟩ := sound
  rcases sweep_cases lists swept with ⟨fresh, -⟩ | ⟨left, c, right, rfl, -, expired, -, rfl⟩
  · exact .inl fresh
  · have member : c ∈ left ++ c :: right := by simp
    refine .inr ⟨?_, c, member, expired, ?_⟩
    · rw [List.eq_nil_iff_forall_not_mem]
      intro a inFree
      have visited : a ∈ left ++ [c] ++ free := List.mem_append_right _ inFree
      exact lists.disjoint a (meets.visited a visited) inFree
    · intro a inside stale
      exact List.mem_singleton.mp ((meets.freed a).mpr ⟨inside, stale⟩)

end

/-- In every state reached, as long as logouts release entries of `connect_ready`, and at every
time: the sweep ends and does its work exactly when no entry of `connect_ready` is expired, or
one is and `connect_free` is empty. -/
theorem sweep_sound_iff {build : Build} {accounts : Nat → Account} {mode : Nat} {acts : List Act}
    {sys : System}
    (run : Run (Step build) LogsOutReady (System.boot accounts mode) acts sys) :
    ∃ ready free, Lists sys.server ready free ∧ ∀ now, SweepSound sys.server now ready free ↔
      (∀ a ∈ ready, ¬sys.server.Expired now a) ∨
        free = [] ∧ ∃ c ∈ ready, sys.server.Expired now c ∧
          ∀ a ∈ ready, sys.server.Expired now a → a = c := by
  obtain ⟨ready, free, lists⟩ := Lists.run run
  refine ⟨ready, free, lists, fun now => ⟨fun sound => sound.single lists, ?_⟩⟩
  rintro (fresh | ⟨rfl, c, member, expired, only⟩)
  · exact sweepSound_fresh lists fresh
  · exact sweepSound_single lists member expired only

/-- Two users who log in from two addresses leave two entries; every later time is covered. -/
theorem sweep_sound_two_visits :
    ∃ sys, Run (Step .small) LogsOutReady (System.boot smallAccounts 1)
        (visit 0 1 "admin:a" ++ visit 0 2 "bob:b") sys ∧
      ∃ ready free, Lists sys.server ready free ∧ ∀ now, SweepSound sys.server now ready free ↔
        (∀ a ∈ ready, ¬sys.server.Expired now a) ∨
          free = [] ∧ ∃ c ∈ ready, sys.server.Expired now c ∧
            ∀ a ∈ ready, sys.server.Expired now a → a = c := by
  obtain ⟨sys, run, -⟩ := System.execAll_run .small 4 (fun _ _ => true) (System.boot smallAccounts 1)
    (visit 0 1 "admin:a" ++ visit 0 2 "bob:b") LogsOutReady (fun _ => true)
    (by simp [visit, LogsOutReady]) (by decide)
  exact ⟨sys, run, sweep_sound_iff run⟩

/-- When the entries of two users expire together, one of them stays on `connect_ready`. -/
theorem sweep_leaves_expired_entry :
    ∃ sys ready free, Run (Step .small) (fun _ _ => True) (System.boot smallAccounts 1)
        (visit 0 1 "admin:a" ++ visit 0 2 "bob:b") sys ∧
      Lists sys.server ready free ∧ ¬SweepSound sys.server 301 ready free := by
  obtain ⟨sys, run, facts⟩ := System.execAll_run .small 4 (fun _ _ => true) (System.boot smallAccounts 1)
    (visit 0 1 "admin:a" ++ visit 0 2 "bob:b") LogsOutReady
    (fun sys => sys.server.connectReady = some 1 ∧ sys.server.next 1 = some 0 ∧
      sys.server.Expired 301 0 ∧ (sys.server.sweepAfter 1 301).cursor = none ∧
      (sys.server.sweepAfter 1 301).freed = [1])
    (by simp [visit, LogsOutReady]) (by decide)
  obtain ⟨first, second, expired, finished, freed⟩ := of_decide_eq_true facts
  obtain ⟨ready, free, lists⟩ := Lists.run run
  refine ⟨sys, ready, free, run.weaken fun _ _ _ => trivial, lists, ?_⟩
  rintro ⟨rounds, sweep, swept, meets⟩
  have member : 0 ∈ ready := by
    rw [← lists.readyChain.chain.reaches_iff, first]
    apply Reaches.later
    rw [second]
    exact .here 0
  have missed := (meets.freed 0).mpr ⟨member, expired⟩
  rw [sweep_eq swept finished, freed] at missed
  simp at missed

end BoaIpcam
