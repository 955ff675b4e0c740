import BoaIpcam.Session.System

/-!
# What the entries hold in every state

Facts that hold in every state the server reaches, also after the lists have been damaged by
logging out twice: an entry of an account points to a slot of the table and has its index as
`user_idx`, and every pointer is to an entry that was allocated.
-/
namespace BoaIpcam

open LinkedList TransitionSystem

/-- What a release preserves is preserved by a sweep. -/
theorem sweep_invariant (inv : Server → Prop) {s : Server} {rounds : Nat} {now : Int}
    {sweep : Sweep} (swept : s.sweep rounds now = some sweep)
    (preserved : ∀ t connect, inv t → t.Expired now connect → inv (t.freeConnection connect))
    (start : inv s) : inv sweep.server := by
  rw [(Server.sweep_over swept).2]
  clear swept
  induction rounds with
  | zero => exact start
  | succ rounds ih =>
    rw [Server.sweepAfter] at ih
    rw [Server.sweepAfter, Function.iterate_succ_apply', Sweep.advance]
    split
    · exact ih
    · split
      · rename_i expired
        exact preserved _ _ ih expired
      · exact ih

/-- An entry of an account belongs to a slot of the table, whose index is its `user_idx`. -/
def UsersValid (build : Build) (s : Server) : Prop :=
  ∀ a i, (s.heap a).user = .slot i → i < build.acountNum ∧ (s.heap a).userIdx = i

section
variable {build : Build} {opens : Prop} {s s' : Server}

/-- Writing fields other than the user keeps the users. -/
theorem UsersValid.modify {connect : Addr} {f : HttpConnection → HttpConnection}
    (valid : UsersValid build s) (user : ∀ e, (f e).user = e.user)
    (userIdx : ∀ e, (f e).userIdx = e.userIdx) :
    UsersValid build { s with heap := s.heap.modify connect f } := by
  intro a i slot
  simp only [Heap.modify_apply] at slot ⊢
  split at slot
  · rename_i same
    rw [if_pos same, userIdx]
    exact valid a i (by rwa [user] at slot)
  · rename_i other
    rw [if_neg other]
    exact valid a i slot

/-- A fresh entry gets a user before anybody reads it. -/
theorem UsersValid.take {malloc : Option HttpConnection} {connect : Addr}
    {f : HttpConnection → HttpConnection} {guest : Option Addr} (valid : UsersValid build s)
    (allocated : s.allocConnection malloc = some (connect, s'))
    (written : ∀ e i, (f e).user = .slot i → i < build.acountNum ∧ (f e).userIdx = i) :
    UsersValid build { s' with heap := s'.heap.modify connect f, connectGuest := guest } := by
  obtain ⟨-, -, kept⟩ := allocConnection_data allocated
  intro a i slot
  simp only [Heap.modify_apply] at slot ⊢
  split at slot
  · rename_i same
    rw [if_pos same]
    exact written _ i slot
  · rename_i other
    rw [if_neg other]
    have user : (s'.heap a).user = (s.heap a).user := congrArg (fun e => e.user) (kept a other)
    have userIdx : (s'.heap a).userIdx = (s.heap a).userIdx :=
      congrArg (fun e => e.userIdx) (kept a other)
    rw [userIdx]
    exact valid a i (by rwa [user] at slot)

/-- An effect keeps the users valid. -/
theorem UsersValid.effect (valid : UsersValid build s) (effect : Effect build opens s s') :
    UsersValid build s' := by
  cases effect with
  | request _ => exact valid
  | attach _ _ _ => exact valid.modify (fun _ => rfl) (fun _ => rfl)
  | @freeRequest r req now _ =>
    unfold Server.freeRequest
    cases req.connect with
    | none => exact valid
    | some connect => exact valid.modify (fun _ => rfl) (fun _ => rfl)
  | openGuest _ _ allocated => exact valid.take allocated (fun _ _ slot => by cases slot)
  | openSlot _ inside allocated =>
    refine valid.take allocated (fun e i slot => ?_)
    cases slot
    exact ⟨inside, rfl⟩
  | revoke => exact valid.modify (fun _ => rfl) (fun _ => rfl)
  | configure => exact valid

/-- A release keeps the users valid. -/
theorem UsersValid.freeConnection (valid : UsersValid build s) (connect : Addr) :
    UsersValid build (s.freeConnection connect) := by
  intro a i slot
  rw [freeConnection_heap] at slot ⊢
  exact valid a i slot

end

/-- Every action keeps the users valid. -/
theorem UsersValid.step {build : Build} {sys sys' : System} {act : Act}
    (valid : UsersValid build sys.server) (step : Step build sys act sys') :
    UsersValid build sys'.server := by
  rcases step.cases with effects | ⟨r, req, connect, -, -, -, freed⟩ |
    ⟨now, rounds, sweep, -, swept, same⟩
  · exact effects.invariant (fun _ _ valid effect => valid.effect effect) valid
  · rw [freed]
    exact valid.freeConnection connect
  · rw [same]
    exact sweep_invariant (UsersValid build) swept
      (fun t connect valid _ => valid.freeConnection connect) valid

/-- The users are valid in every state reached. -/
theorem UsersValid.run {build : Build} {accounts : Nat → Account} {mode : Nat} {acts : List Act}
    {guard : System → Act → Prop} {sys : System}
    (run : Run (Step build) guard (System.boot accounts mode) acts sys) :
    UsersValid build sys.server :=
  Run.invariant (fun sys => UsersValid build sys.server)
    (fun _ _ _ valid _ step => valid.step step) run (fun _ _ slot => by cases slot)

/-! ## Pointers -/

/-- Every pointer is to an entry that was allocated. -/
structure Bounded (s : Server) : Prop where
  /-- `connect_ready` points to such an entry. -/
  ready : ∀ a, s.connectReady = some a → a < s.brk
  /-- So does `connect_free`. -/
  free : ∀ a, s.connectFree = some a → a < s.brk
  /-- So does a link. -/
  next : ∀ a b, s.next a = some b → b < s.brk
  /-- So does a link back. -/
  last : ∀ a b, s.last a = some b → b < s.brk
  /-- So does a request. -/
  held : ∀ r a, s.connectOf r = some a → a < s.brk

section
variable {build : Build} {opens : Prop} {s s' : Server}

/-- What a pointer leads to was allocated. -/
theorem Bounded.reaches (bounded : Bounded s) {head : Option Addr} {a : Addr}
    (start : ∀ b, head = some b → b < s.brk) (reached : Reaches s.next head a) : a < s.brk := by
  induction reached with
  | here a => exact start a rfl
  | later _ ih => exact ih (bounded.next _)

/-- The pointers after fields other than the links were written. -/
theorem Bounded.modify (bounded : Bounded s) {connect : Addr} {f : HttpConnection → HttpConnection}
    {requests : ReqId → Option Request} {connectGuest : Option Addr}
    (next : ∀ e, (f e).next = e.next) (last : ∀ e, (f e).last = e.last)
    (held : ∀ r a, (requests r).bind Request.connect = some a → a < s.brk) :
    Bounded { s with heap := s.heap.modify connect f, requests, connectGuest } := by
  refine ⟨bounded.ready, bounded.free, fun a b link => ?_, fun a b link => ?_, held⟩
  · simp only [Server.next, Heap.modify_apply] at link
    split at link
    · exact bounded.next a b (by rwa [next] at link)
    · exact bounded.next a b link
  · simp only [Server.last, Heap.modify_apply] at link
    split at link
    · exact bounded.last a b (by rwa [last] at link)
    · exact bounded.last a b link

/-- Pushing an allocated entry in front of `connect_ready`. -/
theorem Bounded.linkReady (bounded : Bounded s) {c : Addr} (allocated : c < s.brk) :
    Bounded { s with heap := s.heap.linkReady c s.connectReady, connectReady := some c } := by
  refine ⟨fun a first => ?_, bounded.free, fun a b link => ?_, fun a b link => ?_, bounded.held⟩
  · cases first
    exact allocated
  · simp only [Server.next, Heap.linkReady_apply] at link
    split at link
    · exact bounded.ready b link
    · exact bounded.next a b link
  · simp only [Server.last, Heap.linkReady_apply] at link
    split at link
    · cases link
      exact allocated
    · split at link
      · cases link
      · exact bounded.last a b link

/-- `alloc_connection` keeps the pointers bounded. -/
theorem Bounded.alloc (bounded : Bounded s) {malloc : Option HttpConnection} {c : Addr}
    (allocated : s.allocConnection malloc = some (c, s')) : Bounded s' ∧ s.brk ≤ s'.brk := by
  rcases allocConnection_cases allocated with ⟨first, rfl⟩ | ⟨-, rfl, -, junk, -, rfl⟩
  · have popped : Bounded { s with connectFree := s.next c } :=
      ⟨bounded.ready, bounded.next c, bounded.next, bounded.last, bounded.held⟩
    exact ⟨popped.linkReady (bounded.free c first), Nat.le_refl _⟩
  · have older : ∀ a, a < s.brk → a < s.brk + 1 := fun a => Nat.lt_succ_of_lt
    refine ⟨⟨fun a first => ?_, fun a first => older a (bounded.free a first), fun a b link => ?_,
      fun a b link => ?_, fun r a holds => older a (bounded.held r a holds)⟩, Nat.le_succ _⟩
    · cases first
      exact Nat.lt_succ_self _
    · simp only [Server.next, Heap.linkReady_apply] at link
      split at link
      · exact older b (bounded.ready b link)
      · rename_i other
        rw [Heap.modify_apply, if_neg other] at link
        exact older b (bounded.next a b link)
    · simp only [Server.last, Heap.linkReady_apply] at link
      split at link
      · cases link
        exact Nat.lt_succ_self _
      · split at link
        · cases link
        · rename_i other
          rw [Heap.modify_apply, if_neg other] at link
          exact older b (bounded.last a b link)

/-- `free_connection` keeps the pointers bounded. -/
theorem Bounded.freeConnection (bounded : Bounded s) {c : Addr} (allocated : c < s.brk) :
    Bounded (s.freeConnection c) := by
  refine ⟨fun a first => ?_, fun a first => ?_, fun a b link => ?_, fun a b link => ?_, bounded.held⟩
  · simp only [Server.freeConnection] at first
    split at first
    · exact bounded.next c a first
    · exact bounded.ready a first
  · cases first
    exact allocated
  · rw [freeConnection_next] at link
    split at link
    · exact bounded.free b link
    · split at link
      · exact bounded.next c b link
      · exact bounded.next a b link
  · rw [freeConnection_last] at link
    split at link
    · exact bounded.last c b link
    · exact bounded.last a b link

/-- An effect keeps the pointers bounded. -/
theorem Bounded.effect (bounded : Bounded s) (effect : Effect build opens s s') : Bounded s' := by
  have written : ∀ (r : ReqId) (req : Option Request),
      (∀ a, req.bind Request.connect = some a → a < s.brk) →
      ∀ x a, (Function.update s.requests r req x).bind Request.connect = some a → a < s.brk := by
    intro r req held x a holds
    by_cases same : x = r
    · subst same
      rw [Function.update_self] at holds
      exact held a holds
    · rw [Function.update_of_ne same] at holds
      exact bounded.held x a holds
  cases effect with
  | @request r req kept =>
    refine ⟨bounded.ready, bounded.free, bounded.next, bounded.last, written r (some req) ?_⟩
    intro a holds
    exact bounded.held r a (kept.symm.trans holds)
  | @attach r req connect _ _ ready =>
    refine bounded.modify (fun _ => rfl) (fun _ => rfl) (written r (some _) fun a holds => ?_)
    cases holds
    exact bounded.reaches bounded.ready ready
  | @freeRequest r req now _ =>
    have dropped := written r none (fun a holds => by cases holds)
    unfold Server.freeRequest
    cases req.connect with
    | none => exact ⟨bounded.ready, bounded.free, bounded.next, bounded.last, dropped⟩
    | some connect => exact bounded.modify (fun _ => rfl) (fun _ => rfl) dropped
  | openGuest _ _ allocated =>
    have taken := (bounded.alloc allocated).1
    exact taken.modify (fun _ => rfl) (fun _ => rfl) taken.held
  | openSlot _ _ allocated =>
    have taken := (bounded.alloc allocated).1
    exact taken.modify (fun _ => rfl) (fun _ => rfl) taken.held
  | revoke => exact bounded.modify (fun _ => rfl) (fun _ => rfl) bounded.held
  | configure => exact ⟨bounded.ready, bounded.free, bounded.next, bounded.last, bounded.held⟩

/-- A sweep keeps the pointers bounded, its own one included. -/
theorem Bounded.sweepAfter (bounded : Bounded s) (now : Int) (rounds : Nat) :
    Bounded (s.sweepAfter rounds now).server ∧
      ∀ a, (s.sweepAfter rounds now).cursor = some a → a < (s.sweepAfter rounds now).server.brk := by
  induction rounds with
  | zero => exact ⟨bounded, bounded.ready⟩
  | succ rounds ih =>
    rw [Server.sweepAfter] at ih
    rw [Server.sweepAfter, Function.iterate_succ_apply', Sweep.advance]
    split
    · exact ih
    · rename_i connect cursor
      split
      · have freed := ih.1.freeConnection (ih.2 connect cursor)
        exact ⟨freed, freed.next connect⟩
      · exact ⟨ih.1, ih.1.next connect⟩

end

/-- Every action keeps the pointers bounded. -/
theorem Bounded.step {build : Build} {sys sys' : System} {act : Act} (bounded : Bounded sys.server)
    (step : Step build sys act sys') : Bounded sys'.server := by
  rcases step.cases with effects | ⟨r, req, connect, -, live, held, freed⟩ |
    ⟨now, rounds, sweep, -, swept, same⟩
  · exact effects.invariant (fun _ _ bounded effect => bounded.effect effect) bounded
  · rw [freed]
    apply bounded.freeConnection
    apply bounded.held r connect
    rw [Server.connectOf, live]
    exact held
  · rw [same, (Server.sweep_over swept).2]
    exact (bounded.sweepAfter now rounds).1

/-- The pointers are bounded in every state reached. -/
theorem Bounded.run {build : Build} {accounts : Nat → Account} {mode : Nat} {acts : List Act}
    {guard : System → Act → Prop} {sys : System}
    (run : Run (Step build) guard (System.boot accounts mode) acts sys) : Bounded sys.server := by
  have start : Bounded (System.boot accounts mode).server := by
    refine ⟨?_, ?_, ?_, ?_, ?_⟩
    · exact fun _ first => by cases first
    · exact fun _ first => by cases first
    · exact fun _ _ link => by cases link
    · exact fun _ _ link => by cases link
    · exact fun _ _ holds => by cases holds
  exact Run.invariant (fun sys => Bounded sys.server)
    (fun _ _ _ bounded _ step => bounded.step step) run start

end BoaIpcam
