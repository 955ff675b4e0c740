import BoaIpcam.Session.Sweep
import Mathlib.Algebra.BigOperators.Fin

/-!
# Requests and their connections

The `counter` of an entry is the number of live requests that hold it. The sweep frees only
entries with counter zero, so no request is left with a released entry. `user_logout` frees the
entry of its request whatever its counter is, and leaves the request pointing to it.
-/
namespace BoaIpcam

open LinkedList TransitionSystem

/-- The number of live requests whose `connect` is the entry. -/
def refs (s : Server) (a : Addr) : Nat :=
  (Finset.univ.filter fun r => s.connectOf r = some a).card

/-- Changing a function at one point changes how often it takes a value by what happens there. -/
theorem card_filter_update {α β : Type} [Fintype α] [DecidableEq α] [DecidableEq β] (f : α → β)
    (x : α) (v b : β) :
    (Finset.univ.filter fun y => Function.update f x v y = b).card + (if f x = b then 1 else 0) =
      (Finset.univ.filter fun y => f y = b).card + (if v = b then 1 else 0) := by
  have elsewhere : ∑ y ∈ Finset.univ.erase x, (if Function.update f x v y = b then 1 else 0) =
      ∑ y ∈ Finset.univ.erase x, (if f y = b then 1 else 0) := by
    refine Finset.sum_congr rfl fun y other => ?_
    rw [Function.update_of_ne (Finset.ne_of_mem_erase other)]
  rw [Finset.card_filter, Finset.card_filter, ← Finset.add_sum_erase _ _ (Finset.mem_univ x),
    ← Finset.add_sum_erase _ _ (Finset.mem_univ x), elsewhere, Function.update_self]
  omega

/-- The entries on `connect_ready` count the requests that hold them, and requests hold no other
entries. -/
structure Consistent (s : Server) (ready free : List Addr) : Prop where
  /-- The lists are well formed. -/
  lists : Lists s ready free
  /-- An entry counts its requests. -/
  counter : ∀ a ∈ ready, (s.heap a).counter = refs s a
  /-- A request holds a listed entry. -/
  held : ∀ r a, s.connectOf r = some a → a ∈ ready

section
variable {build : Build} {opens : Prop} {s s' : Server} {ready free : List Addr}

/-- The invariant depends on the lists, the counters and the connections of the requests. -/
theorem Consistent.congr (consistent : Consistent s ready free) (lists : Lists s' ready free)
    (counter : ∀ a ∈ ready, (s'.heap a).counter = (s.heap a).counter)
    (connectOf : s'.connectOf = s.connectOf) : Consistent s' ready free where
  lists
  counter a member := by
    rw [counter a member, consistent.counter a member, refs, refs, connectOf]
  held r a holds := consistent.held r a (by rwa [connectOf] at holds)

/-- A request that had no connection takes one of `connect_ready`. -/
theorem Consistent.attach {r : ReqId} {req : Request} {connect : Addr}
    (consistent : Consistent s ready free) (live : s.requests r = some req)
    (alone : req.connect = none) (member : connect ∈ ready) :
    Consistent (s.attach build r req connect) ready free := by
  have before : s.connectOf r = none := by rw [Server.connectOf, live]; exact alone
  have after : (s.attach build r req connect).connectOf =
      Function.update s.connectOf r (some connect) := connectOf_update s _ r (some _)
  refine ⟨?_, ?_, ?_⟩
  · have kept := consistent.lists.modify connect
      (f := fun e => { e with counter := e.counter + 1, timeLast := req.timeLast })
      (fun _ => rfl) (fun _ => rfl)
    exact kept.congr rfl rfl rfl rfl rfl consistent.lists.guest_mem
  · intro a inside
    have counted := card_filter_update s.connectOf r (some connect) (some a)
    have old := consistent.counter a inside
    have written : ((s.attach build r req connect).heap a).counter =
        (s.heap a).counter + if some connect = some a then 1 else 0 := by
      simp only [Server.attach, Heap.modify_apply]
      by_cases same : a = connect
      · simp [same]
      · simp [same, Ne.symm same]
    rw [before, if_neg (by simp)] at counted
    rw [written, old, refs, refs, after]
    split at counted <;> simp_all
  · intro x a holds
    rw [after] at holds
    by_cases same : x = r
    · subst same
      rw [Function.update_self] at holds
      cases holds
      exact member
    · rw [Function.update_of_ne same] at holds
      exact consistent.held x a holds

/-- A request gives its connection back. -/
theorem Consistent.freeRequest {r : ReqId} {req : Request} {now : Int}
    (consistent : Consistent s ready free) (live : s.requests r = some req) :
    Consistent (s.freeRequest r req now) ready free := by
  have before : s.connectOf r = req.connect := by rw [Server.connectOf, live]; rfl
  cases held : req.connect with
  | none =>
    have same : s.freeRequest r req now = { s with requests := Function.update s.requests r none } := by
      rw [Server.freeRequest, held]
    rw [same]
    have after : ({ s with requests := Function.update s.requests r none } : Server).connectOf =
        s.connectOf := by
      rw [connectOf_update s s.heap r none, Option.bind_none, ← held, ← before,
        Function.update_eq_self]
    exact consistent.congr (consistent.lists.congr rfl rfl rfl rfl rfl consistent.lists.guest_mem)
      (fun _ _ => rfl) after
  | some connect =>
    have same : s.freeRequest r req now = { s with
        heap := s.heap.modify connect fun e => { e with counter := e.counter - 1, timeLast := now }
        requests := Function.update s.requests r none } := by
      rw [Server.freeRequest, held]
    rw [same]
    have after := connectOf_update s
      (s.heap.modify connect fun e => { e with counter := e.counter - 1, timeLast := now }) r none
    rw [Option.bind_none] at after
    refine ⟨?_, ?_, ?_⟩
    · have kept := consistent.lists.modify connect
        (f := fun e => { e with counter := e.counter - 1, timeLast := now })
        (fun _ => rfl) (fun _ => rfl)
      exact kept.congr rfl rfl rfl rfl rfl consistent.lists.guest_mem
    · intro a inside
      have counted := card_filter_update s.connectOf r none (some a)
      have old := consistent.counter a inside
      rw [before, held, if_neg (by simp : ¬none = some a)] at counted
      rw [refs, after]
      rw [refs] at old
      simp only [Heap.modify_apply]
      by_cases equal : a = connect
      · subst equal
        rw [if_pos rfl] at counted
        rw [if_pos rfl]
        dsimp only
        omega
      · rw [if_neg (fun other => equal (Option.some.inj other).symm)] at counted
        rw [if_neg equal]
        omega
    · intro x a holds
      rw [after] at holds
      by_cases equal : x = r
      · subst equal
        rw [Function.update_self] at holds
        cases holds
      · rw [Function.update_of_ne equal] at holds
        exact consistent.held x a holds

/-- An entry is taken that no request holds, whatever is then written into its other fields. -/
theorem Consistent.take {malloc : Option HttpConnection} {connect : Addr}
    {f : HttpConnection → HttpConnection} {guest : Option Addr}
    (consistent : Consistent s ready free)
    (allocated : s.allocConnection malloc = some (connect, s'))
    (next : ∀ e, (f e).next = e.next) (last : ∀ e, (f e).last = e.last)
    (counter : ∀ e, (f e).counter = e.counter)
    (named : guest = s'.connectGuest ∨ guest = some connect) :
    ∃ ready' free', Consistent
      { s' with heap := s'.heap.modify connect f, connectGuest := guest } ready' free' := by
  obtain ⟨zero, -, kept⟩ := allocConnection_data allocated
  have requests := (allocConnection_frame allocated).1
  have connectOf : ({ s' with heap := s'.heap.modify connect f, connectGuest := guest } :
      Server).connectOf = s.connectOf := by
    funext r
    exact congrArg (fun req => Option.bind req Request.connect) (congrFun requests r)
  obtain ⟨free', lists, unheld⟩ : ∃ free', Lists s' (connect :: ready) free' ∧ connect ∉ ready := by
    rcases consistent.lists.alloc allocated with ⟨rest, rfl, moved, -⟩ | ⟨rfl, rfl, moved, -⟩
    · exact ⟨rest, moved, (List.nodup_cons.mp moved.readyChain.chain.nodup).1⟩
    · exact ⟨[], moved, (List.nodup_cons.mp moved.readyChain.chain.nodup).1⟩
  refine ⟨connect :: ready, free', ?_, ?_, ?_⟩
  · refine (lists.modify connect next last).congr rfl rfl rfl rfl rfl fun g points => ?_
    rcases named with rfl | rfl
    · exact lists.guest_mem g points
    · cases points
      exact List.mem_cons_self
  · intro a member
    rw [refs, connectOf]
    simp only [Heap.modify_apply]
    rcases List.mem_cons.mp member with rfl | inside
    · have none : (Finset.univ.filter fun r => s.connectOf r = some a) = ∅ := by
        refine Finset.filter_eq_empty_iff.mpr fun r _ holds => ?_
        exact unheld (consistent.held r a holds)
      rw [if_pos rfl, counter, zero, none]
      rfl
    · have other : a ≠ connect := fun same => unheld (same ▸ inside)
      have same := congrArg HttpConnection.counter (kept a other)
      rw [if_neg other]
      exact Eq.trans same (consistent.counter a inside)
  · intro r a holds
    rw [connectOf] at holds
    exact List.mem_cons_of_mem connect (consistent.held r a holds)

/-- An effect keeps requests and connections consistent. -/
theorem Consistent.effect (consistent : Consistent s ready free) (effect : Effect build opens s s') :
    ∃ ready' free', Consistent s' ready' free' := by
  have lists := consistent.lists
  cases effect with
  | @request r req kept =>
    have after : (s.setRequest r req).connectOf = s.connectOf := by
      have updated := connectOf_update s s.heap r (some req)
      rw [Option.bind_some, kept, Function.update_eq_self] at updated
      exact updated
    exact ⟨_, _, consistent.congr (lists.congr rfl rfl rfl rfl rfl lists.guest_mem)
      (fun _ _ => rfl) after⟩
  | attach live alone ready =>
    exact ⟨_, _, consistent.attach live alone ((lists.readyChain.chain.reaches_iff _).mp ready)⟩
  | freeRequest live => exact ⟨_, _, consistent.freeRequest live⟩
  | @openGuest s₁ malloc connect _ _ allocated =>
    exact consistent.take (f := fun e => { e with user := .guest }) allocated (fun _ => rfl)
      (fun _ => rfl) (fun _ => rfl) (.inr rfl)
  | @openSlot s₁ malloc connect i remoteIp _ _ allocated =>
    exact consistent.take (f := fun e => { e with user := .slot i, userIdx := i, ipaddr := remoteIp })
      allocated (fun _ => rfl) (fun _ => rfl) (fun _ => rfl) (.inl rfl)
  | @revoke connect =>
    have kept := lists.modify connect (f := fun e => { e with revoke := true })
      (fun _ => rfl) (fun _ => rfl)
    refine ⟨_, _, consistent.congr kept (fun a _ => ?_) rfl⟩
    simp only [Heap.modify_apply]
    split <;> rfl
  | configure =>
    exact ⟨_, _, consistent.congr (lists.congr rfl rfl rfl rfl rfl lists.guest_mem)
      (fun _ _ => rfl) rfl⟩

/-- Releasing an entry with counter zero leaves no request behind. -/
theorem Consistent.release {left right : List Addr} {c : Addr}
    (consistent : Consistent s (left ++ c :: right) free) (idle : (s.heap c).counter = 0) :
    Consistent (s.freeConnection c) (left ++ right) (c :: free) := by
  have lists := consistent.lists.release
  have unheld : ∀ r, s.connectOf r ≠ some c := by
    intro r holds
    have counted := consistent.counter c (by simp)
    have positive : 0 < refs s c :=
      Finset.card_pos.mpr ⟨r, Finset.mem_filter.mpr ⟨Finset.mem_univ r, holds⟩⟩
    omega
  have inside : ∀ a ∈ left ++ right, a ∈ left ++ c :: right := by
    intro a member
    rcases List.mem_append.mp member with member | member
    · exact List.mem_append_left _ member
    · exact List.mem_append_right _ (List.mem_cons_of_mem c member)
  refine ⟨lists, fun a member => ?_, fun r a holds => ?_⟩
  · rw [freeConnection_heap]
    exact consistent.counter a (inside a member)
  · have member := consistent.held r a holds
    have other : a ≠ c := fun same => unheld r (same ▸ holds)
    simp only [List.mem_append, List.mem_cons] at member ⊢
    rcases member with member | member | member
    · exact .inl member
    · exact absurd member other
    · exact .inr member

end

/-! ## Along a run -/

/-- An action releases connections properly: it is no logout of a request that has one, and no
sweep that finds expired entries on both lists. -/
structure Releases (sys : System) (act : Act) : Prop where
  /-- A logout has no entry. -/
  logout : ∀ r, act = .command r .logout → sys.server.connectOf r = none
  /-- An expired entry is on one list. -/
  sweep : ∀ now a f, act = .sweep now → Reaches sys.server.next sys.server.connectReady a →
    sys.server.Expired now a → Reaches sys.server.next sys.server.connectFree f →
    ¬sys.server.Expired now f

section
variable {build : Build} {sys sys' : System} {act : Act} {ready free : List Addr}

/-- Every action that meets the condition keeps requests and connections consistent. -/
theorem Consistent.step (consistent : Consistent sys.server ready free)
    (releases : Releases sys act) (step : Step build sys act sys') :
    ∃ ready' free', Consistent sys'.server ready' free' := by
  rcases step.cases with effects | ⟨r, req, connect, rfl, live, held, -⟩ |
    ⟨now, rounds, sweep, rfl, swept, same⟩
  · have preserved : ∀ t t', (∃ ready free, Consistent t ready free) →
        Effect build (sys.NeedsEntry build act) t t' → ∃ ready free, Consistent t' ready free := by
      rintro t t' ⟨ready, free, consistent⟩ effect
      exact consistent.effect effect
    exact effects.invariant preserved ⟨ready, free, consistent⟩
  · have none := releases.logout r rfl
    rw [Server.connectOf, live] at none
    exact absurd (held.symm.trans none) (by simp)
  · rw [same]
    rcases sweep_cases consistent.lists swept with ⟨-, rfl⟩ | ⟨left, c, right, rfl, -, expired, -, rfl⟩
    · exact ⟨ready, free, consistent⟩
    · exact ⟨_, _, consistent.release expired.2.1⟩

end

end BoaIpcam
