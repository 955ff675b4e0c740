import BoaIpcam.Session.Entries

/-!
# Deleting an account

A deletion should end the sessions of the account. `del_user` and `uri_user_del` clear the slot
first and then revoke by name; but the entries of the account read their name from the slot, so
it is empty by then, and none of them is found. A session ends only if it was revoked before.
-/
namespace BoaIpcam

open LinkedList TransitionSystem

/-- The slot a deletion clears. -/
def System.deletes (build : Build) (sys : System) : Act → Option Nat
  | .command r (.delUser value) =>
    (sys.server.requests r).bind fun req =>
      if req.authority = build.admin then
        (sys.server.delUserSlot build value).filter fun k => Server.Deletable build k
      else none
  | .command r (.userDel value) =>
    (sys.server.requests r).bind fun req =>
      if req.authority = build.admin then
        (sys.server.userDelSlot build value).filter fun k => Server.Deletable build k
      else none
  | _ => none

/-- The entry has not been put on `connect_free`. -/
def Held (e : Addr) (sys : System) : Prop :=
  ¬Reaches sys.server.next sys.server.connectFree e

/-- The entries on `connect_ready` that belong to a slot. -/
structure Session (sys : System) (k : Nat) (e : Addr) : Prop where
  /-- It is on `connect_ready`. -/
  ready : Reaches sys.server.next sys.server.connectReady e
  /-- It is not on `connect_free`. -/
  held : Held e sys
  /-- It belongs to the slot. -/
  owner : (sys.server.heap e).user = .slot k

/-- The entry is revoked. -/
structure Ended (e : Addr) (s : Server) : Prop where
  /-- It has the mark. -/
  revoke : (s.heap e).revoke = true
  /-- It was allocated. -/
  allocated : e < s.brk

section
variable {build : Build} {s s' : Server} {e : Addr}

/-- A revoked connection serves nobody. -/
theorem Ended.not_serves (ended : Ended e s) (remoteIp : UInt32) (name passwd : List UInt8) :
    ¬s.Serves remoteIp name passwd e := by
  intro serves
  have alive := serves.1
  rw [ended.revoke] at alive
  cases alive

/-- Writing other fields than `revoke`. -/
theorem Ended.modify (ended : Ended e s) {connect : Addr} {f : HttpConnection → HttpConnection}
    {requests : ReqId → Option Request} {connectGuest : Option Addr}
    (revoke : ∀ e, e.revoke = true → (f e).revoke = true) :
    Ended e { s with heap := s.heap.modify connect f, requests, connectGuest } := by
  refine ⟨?_, ended.allocated⟩
  simp only [Heap.modify_apply]
  split
  · exact revoke _ ended.revoke
  · exact ended.revoke

/-- Where no entry is opened a revoked one stays revoked. -/
theorem Ended.quiet (ended : Ended e s) (effects : Effects build False s s') : Ended e s' := by
  refine effects.invariant (fun t t' ended effect => ?_) ended
  cases effect with
  | request _ => exact ⟨ended.revoke, ended.allocated⟩
  | attach _ _ _ => exact ended.modify fun _ revoked => revoked
  | @freeRequest r req now _ =>
    unfold Server.freeRequest
    cases req.connect with
    | none => exact ⟨ended.revoke, ended.allocated⟩
    | some connect => exact ended.modify fun _ revoked => revoked
  | openGuest allowed => exact allowed.elim
  | openSlot allowed => exact allowed.elim
  | revoke => exact ended.modify fun _ _ => rfl
  | configure => exact ⟨ended.revoke, ended.allocated⟩

/-- Another entry is taken. -/
theorem Ended.alloc (ended : Ended e s) {malloc : Option HttpConnection} {c : Addr}
    (allocated : s.allocConnection malloc = some (c, s')) (other : s.connectFree ≠ some e) :
    Ended e s' ∧ c ≠ e := by
  have distinct : c ≠ e := by
    rintro rfl
    rcases allocConnection_cases allocated with ⟨first, -⟩ | ⟨-, fresh, -⟩
    · exact other first
    · exact Nat.lt_irrefl _ (fresh ▸ ended.allocated)
  have kept := (allocConnection_data allocated).2.2 e (Ne.symm distinct)
  have revoke : (s'.heap e).revoke = (s.heap e).revoke := congrArg (fun e => e.revoke) kept
  have grown : s.brk ≤ s'.brk := by
    rcases allocConnection_cases allocated with ⟨-, rfl⟩ | ⟨-, -, -, junk, -, rfl⟩
    · exact Nat.le_refl _
    · exact Nat.le_succ _
  exact ⟨⟨revoke.trans ended.revoke, Nat.lt_of_lt_of_le ended.allocated grown⟩, distinct⟩

/-- Releasing an entry leaves it revoked. -/
theorem Ended.freeConnection (ended : Ended e s) (connect : Addr) :
    Ended e (s.freeConnection connect) := by
  refine ⟨?_, ended.allocated⟩
  rw [freeConnection_heap]
  exact ended.revoke

/-- The start of `check_user` takes the first entry of `connect_free`; the one after it is not
the revoked one either. -/
theorem Ended.ensureGuest (ended : Ended e s) {malloc : Option HttpConnection}
    (held : ¬Reaches s.next s.connectFree e) (ensured : s.ensureGuest malloc = some s') :
    Ended e s' ∧ s'.connectFree ≠ some e := by
  have other : s.connectFree ≠ some e := by
    intro first
    rw [first] at held
    exact held (.here e)
  rcases ensureGuest_cases ensured with rfl | ⟨-, -, connect, s₁, allocated, rfl⟩
  · exact ⟨ended, other⟩
  · refine ⟨(ended.alloc allocated other).1.modify fun _ revoked => revoked, ?_⟩
    rcases allocConnection_cases allocated with ⟨first, rfl⟩ | ⟨none, -, -, junk, -, rfl⟩
    · intro second
      rw [first] at held
      apply held
      apply Reaches.later
      rw [show s.next connect = some e from second]
      exact .here e
    · exact other

/-- A login that does not take the entry leaves it revoked. -/
theorem Ended.checkUser {rounds : Nat} {r : ReqId} {req : Request} {name passwd : List UInt8}
    {mallocs : Mallocs} {code : LoginCode} (ended : Ended e s)
    (held : ¬Reaches s.next s.connectFree e)
    (returned : s.checkUser build rounds r req name passwd mallocs = some (code, s')) :
    Ended e s' := by
  rcases checkUser_cases returned with ⟨-, -, rfl⟩ | ⟨s₁, ensured, answer⟩
  · exact ended
  obtain ⟨ended₁, other⟩ := ended.ensureGuest held ensured
  cases answer with
  | served _ => exact ended₁.modify fun _ revoked => revoked
  | @opened connect i s₂ _ _ allocated =>
    have taken := (ended₁.alloc allocated other).1
    have opened : Ended e (s₂.openSlot connect i req.remoteIp) :=
      taken.modify fun _ revoked => revoked
    exact opened.modify fun _ revoked => revoked
  | failed _ => exact ended₁

end

/-- No action revives a revoked entry that is not on `connect_free`. -/
theorem Ended.step {build : Build} {sys sys' : System} {act : Act} {e : Addr}
    (ended : Ended e sys.server) (held : Held e sys) (step : Step build sys act sys') :
    Ended e sys'.server := by
  cases step.kind with
  | quiet effects => exact ended.quiet effects
  | @login r req _ _ _ _ _ _ returned _ _ _ _ =>
    have written : Ended e (sys.server.setRequest r req) := ⟨ended.revoke, ended.allocated⟩
    exact written.checkUser held returned
  | logout _ _ _ freed =>
    rw [freed]
    exact ended.freeConnection _
  | @sweep now rounds sweep _ swept freed =>
    rw [freed]
    exact sweep_invariant (Ended e) swept (fun t connect ended _ => ended.freeConnection connect)
      ended

/-! ## After a deletion -/

section
variable {build : Build} {sys sys' : System} {act : Act} {k : Nat} {e : Addr}

/-- A deletion clears the slot and then revokes by the name it had. -/
theorem deletes_step (deletes : sys.deletes build act = some k) (step : Step build sys act sys') :
    ∃ rounds value, StrCaseEq value (sys.server.accounts k).name ∧
      sys.server.clearAccount build rounds k value = some sys'.server := by
  obtain ⟨rounds, done⟩ := step
  unfold System.deletes at deletes
  split at deletes
  all_goals try cases deletes
  all_goals
    rename_i r value
    obtain ⟨req, live, found⟩ := Option.bind_eq_some_iff.mp deletes
    split at found
    case isFalse => cases found
    rename_i administrator
    obtain ⟨found, deletable⟩ := Option.filter_eq_some_iff.mp found
    have deletable := of_decide_eq_true deletable
    simp only [System.exec, live, Command.authority, administrator, Nat.le_refl, if_true] at done
    split at done
    case isFalse => cases done
    obtain ⟨⟨out, server⟩, handled, rfl⟩ := Option.map_eq_some_iff.mp done
    refine ⟨rounds, value, by simpa using List.find?_some found, ?_⟩
    simp only [Server.handle, Server.delUser, Server.userDel, Server.deleteAccount, found,
      administrator, deletable, if_true] at handled
    obtain ⟨s₁, cleared, same⟩ := Option.map_eq_some_iff.mp handled
    cases same
    exact cleared

/-- The deletion of an account revokes none of its own sessions: their name is empty by then. -/
theorem deletion_spares_session {rounds : Nat} {value : List UInt8} {s s' : Server}
    (cleared : s.clearAccount build rounds k value = some s')
    (named : StrCaseEq value (s.accounts k).name) (account : (s.accounts k).name ≠ [])
    (owner : (s.heap e).user = .slot k) :
    (s'.heap e).revoke = (s.heap e).revoke ∧ (s'.heap e).user = .slot k ∧
      (s'.heap e).ipaddr = (s.heap e).ipaddr := by
  rcases revokeConnection_cases cleared with rfl | ⟨connect, same, rfl⟩
  · exact ⟨rfl, owner, rfl⟩
  · have other : e ≠ connect := by
      rintro rfl
      have empty : value = [] := by
        have blank : (s.writeAccount k ⟨[], [], build.none⟩).userName (s.heap e).user = [] := by
          rw [owner]
          simp [Server.userName, Server.writeAccount]
        exact strCaseEq_nil_right.mp (blank ▸ same)
      rw [empty] at named
      exact account (strCaseEq_nil_right.mp named.symm)
    simp only [Heap.modify_apply, if_neg other]
    exact ⟨rfl, owner, rfl⟩

/-- A session that was not revoked serves the empty credentials after the deletion. -/
theorem deletion_serves_session (deletes : sys.deletes build act = some k)
    (step : Step build sys act sys') (account : (sys.server.accounts k).name ≠ [])
    (session : Session sys k e) (alive : (sys.server.heap e).revoke = false) :
    Held e sys' ∧ sys'.server.userAuthMode = 1 ∧
      sys'.server.Serves (sys.server.heap e).ipaddr [] [] e := by
  obtain ⟨rounds, value, named, cleared⟩ := deletes_step deletes step
  obtain ⟨revoke, owner, ipaddr⟩ :=
    deletion_spares_session cleared named account session.owner
  have table : (sys'.server.accounts k) = ⟨[], [], build.none⟩ ∧ sys'.server.userAuthMode = 1 ∧
      sys'.server.next = sys.server.next ∧ sys'.server.connectFree = sys.server.connectFree := by
    rcases revokeConnection_cases cleared with same | ⟨connect, -, same⟩
    · rw [same]
      exact ⟨Function.update_self .., rfl, rfl, rfl⟩
    · rw [same]
      refine ⟨Function.update_self .., rfl, ?_, rfl⟩
      funext a
      simp only [Server.next, Heap.modify_apply]
      split <;> rfl
  obtain ⟨slot, mode, next, free⟩ := table
  refine ⟨?_, mode, revoke.trans alive, .inr ipaddr, ?_, ?_⟩
  · rw [Held, next, free]
    exact session.held
  · rw [owner, Server.userName, slot]
    exact StrCaseEq.refl []
  · rw [owner, Server.userPasswd, slot]

end

/-- After every history: when the account of a slot is deleted, its connections on
`connect_ready` are never served from again, as long as they are not released, exactly when all
of them were revoked before. -/
theorem deletion_ends_sessions_iff {build : Build} {accounts : Nat → Account} {mode : Nat}
    {acts : List Act} {sys sys' : System} {act : Act} {k : Nat}
    (run : Run (Step build) (fun _ _ => True) (System.boot accounts mode) acts sys)
    (deletes : sys.deletes build act = some k) (account : (sys.server.accounts k).name ≠ [])
    (step : Step build sys act sys') :
    (∀ e, Session sys k e → ∀ later last, Run (Step build) (fun sys _ => Held e sys) sys' later last →
        Held e last → ∀ malloc s₁, last.server.ensureGuest malloc = some s₁ →
          ∀ remoteIp name passwd, ¬s₁.Serves remoteIp name passwd e) ↔
      ∀ e, Session sys k e → (sys.server.heap e).revoke = true := by
  have bounded := Bounded.run run
  constructor
  · intro ends e session
    by_contra alive
    have alive : (sys.server.heap e).revoke = false := Bool.eq_false_iff.mpr alive
    obtain ⟨held, mode, serves⟩ := deletion_serves_session deletes step account session alive
    have ensured : sys'.server.ensureGuest none = some sys'.server := by
      simp [Server.ensureGuest, mode]
    exact ends e session [] sys' (.stop sys') held none sys'.server ensured _ [] [] serves
  · intro revoked e session later last run' held malloc s₁ ensured remoteIp name passwd
    have start : Ended e sys.server :=
      ⟨revoked e session, bounded.reaches bounded.ready session.ready⟩
    have deleted := start.step session.held step
    have ended := Run.invariant (fun sys => Ended e sys.server)
      (fun _ _ _ ended held step => ended.step held step) run' deleted
    exact (ended.ensureGuest held ensured).1.not_serves remoteIp name passwd

/-- A request asks for the deletion of an account. -/
def deletion (r : ReqId) (name : String) : Act := .command r (.delUser (ascii name))

/-- The second entry of `connect_ready` is a session of its slot when nothing was released. -/
theorem Session.second {sys : System} {k : Nat} {front e : Addr}
    (first : sys.server.connectReady = some front) (second : sys.server.next front = some e)
    (unused : sys.server.connectFree = none) (owner : (sys.server.heap e).user = .slot k) :
    Session sys k e := by
  refine ⟨?_, ?_, owner⟩
  · rw [first]
    apply Reaches.later
    rw [second]
    exact .here e
  · intro reached
    rw [unused] at reached
    cases reached

/-- A user logs in, and an administrator comes to delete the account. -/
def bobThenAdmin (bob admin : ReqId) : List Act :=
  visit bob 2 "bob:b" ++ [.accept admin 1 0, .authorize admin (some (ascii "admin:a")) plenty]

/-- The session of a user who is logged in when the account is deleted is not revoked, and so the
deletion does not end it. -/
theorem deletion_ends_sessions_logged_in :
    ∃ sys sys', Run (Step .small) (fun _ _ => True) (System.boot smallAccounts 1)
        (bobThenAdmin 0 1) sys ∧
      sys.deletes .small (deletion 1 "bob") = some 1 ∧ (sys.server.accounts 1).name ≠ [] ∧
      Step .small sys (deletion 1 "bob") sys' ∧ Session sys 1 0 ∧
      ¬∀ e, Session sys 1 e → ∀ later last,
        Run (Step .small) (fun sys _ => Held e sys) sys' later last →
        Held e last → ∀ malloc s₁, last.server.ensureGuest malloc = some s₁ →
          ∀ remoteIp name passwd, ¬s₁.Serves remoteIp name passwd e := by
  obtain ⟨sys, run, facts⟩ := System.execAll_run .small 4 (fun _ _ => true)
    (System.boot smallAccounts 1) (bobThenAdmin 0 1) (fun _ _ => True)
    (fun sys => sys.deletes .small (deletion 1 "bob") = some 1 ∧
      (sys.server.accounts 1).name ≠ [] ∧ (sys.exec .small 4 (deletion 1 "bob")).isSome = true ∧
      sys.server.connectReady = some 1 ∧ sys.server.next 1 = some 0 ∧
      sys.server.connectFree = none ∧ (sys.server.heap 0).user = .slot 1 ∧
      (sys.server.heap 0).revoke = false)
    (by simp) (by decide)
  obtain ⟨deletes, account, possible, first, second, unused, owner, alive⟩ := of_decide_eq_true facts
  obtain ⟨sys', done⟩ := Option.isSome_iff_exists.mp possible
  have session := Session.second first second unused owner
  refine ⟨sys, sys', run, deletes, account, ⟨4, done⟩, session, fun ends => ?_⟩
  have revoked := (deletion_ends_sessions_iff run deletes account ⟨4, done⟩).mp ends 0 session
  rw [alive] at revoked
  cases revoked

/-- The session of a user whose account is deleted serves the next request from its address that
logs in with empty credentials. -/
theorem deletion_leaves_session :
    ∃ sys sys' last,
      Run (Step .small) (fun _ _ => True) (System.boot smallAccounts 1) (bobThenAdmin 0 1) sys ∧
      sys.deletes .small (deletion 1 "bob") = some 1 ∧
      Step .small sys (deletion 1 "bob") sys' ∧ Session sys 1 0 ∧
      Run (Step .small) (fun sys _ => Held 0 sys) sys' [.finish, .accept 0 2 0] last ∧
      last.server.ensureGuest none = some last.server ∧
      last.server.cached 4 2 [] [] = some (some 0) := by
  obtain ⟨sys, run, facts⟩ := System.execAll_run .small 4 (fun _ _ => true)
    (System.boot smallAccounts 1) (bobThenAdmin 0 1) (fun _ _ => True)
    (fun sys => sys.deletes .small (deletion 1 "bob") = some 1 ∧ sys.server.connectReady = some 1 ∧
      sys.server.next 1 = some 0 ∧ sys.server.connectFree = none ∧
      (sys.server.heap 0).user = .slot 1 ∧
      (sys.exec .small 4 (deletion 1 "bob")).any (fun sys' =>
        (sys'.execAll .small 4 (fun sys _ => sys.server.connectFree = none)
          [.finish, .accept 0 2 0]).any fun last =>
          last.server.userAuthMode = 1 ∧ last.server.cached 4 2 [] [] = some (some 0)) = true)
    (by simp) (by decide)
  obtain ⟨deletes, first, second, unused, owner, rest⟩ := of_decide_eq_true facts
  obtain ⟨sys', done, rest⟩ := (Option.any_eq_true _ _).mp rest
  obtain ⟨last, later, facts⟩ := System.execAll_run .small 4
    (fun sys _ => sys.server.connectFree = none) sys' [.finish, .accept 0 2 0]
    (fun sys _ => Held 0 sys)
    (fun last => last.server.userAuthMode = 1 ∧ last.server.cached 4 2 [] [] = some (some 0))
    (by
      intro act _ sys checked reached
      rw [of_decide_eq_true checked] at reached
      cases reached)
    rest
  obtain ⟨mode, served⟩ := of_decide_eq_true facts
  have session := Session.second first second unused owner
  have ensured : last.server.ensureGuest none = some last.server := by
    simp [Server.ensureGuest, mode]
  exact ⟨sys, sys', last, run, deletes, ⟨4, done⟩, session, later, ensured, served⟩

end BoaIpcam
