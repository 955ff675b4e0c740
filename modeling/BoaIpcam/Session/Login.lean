import BoaIpcam.Session.Entries

/-!
# Who may log in

`check_user` should accept a name and a password only when they are those of an account that is
there, or the guest's while nobody has to log in. Two answers are too generous: the scan of the
table also accepts the empty credentials of a slot without a user, and a cached guest entry
still serves the guest after `user_auth_mode` has been switched on.
-/
namespace BoaIpcam

open LinkedList TransitionSystem

/-- The name and the password entitle to the authority. -/
def Entitled (build : Build) (s : Server) (name passwd : List UInt8) (authority : Nat) : Prop :=
  (s.userAuthMode = 0 ∧ StrCaseEq name (ascii "guest") ∧ passwd = [] ∧ authority = build.viewer) ∨
    ∃ i < build.acountNum, (s.accounts i).name ≠ [] ∧ s.MatchesSlot name passwd i ∧
      authority = (s.accounts i).authority

instance (build : Build) (s : Server) (name passwd : List UInt8) (authority : Nat) :
    Decidable (Entitled build s name passwd authority) :=
  inferInstanceAs (Decidable (_ ∨ ∃ i, i < build.acountNum ∧ _))

/-- No slot without a user has these credentials. -/
def NoFreeSlot (build : Build) (s : Server) (name passwd : List UInt8) : Prop :=
  ∀ i < build.acountNum, (s.accounts i).name = [] → ¬s.MatchesSlot name passwd i

/-- When everybody has to log in, no guest entry of `connect_ready` serves the login. -/
def NoStaleGuest (s : Server) (remoteIp : UInt32) (name passwd : List UInt8) : Prop :=
  s.userAuthMode ≠ 0 → ∀ connect, Reaches s.next s.connectReady connect →
    s.Serves remoteIp name passwd connect → (s.heap connect).user ≠ .guest

section
variable {build : Build} {rounds : Nat} {s s' : Server} {r : ReqId} {req : Request}
  {name passwd : List UInt8} {mallocs : Mallocs}

/-- The authority of a request after it has taken a connection. -/
theorem attach_authority (s : Server) (r : ReqId) (req : Request) (connect : Addr) :
    (((s.attach build r req connect).requests r).map Request.authority) =
      some (s.userAuth build (s.heap connect).user) := by
  simp [Server.attach]

/-- The start of `check_user` changes neither the table nor the mode, and nothing at all when
everybody has to log in. -/
theorem ensureGuest_frame {malloc : Option HttpConnection} (ensured : s.ensureGuest malloc = some s') :
    s'.accounts = s.accounts ∧ s'.userAuthMode = s.userAuthMode ∧
      (s.userAuthMode ≠ 0 → s' = s) := by
  rcases ensureGuest_cases ensured with rfl | ⟨-, mode, connect, s₁, allocated, rfl⟩
  · exact ⟨rfl, rfl, fun _ => rfl⟩
  · obtain ⟨-, accounts, mode', -⟩ := allocConnection_frame allocated
    exact ⟨accounts, mode', fun other => absurd mode other⟩

/-- The start of `check_user` keeps the users valid. -/
theorem UsersValid.ensureGuest {malloc : Option HttpConnection} (valid : UsersValid build s)
    (ensured : s.ensureGuest malloc = some s') : UsersValid build s' := by
  rcases ensureGuest_cases ensured with rfl | ⟨missing, -, connect, s₁, allocated, rfl⟩
  · exact valid
  · exact valid.effect (.openGuest trivial missing allocated)

/-- The credentials of a slot entitle to its authority. -/
theorem entitled_slot {i : Nat} (vacant : NoFreeSlot build s name passwd)
    (inside : i < build.acountNum) (same : s.MatchesSlot name passwd i) :
    Entitled build s name passwd (s.accounts i).authority :=
  .inr ⟨i, inside, fun empty => vacant i inside empty same, same, rfl⟩

/-- A cached connection serves only those who are entitled. -/
theorem entitled_served {connect : Addr} (valid : UsersValid build s)
    (vacant : NoFreeSlot build s name passwd)
    (stale : NoStaleGuest s req.remoteIp name passwd)
    (found : s.cached rounds req.remoteIp name passwd = some (some connect)) :
    Entitled build s name passwd (s.userAuth build (s.heap connect).user) := by
  obtain ⟨hit, reached⟩ := seek_found found
  have serves : s.Serves req.remoteIp name passwd connect := of_decide_eq_true hit
  have sameName := serves.2.2.1
  have samePasswd := serves.2.2.2
  cases user : (s.heap connect).user with
  | guest =>
    rw [user] at sameName samePasswd
    have open_ : s.userAuthMode = 0 := by
      by_contra mode
      exact stale mode connect reached serves user
    exact .inl ⟨open_, sameName, samePasswd, rfl⟩
  | slot i =>
    rw [user] at sameName samePasswd
    exact entitled_slot vacant (valid connect i user).1 ⟨sameName, samePasswd⟩

end

/-- After every history, for every request and every pair of credentials that are not those of a
slot without a user, and that no stale guest entry serves: when `check_user` accepts them, they
entitle to the authority it writes into the request. -/
theorem checkUser_entitled {build : Build} {accounts : Nat → Account} {mode : Nat}
    {acts : List Act} {sys : System} {rounds : Nat} {s' : Server} {r : ReqId} {req : Request}
    {name passwd : List UInt8} {mallocs : Mallocs}
    (run : Run (Step build) (fun _ _ => True) (System.boot accounts mode) acts sys)
    (vacant : NoFreeSlot build sys.server name passwd)
    (stale : NoStaleGuest sys.server req.remoteIp name passwd)
    (accepted : sys.server.checkUser build rounds r req name passwd mallocs = some (.ok, s')) :
    ∃ authority, (s'.requests r).map Request.authority = some authority ∧
      Entitled build sys.server name passwd authority := by
  have valid := UsersValid.run run
  rcases checkUser_cases accepted with ⟨refused, -⟩ | ⟨s₁, ensured, answer⟩
  · cases refused
  obtain ⟨table, mode, same⟩ := ensureGuest_frame ensured
  have valid₁ := valid.ensureGuest ensured
  -- The table and the mode are those before the guest entry was settled.
  have vacant₁ : NoFreeSlot build s₁ name passwd := by
    simpa only [NoFreeSlot, Server.MatchesSlot, table] using vacant
  have entitled : ∀ authority, Entitled build s₁ name passwd authority →
      Entitled build sys.server name passwd authority := by
    intro authority
    simp only [Entitled, Server.MatchesSlot, table, mode]
    exact id
  cases answer with
  | served found =>
    refine ⟨_, attach_authority s₁ r req _, entitled _ ?_⟩
    refine entitled_served valid₁ vacant₁ (fun switched => ?_) found
    rw [mode] at switched
    rw [same switched]
    exact stale switched
  | @opened connect i s₂ missing matching allocated =>
    obtain ⟨inside, matched⟩ := matchingSlot_found matching
    refine ⟨_, attach_authority (s₂.openSlot connect i req.remoteIp) r req connect, entitled _ ?_⟩
    have table₂ := (allocConnection_frame allocated).2.1
    have auth : (s₂.openSlot connect i req.remoteIp).userAuth build
        ((s₂.openSlot connect i req.remoteIp).heap connect).user = (s₁.accounts i).authority := by
      simp only [Server.openSlot, Heap.modify_apply, if_pos, Server.userAuth, table₂]
    rw [auth]
    exact entitled_slot vacant₁ inside matched
  | failed refused => exact absurd rfl refused

/-- An operator logs in with the credentials of the table. -/
theorem checkUser_entitled_operator :
    ∃ sys s', Run (Step .small) (fun _ _ => True) (System.boot smallAccounts 1) [.accept 0 2 0] sys ∧
      sys.server.checkUser .small 4 0 ⟨2, 0, none, 0⟩ (ascii "Bob") (ascii "b") plenty =
        some (.ok, s') ∧
      ∃ authority, (s'.requests 0).map Request.authority = some authority ∧
        Entitled .small sys.server (ascii "Bob") (ascii "b") authority := by
  obtain ⟨sys, run, facts⟩ := System.execAll_run .small 4 (fun _ _ => true)
    (System.boot smallAccounts 1) [.accept 0 2 0] (fun _ _ => True)
    (fun sys => (sys.server.checkUser .small 4 0 ⟨2, 0, none, 0⟩ (ascii "Bob") (ascii "b")
      plenty).any fun result => result.1 = .ok) (by simp) (by decide)
  obtain ⟨⟨code, s'⟩, returned, ok⟩ := (Option.any_eq_true _ _).mp facts
  obtain rfl : code = .ok := of_decide_eq_true ok
  refine ⟨sys, s', run, returned, checkUser_entitled run ?_ ?_ returned⟩
  · intro i _ empty same
    have name : ascii "Bob" = [] := strCaseEq_nil_right.mp (empty ▸ same.1)
    exact absurd name (by decide)
  · intro _ connect _ serves guest
    have name : StrCaseEq (ascii "Bob") (ascii "guest") := by
      have same := serves.2.2.1
      rwa [guest] at same
    exact absurd name (by decide)

/-- Empty credentials are accepted while a slot of the table has no user. -/
theorem checkUser_accepts_free_slot :
    ∃ sys s', Run (Step .small) (fun _ _ => True) (System.boot smallAccounts 1) [.accept 0 2 0] sys ∧
      sys.server.checkUser .small 4 0 ⟨2, 0, none, 0⟩ [] [] plenty = some (.ok, s') ∧
      ∀ authority, ¬Entitled .small sys.server [] [] authority := by
  obtain ⟨sys, run, facts⟩ := System.execAll_run .small 4 (fun _ _ => true)
    (System.boot smallAccounts 1) [.accept 0 2 0] (fun _ _ => True)
    (fun sys => (sys.server.checkUser .small 4 0 ⟨2, 0, none, 0⟩ [] [] plenty).any
      fun result => result.1 = .ok) (by simp) (by decide)
  obtain ⟨⟨code, s'⟩, returned, ok⟩ := (Option.any_eq_true _ _).mp facts
  obtain rfl : code = .ok := of_decide_eq_true ok
  refine ⟨sys, s', run, returned, fun authority entitled => ?_⟩
  rcases entitled with ⟨-, name, -⟩ | ⟨i, -, holds, same, -⟩
  · exact absurd name (by decide)
  · exact holds (strCaseEq_nil_right.mp same.1.symm)

end BoaIpcam
