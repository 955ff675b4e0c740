import BoaIpcam.Session.Login

/-!
# The account commands and privileges

The first slot belongs to the system administrator. `add_user` lets the account of that name
raise its authority, because only the first slot is expected to have it; but `uri_user_mod`, which
notices that a name exists and goes on, can give the name to a second slot. As long as no page
request does that, the commands give nobody more authority than an administrator decided.
-/
namespace BoaIpcam

open LinkedList TransitionSystem

/-- The user an account command is about. -/
def Command.names : Command → Option (List UInt8)
  | .addUser value => (splitAtByte 58 value).map Prod.fst
  | .delUser value => some value
  | .userMod args => (Server.userModArgs args (none, none, ascii "1")).1
  | .userDel value => some value
  | _ => none

/-- What an account command may do to the table: nothing; write the account of the request's
connection, keeping its name and not raising it unless it has the name of the first account; or,
for an administrator, fill a slot of that name or a free one, or clear a slot of that name. -/
inductive TableWrite (build : Build) (s : Server) (req : Request) (command : Command) :
    (Nat → Account) → Prop
  | keep : TableWrite build s req command s.accounts
  | own {connect : Addr} {i : Nat} {n : List UInt8} {account : Account}
      (named : command.names = some n) (held : req.connect = some connect)
      (owner : (s.heap connect).user = .slot i) (inside : i < build.acountNum)
      (same : StrCaseEq n (s.accounts i).name) (name : account.name = (s.accounts i).name)
      (admin : build.admin ≤ account.authority ∨ account.authority = (s.accounts i).authority)
      (lowered : StrCaseEq (s.accounts 0).name (s.accounts i).name →
        account.authority ≤ (s.accounts i).authority)
      (raised : ¬StrCaseEq (s.accounts 0).name (s.accounts i).name →
        (s.accounts i).authority ≤ account.authority) :
      TableWrite build s req command (Function.update s.accounts i account)
  | fill {connect : Addr} {k : Nat} {n : List UInt8} {account : Account}
      (named : command.names = some n) (held : req.connect = some connect)
      (administrator : req.authority = build.admin) (later : 0 < k) (name : account.name = n)
      (same : StrCaseEq n (s.accounts k).name ∨ (s.accounts k).name = [])
      (twin : StrCaseEq n (s.accounts 0).name →
        (∃ args, command = .userMod args) ∧ ¬StrCaseEq n (s.userName (s.heap connect).user)) :
      TableWrite build s req command (Function.update s.accounts k account)
  | clear {k : Nat} {n : List UInt8} (named : command.names = some n)
      (administrator : req.authority = build.admin) (later : k ≠ 0)
      (same : StrCaseEq n (s.accounts k).name) :
      TableWrite build s req command (Function.update s.accounts k ⟨[], [], build.none⟩)

section
variable {build : Build} {rounds : Nat} {s s' : Server} {r : ReqId} {req : Request}
  {out : List UInt8}

/-- `add_user` names the user it writes. -/
theorem parseUser_name {value : List UInt8} {user : Account}
    (parsed : Server.parseUser build value = some user) :
    (splitAtByte 58 value).map Prod.fst = some user.name := by
  unfold Server.parseUser at parsed
  split at parsed
  · cases parsed
  rename_i userName rest given
  split at parsed
  · cases parsed
  split at parsed
  · cases parsed
  split at parsed
  · cases parsed
  split at parsed
  · cases parsed
  split at parsed
  · cases parsed
  cases parsed
  rw [given]
  rfl

/-- A later slot is filled by `add_user` only when the first one has another name. -/
theorem addUserLoop_later {accounts : Nat → Account} {userName : List UInt8} {k : Nat}
    (found : Server.addUserLoop accounts userName none (List.range build.acountNum) = some k)
    (later : 0 < k) : ¬StrCaseEq userName (accounts 0).name := by
  intro same
  cases size : build.acountNum with
  | zero =>
    rw [size] at found
    cases found
  | succ n =>
    rw [size, List.range_succ_eq_map, addUserLoop_first same] at found
    cases found
    exact Nat.lt_irrefl 0 later

/-- The connection of a request that is allowed to run an account command belongs to a slot. -/
theorem owner_of_gate {connect : Addr} {command : Command} (valid : UsersValid build s)
    (guests : (s.heap connect).user = .guest → req.authority = build.viewer)
    (gate : req.authority ≤ command.authority build) (account : command.authority build ≤ build.operator) :
    ∃ i < build.acountNum, (s.heap connect).user = .slot i ∧ (s.heap connect).userIdx = i := by
  have lower := build.operator_lt
  cases owner : (s.heap connect).user with
  | guest =>
    have viewer := guests owner
    omega
  | slot i =>
    obtain ⟨inside, index⟩ := valid connect i owner
    exact ⟨i, inside, rfl, index⟩

/-- A deletion writes one slot of the table. -/
theorem Deletes.table {value : List UInt8} {k : Nat} (deletes : Deletes build rounds s req value k s') :
    s'.accounts = Function.update s.accounts k ⟨[], [], build.none⟩ := by
  rcases revokeConnection_cases deletes.cleared with same | ⟨connect, -, same⟩
  · rw [same]
    rfl
  · rw [same]
    rfl

/-- What the account commands write. -/
theorem handle_table {command : Command} (valid : UsersValid build s)
    (guests : ∀ connect, req.connect = some connect → (s.heap connect).user = .guest →
      req.authority = build.viewer)
    (gate : req.authority ≤ command.authority build)
    (handled : s.handle build rounds r req command = some (out, s'))
    (other : command ≠ .logout) (quiet : ∀ value mallocs, command ≠ .login value mallocs) :
    TableWrite build s req command s'.accounts := by
  have middle := build.admin_lt
  cases command with
  | login value mallocs => exact absurd rfl (quiet value mallocs)
  | logout => exact absurd rfl other
  | addUser value =>
    cases addUser_result handled with
    | refused _ => exact .keep
    | own parsed held own lowered raised =>
      obtain ⟨i, inside, owner, index⟩ :=
        owner_of_gate valid (guests _ held) gate (Nat.le_refl _)
      rw [owner, index] at lowered raised
      rw [owner] at own
      rw [index]
      exact .own (parseUser_name parsed) held owner inside own rfl
        (.inl (parseUser_authority parsed).1) lowered raised
    | filled parsed held administrator later found =>
      exact .fill (parseUser_name parsed) held administrator later rfl
        (addUserLoop_found found (fun _ blank => by cases blank))
        (fun twin => absurd twin (addUserLoop_later found later))
  | delUser value =>
    rcases delUser_cases handled with rfl | ⟨k, -, deletes⟩
    · exact .keep
    · rw [deletes.table]
      exact .clear rfl deletes.administrator deletes.deletable.1 deletes.named
  | userMod args =>
    cases userMod_result handled with
    | refused _ => exact .keep
    | full => exact .keep
    | own parsed held own =>
      obtain ⟨i, inside, owner, index⟩ :=
        owner_of_gate valid (guests _ held) gate (Nat.le_of_lt middle)
      rw [owner] at own
      rw [index]
      exact .own (userModUser_name parsed).1 held owner inside own rfl (.inr rfl)
        (fun _ => Nat.le_refl _) (fun _ => Nat.le_refl _)
    | @added user connect k parsed held other administrator later found =>
      have free : (s.accounts k).name = [] := by simpa using List.find?_some found
      exact .fill (userModUser_name parsed).1 held administrator later rfl (.inr free)
        (fun _ => ⟨⟨args, rfl⟩, other⟩)
  | userDel value =>
    rcases userDel_cases handled with rfl | ⟨k, -, deletes⟩
    · exact .keep
    · rw [deletes.table]
      exact .clear rfl deletes.administrator deletes.deletable.1 deletes.named

/-- A login leaves the table alone. -/
theorem checkUser_table {name passwd : List UInt8} {mallocs : Mallocs} {code : LoginCode}
    (returned : s.checkUser build rounds r req name passwd mallocs = some (code, s')) :
    s'.accounts = s.accounts := by
  rcases checkUser_cases returned with ⟨-, -, rfl⟩ | ⟨s₁, ensured, answer⟩
  · rfl
  have table := (ensureGuest_frame ensured).1
  cases answer with
  | served _ => exact table
  | opened _ _ allocated => exact (allocConnection_frame allocated).2.1.trans table
  | failed _ => exact table

/-- The authority of a request is that of its guest connection. -/
def GuestAuthority (build : Build) (s : Server) (r : ReqId) : Prop :=
  ∀ req connect, s.requests r = some req → req.connect = some connect →
    (s.heap connect).user = .guest → req.authority = build.viewer

/-- A request that takes a guest connection gets the authority of a viewer. -/
theorem attach_guest (build : Build) (s : Server) (r : ReqId) (req : Request) (connect : Addr) :
    GuestAuthority build (s.attach build r req connect) r := by
  intro req' connect' live held guest
  simp only [Server.attach, Function.update_self, Option.some.injEq] at live
  subst live
  cases held
  have kept : ((s.attach build r req connect).heap connect).user = (s.heap connect).user := by
    simp [Server.attach, Heap.modify_apply]
  rw [kept] at guest
  simp only [guest, Server.userAuth]

/-- After a login the request has the authority of its guest connection. -/
theorem checkUser_guest {name passwd : List UInt8} {mallocs : Mallocs} {code : LoginCode}
    (returned : s.checkUser build rounds r req name passwd mallocs = some (code, s'))
    (live : s.requests r = some req) (alone : req.connect = none) : GuestAuthority build s' r := by
  have unconnected : ∀ t : Server, t.requests = s.requests → GuestAuthority build t r := by
    intro t requests req' connect live' held
    rw [requests, live] at live'
    cases live'
    rw [alone] at held
    cases held
  rcases checkUser_cases returned with ⟨-, -, rfl⟩ | ⟨s₁, ensured, answer⟩
  · exact unconnected _ rfl
  cases answer with
  | served _ => exact attach_guest build s₁ r req _
  | opened _ _ _ => exact attach_guest build _ r req _
  | failed _ =>
    apply unconnected
    rcases ensureGuest_cases ensured with rfl | ⟨-, -, connect, s₁, allocated, rfl⟩
    · rfl
    · exact (allocConnection_frame allocated).1

/-- `process_header_end` before the handler leaves the table alone, and gives the request the
authority of its guest connection. -/
theorem authorize_guest {login : Option (List UInt8)} {mallocs : Mallocs} {code : LoginCode}
    (returned : s.authorize build rounds r req login mallocs = some (code, s'))
    (alone : req.connect = none) : GuestAuthority build s' r ∧ s'.accounts = s.accounts := by
  have updated : (s.setRequest r { req with authority := build.none }).requests r =
      some { req with authority := build.none } := Function.update_self ..
  unfold Server.authorize at returned
  dsimp only at returned
  split at returned
  · have table := checkUser_table returned
    exact ⟨checkUser_guest returned updated alone, table⟩
  · split at returned
    · cases returned
      refine ⟨fun req' connect live held => ?_, rfl⟩
      rw [updated] at live
      cases live
      exact absurd (alone.symm.trans held) (by simp)
    · have table := checkUser_table returned
      exact ⟨checkUser_guest returned updated alone, table⟩

/-- `user_login` leaves the table alone, and gives the request the authority of its guest
connection. -/
theorem userLogin_guest {value : List UInt8} {mallocs : Mallocs}
    (handled : s.userLogin build rounds r req value mallocs = some (out, s'))
    (live : s.requests r = some req) (guest : GuestAuthority build s r) :
    GuestAuthority build s' r ∧ s'.accounts = s.accounts := by
  unfold Server.userLogin at handled
  split at handled
  · cases handled
    exact ⟨guest, rfl⟩
  rename_i connected
  split at handled
  · cases handled
    exact ⟨guest, rfl⟩
  obtain ⟨⟨code, s₁⟩, returned, same⟩ := Option.map_eq_some_iff.mp handled
  cases same
  have alone : req.connect = none := by simpa using connected
  exact ⟨checkUser_guest returned live alone, checkUser_table returned⟩

/-- The account commands change neither the requests nor whose the connections are. -/
theorem handle_users {command : Command}
    (handled : s.handle build rounds r req command = some (out, s'))
    (other : command ≠ .logout) (quiet : ∀ value mallocs, command ≠ .login value mallocs) :
    s'.requests = s.requests ∧ ∀ a, (s'.heap a).user = (s.heap a).user := by
  have deleted : ∀ value k, Deletes build rounds s req value k s' →
      s'.requests = s.requests ∧ ∀ a, (s'.heap a).user = (s.heap a).user := by
    intro value k deletes
    rcases revokeConnection_cases deletes.cleared with same | ⟨connect, -, same⟩
    · rw [same]
      exact ⟨rfl, fun _ => rfl⟩
    · rw [same]
      refine ⟨rfl, fun a => ?_⟩
      simp only [Heap.modify_apply]
      split <;> rfl
  cases command with
  | login value mallocs => exact absurd rfl (quiet value mallocs)
  | logout => exact absurd rfl other
  | addUser value =>
    cases addUser_result handled with
    | refused _ => exact ⟨rfl, fun _ => rfl⟩
    | own => exact ⟨rfl, fun _ => rfl⟩
    | filled => exact ⟨rfl, fun _ => rfl⟩
  | delUser value =>
    rcases delUser_cases handled with rfl | ⟨k, -, deletes⟩
    · exact ⟨rfl, fun _ => rfl⟩
    · exact deleted value k deletes
  | userMod args =>
    cases userMod_result handled with
    | refused _ => exact ⟨rfl, fun _ => rfl⟩
    | full => exact ⟨rfl, fun _ => rfl⟩
    | own => exact ⟨rfl, fun _ => rfl⟩
    | added => exact ⟨rfl, fun _ => rfl⟩
  | userDel value =>
    rcases userDel_cases handled with rfl | ⟨k, -, deletes⟩
    · exact ⟨rfl, fun _ => rfl⟩
    · exact deleted value k deletes

end

/-! ## Along a run -/

/-- The request whose handlers run has the authority of its guest connection. -/
def RunningGuest (build : Build) (sys : System) : Prop :=
  ∀ r, sys.running = some r → GuestAuthority build sys.server r

/-- No handlers run. -/
theorem RunningGuest.idle {build : Build} {sys : System} (idle : sys.running = none) :
    RunningGuest build sys := by
  intro r running
  rw [idle] at running
  cases running

/-- Only the handlers of one request run. -/
theorem RunningGuest.only {build : Build} {sys : System} {r : ReqId} (running : sys.running = some r)
    (guest : GuestAuthority build sys.server r) : RunningGuest build sys := by
  intro r' running'
  rw [running] at running'
  cases running'
  exact guest

/-- What a command does to the table, and to the authority of its request. -/
theorem command_table {build : Build} {rounds : Nat} {s s' : Server} {r : ReqId} {req : Request}
    {command : Command} {out : List UInt8} (valid : UsersValid build s)
    (guest : GuestAuthority build s r) (live : s.requests r = some req)
    (gate : req.authority ≤ command.authority build)
    (handled : s.handle build rounds r req command = some (out, s')) :
    GuestAuthority build s' r ∧
      (s'.accounts = s.accounts ∨ TableWrite build s req command s'.accounts) := by
  have other : command ≠ .logout → (∀ value mallocs, command ≠ .login value mallocs) →
      GuestAuthority build s' r ∧
        (s'.accounts = s.accounts ∨ TableWrite build s req command s'.accounts) := by
    intro other quiet
    obtain ⟨requests, users⟩ := handle_users handled other quiet
    have table := handle_table valid (fun connect held => guest req connect live held) gate handled
      other quiet
    refine ⟨?_, .inr table⟩
    intro req' connect live' held owner
    rw [requests] at live'
    rw [users] at owner
    exact guest req' connect live' held owner
  cases command with
  | login value mallocs =>
    have kept := userLogin_guest handled live guest
    exact ⟨kept.1, .inl kept.2⟩
  | logout =>
    obtain ⟨connect, held, same⟩ := Option.map_eq_some_iff.mp handled
    cases same
    refine ⟨?_, .inl rfl⟩
    intro req' connect' live' held' owner
    rw [freeConnection_heap] at owner
    exact guest req' connect' live' held' owner
  | addUser value => exact other (by simp) (by simp)
  | delUser value => exact other (by simp) (by simp)
  | userMod args => exact other (by simp) (by simp)
  | userDel value => exact other (by simp) (by simp)

/-- What an action does to the table, and that it keeps `RunningGuest`. -/
theorem Step.table {build : Build} {sys sys' : System} {act : Act}
    (valid : UsersValid build sys.server) (guests : RunningGuest build sys)
    (step : Step build sys act sys') :
    RunningGuest build sys' ∧
      (sys'.server.accounts = sys.server.accounts ∨
        ∃ r req command, act = .command r command ∧ sys.server.requests r = some req ∧
          TableWrite build sys.server req command sys'.server.accounts) := by
  have again := step
  obtain ⟨rounds, done⟩ := step
  cases act with
  | accept r remoteIp timeLast =>
    simp only [System.exec] at done
    split at done
    · rename_i idle
      cases done
      exact ⟨RunningGuest.idle idle.1, .inl rfl⟩
    · cases done
  | authorize r login mallocs =>
    simp only [System.exec] at done
    split at done
    · cases done
    rename_i req live
    split at done
    · rename_i idle
      obtain ⟨⟨code, server⟩, returned, rfl⟩ := Option.map_eq_some_iff.mp done
      obtain ⟨guest, table⟩ := authorize_guest returned idle.2
      refine ⟨?_, .inl table⟩
      by_cases unavailable : code = .serviceUnavailable
      · exact RunningGuest.idle (if_pos unavailable)
      · exact RunningGuest.only (if_neg unavailable) guest
    · cases done
  | command r command =>
    obtain ⟨req, live, running, rfl | ⟨gate, rounds, out, server, handled, rfl⟩⟩ :=
      again.command_cases
    · exact ⟨guests, .inl rfl⟩
    obtain ⟨guest, table⟩ := command_table valid (guests r running) live gate handled
    refine ⟨RunningGuest.only running guest, table.imp_right fun write => ?_⟩
    exact ⟨r, req, command, rfl, live, write⟩
  | finish =>
    cases done
    exact ⟨RunningGuest.idle rfl, .inl rfl⟩
  | complete r now =>
    simp only [System.exec] at done
    split at done
    · cases done
    rename_i req live
    split at done
    · rename_i idle
      cases done
      refine ⟨RunningGuest.idle idle, .inl ?_⟩
      dsimp only
      rw [Server.freeRequest]
      split <;> rfl
    · cases done
  | sweep now =>
    simp only [System.exec] at done
    split at done
    · rename_i idle
      obtain ⟨sweep, swept, rfl⟩ := Option.map_eq_some_iff.mp done
      refine ⟨RunningGuest.idle idle, .inl ?_⟩
      exact sweep_invariant (fun t => t.accounts = sys.server.accounts) swept
        (fun t connect same _ => same) rfl
    · cases done
  | setMode userAuthMode =>
    cases done
    exact ⟨guests, .inl rfl⟩

/-- The first slot has its administrator, and no other slot has that name. -/
structure Administered (build : Build) (first : List UInt8) (accounts : Nat → Account) : Prop where
  /-- The first slot has the name. -/
  name : (accounts 0).name = first
  /-- It has the authority. -/
  authority : (accounts 0).authority = build.admin
  /-- No other slot has the name. -/
  unique : ∀ k, 0 < k → k < build.acountNum → ¬StrCaseEq (accounts k).name first

/-- A page request that names the account of the first slot comes from that account. -/
def NoTwin (sys : System) (act : Act) : Prop :=
  ∀ r args req connect n, act = .command r (.userMod args) → sys.server.requests r = some req →
    req.connect = some connect → (Command.userMod args).names = some n →
    StrCaseEq n (sys.server.accounts 0).name →
    StrCaseEq n (sys.server.userName (sys.server.heap connect).user)

section
variable {build : Build} {first : List UInt8} {s : Server} {req : Request} {command : Command}
  {accounts' : Nat → Account}

/-- A later slot may be written with another name than that of the first one. -/
theorem Administered.update_later {accounts : Nat → Account} {i : Nat} {account : Account}
    (administered : Administered build first accounts) (later : i ≠ 0)
    (other : ¬StrCaseEq account.name first) :
    Administered build first (Function.update accounts i account) := by
  obtain ⟨name, authority, unique⟩ := administered
  refine ⟨?_, ?_, fun k positive below => ?_⟩
  · rw [Function.update_of_ne (Ne.symm later)]
    exact name
  · rw [Function.update_of_ne (Ne.symm later)]
    exact authority
  · by_cases here : k = i
    · rw [here, Function.update_self]
      exact other
    · rw [Function.update_of_ne here]
      exact unique k positive below

/-- The account commands keep the administrator in the first slot, and its name to it. -/
theorem Administered.write (administered : Administered build first s.accounts) (nonempty : first ≠ [])
    (noTwin : ∀ connect n, (∃ args, command = .userMod args) → req.connect = some connect →
      command.names = some n → StrCaseEq n (s.accounts 0).name →
      StrCaseEq n (s.userName (s.heap connect).user))
    (write : TableWrite build s req command accounts') : Administered build first accounts' := by
  have name := administered.name
  have authority := administered.authority
  have unique := administered.unique
  cases write with
  | keep => exact administered
  | @own connect i n account named held owner inside same kept admin lowered raised =>
    by_cases zero : i = 0
    · subst zero
      have notMore := lowered (StrCaseEq.refl _)
      refine ⟨?_, ?_, fun k positive below => ?_⟩
      · rw [Function.update_self, kept, name]
      · rw [Function.update_self]
        rcases admin with admin | admin
        · omega
        · rw [admin, authority]
      · rw [Function.update_of_ne (Nat.ne_of_gt positive)]
        exact unique k positive below
    · apply administered.update_later zero
      rw [kept]
      exact unique i (Nat.pos_of_ne_zero zero) inside
  | @fill connect k n account named held administrator later kept same twin =>
    apply administered.update_later (Nat.ne_of_gt later)
    intro taken
    rw [kept, ← name] at taken
    obtain ⟨page, notOwn⟩ := twin taken
    exact notOwn (noTwin connect n page held named taken)
  | @clear k n named administrator later same =>
    apply administered.update_later later
    intro taken
    exact nonempty (strCaseEq_nil_right.mp taken.symm)

/-- Only the slot that is written changes. -/
theorem eq_of_changed {accounts : Nat → Account} {i k : Nat} {account : Account}
    (changed : Function.update accounts i account k ≠ accounts k) : k = i := by
  by_contra other
  exact changed (Function.update_of_ne other ..)

/-- What a write to the table changes: a slot with the name the command gives, or a free one, and
without an administrator only the account of the request, which is not raised. -/
theorem Administered.contained (administered : Administered build first s.accounts)
    (write : TableWrite build s req command accounts') {k : Nat}
    (changed : accounts' k ≠ s.accounts k) :
    ∃ n, command.names = some n ∧
      (StrCaseEq n (s.accounts k).name ∨ (s.accounts k).name = []) ∧
      (req.authority ≠ build.admin →
        (∃ connect, req.connect = some connect ∧
          StrCaseEq (s.accounts k).name (s.userName (s.heap connect).user)) ∧
        (s.accounts k).authority ≤ (accounts' k).authority) := by
  cases write with
  | keep => exact absurd rfl changed
  | @own connect i n account named held owner inside same kept admin lowered raised =>
    have here := eq_of_changed changed
    subst here
    refine ⟨n, named, .inl same, fun _ => ⟨⟨connect, held, ?_⟩, ?_⟩⟩
    · rw [owner]
      exact StrCaseEq.refl _
    · rw [Function.update_self]
      by_cases twin : StrCaseEq (s.accounts 0).name (s.accounts k).name
      · rcases Nat.eq_zero_or_pos k with rfl | positive
        · rcases admin with admin | admin
          · rw [administered.authority]
            exact admin
          · exact Nat.le_of_eq admin.symm
        · rw [administered.name] at twin
          exact absurd twin.symm (administered.unique k positive inside)
      · exact raised twin
  | @fill connect i n account named held administrator later kept same twin =>
    have here := eq_of_changed changed
    subst here
    exact ⟨n, named, same, fun low => absurd administrator low⟩
  | @clear i n named administrator later same =>
    have here := eq_of_changed changed
    subst here
    exact ⟨n, named, .inl same, fun low => absurd administrator low⟩

end

/-- What the actions keep when no page request of another account names the first one. -/
structure FirstKept (build : Build) (first : List UInt8) (sys : System) : Prop where
  /-- An entry belongs to an account that there is. -/
  valid : UsersValid build sys.server
  /-- A running guest has the guest entry. -/
  guests : RunningGuest build sys
  /-- The first slot has its administrator. -/
  administered : Administered build first sys.server.accounts

/-- It holds before the first request. -/
theorem FirstKept.boot {build : Build} {first : List UInt8} {accounts : Nat → Account} (mode : Nat)
    (administered : Administered build first accounts) :
    FirstKept build first (System.boot accounts mode) where
  valid _ _ slot := by cases slot
  guests _ running := by cases running
  administered := administered

/-- An action keeps it. -/
theorem FirstKept.step {build : Build} {first : List UInt8} {sys sys' : System} {act : Act}
    (kept : FirstKept build first sys) (nonempty : first ≠ []) (noTwin : NoTwin sys act)
    (step : Step build sys act sys') : FirstKept build first sys' := by
  obtain ⟨guests, same | ⟨r, req, command, rfl, live, write⟩⟩ := step.table kept.valid kept.guests
  · refine ⟨kept.valid.step step, guests, ?_⟩
    rw [same]
    exact kept.administered
  · refine ⟨kept.valid.step step, guests, kept.administered.write nonempty ?_ write⟩
    rintro connect n ⟨args, rfl⟩ held names taken
    exact noTwin r args req connect n rfl live held names taken

/-- In every run from a table whose first slot holds an administrator with a name of its own, in
which no page request of another account names it: the first slot keeps its name and its
authority, and whatever slot an action changes has the name that the action's command gives, or
was free; without the authority of an administrator that slot is the account the request is
logged in as, and its authority is not raised. -/
theorem no_privilege_escalation {build : Build} {accounts : Nat → Account} {mode : Nat}
    {acts : List Act} {sys : System} (named : (accounts 0).name ≠ [])
    (administered : Administered build (accounts 0).name accounts)
    (run : Run (Step build) NoTwin (System.boot accounts mode) acts sys) :
    (sys.server.accounts 0).name = (accounts 0).name ∧
      (sys.server.accounts 0).authority = build.admin ∧
      ∀ act sys' k, Step build sys act sys' → sys'.server.accounts k ≠ sys.server.accounts k →
        ∃ r req command n, act = .command r command ∧ sys.server.requests r = some req ∧
          command.names = some n ∧
          (StrCaseEq n (sys.server.accounts k).name ∨ (sys.server.accounts k).name = []) ∧
          (req.authority ≠ build.admin →
            (∃ connect, req.connect = some connect ∧ StrCaseEq (sys.server.accounts k).name
              (sys.server.userName (sys.server.heap connect).user)) ∧
            (sys.server.accounts k).authority ≤ (sys'.server.accounts k).authority) := by
  have kept := Run.invariant (FirstKept build (accounts 0).name)
    (fun _ _ _ kept noTwin step => kept.step named noTwin step) run (.boot mode administered)
  refine ⟨kept.administered.name, kept.administered.authority, fun act sys' k step changed => ?_⟩
  obtain ⟨-, same | ⟨r, req, command, rfl, live, write⟩⟩ := step.table kept.valid kept.guests
  · exact absurd (congrFun same k) changed
  · obtain ⟨n, names, right, low⟩ := kept.administered.contained write changed
    exact ⟨r, req, command, n, rfl, live, names, right, low⟩

/-- A request that runs one command. -/
def session (login : String) (command : Command) : List Act :=
  [.accept 0 1 0, .authorize 0 (some (ascii login)) plenty, .command 0 command, .finish,
    .complete 0 0]

/-- The administrator gives a second user the same authority. -/
theorem no_privilege_escalation_add :
    ∃ sys, Run (Step .small) NoTwin (System.boot smallAccounts 1)
        (session "admin:a" (.addUser (ascii "eve:e:0"))) sys ∧
      sys.server.accounts 2 = ⟨ascii "eve", ascii "e", 0⟩ ∧
      (sys.server.accounts 0).name = (smallAccounts 0).name ∧
      (sys.server.accounts 0).authority = Build.small.admin ∧
      ∀ act sys' k, Step .small sys act sys' → sys'.server.accounts k ≠ sys.server.accounts k →
        ∃ r req command n, act = .command r command ∧ sys.server.requests r = some req ∧
          command.names = some n ∧
          (StrCaseEq n (sys.server.accounts k).name ∨ (sys.server.accounts k).name = []) ∧
          (req.authority ≠ Build.small.admin →
            (∃ connect, req.connect = some connect ∧ StrCaseEq (sys.server.accounts k).name
              (sys.server.userName (sys.server.heap connect).user)) ∧
            (sys.server.accounts k).authority ≤ (sys'.server.accounts k).authority) := by
  obtain ⟨sys, run, facts⟩ := System.execAll_run .small 4 (fun _ _ => true)
    (System.boot smallAccounts 1) (session "admin:a" (.addUser (ascii "eve:e:0"))) NoTwin
    (fun sys => sys.server.accounts 2 = ⟨ascii "eve", ascii "e", 0⟩)
    (by simp [session, NoTwin]) (by decide)
  have unique : ∀ k < 4, 0 < k → ¬StrCaseEq (smallAccounts k).name (smallAccounts 0).name := by
    decide
  exact ⟨sys, run, of_decide_eq_true facts, no_privilege_escalation (by decide)
    ⟨rfl, rfl, fun k positive below => unique k below positive⟩ run⟩

/-- A second administrator gives the name of the first account to another slot through the page;
who logs in there as an operator makes itself an administrator. -/
theorem twin_raises_itself :
    ∃ sys sys' req, Run (Step .small) (fun _ _ => True) (System.boot smallAccounts 1)
        (session "admin:a" (.addUser (ascii "eve:e:0")) ++
          session "eve:e" (.userMod [(ascii "name", ascii "admin"), (ascii "password", ascii "x"),
            (ascii "group", ascii "1")]) ++
          [.accept 0 1 0, .authorize 0 (some (ascii "admin:x")) plenty]) sys ∧
      Step .small sys (.command 0 (.addUser (ascii "admin:x:0"))) sys' ∧
      sys.server.requests 0 = some req ∧ req.authority ≠ Build.small.admin ∧
      (sys'.server.accounts 3).authority < (sys.server.accounts 3).authority := by
  obtain ⟨sys, run, facts⟩ := System.execAll_run .small 4 (fun _ _ => true)
    (System.boot smallAccounts 1)
    (session "admin:a" (.addUser (ascii "eve:e:0")) ++
      session "eve:e" (.userMod [(ascii "name", ascii "admin"), (ascii "password", ascii "x"),
        (ascii "group", ascii "1")]) ++
      [.accept 0 1 0, .authorize 0 (some (ascii "admin:x")) plenty])
    (fun _ _ => True)
    (fun sys => (sys.server.requests 0).any (fun req => req.authority ≠ Build.small.admin) = true ∧
      (sys.exec .small 4 (.command 0 (.addUser (ascii "admin:x:0")))).any (fun sys' =>
        (sys'.server.accounts 3).authority < (sys.server.accounts 3).authority) = true)
    (by simp) (by decide)
  obtain ⟨operator, raised⟩ := of_decide_eq_true facts
  obtain ⟨req, live, low⟩ := (Option.any_eq_true _ _).mp operator
  obtain ⟨sys', done, raised⟩ := (Option.any_eq_true _ _).mp raised
  exact ⟨sys, sys', req, run, ⟨4, done⟩, live, of_decide_eq_true low, of_decide_eq_true raised⟩

end BoaIpcam
